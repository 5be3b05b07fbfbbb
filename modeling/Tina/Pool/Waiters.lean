import Mathlib.Data.List.Nodup
import Mathlib.Data.List.Perm.Subperm
import Tina.Lib.ListUpdate
import Tina.Pool.Types

/-!
The waiters of a pool: a slab of parked callers with a stack of its free places, and the queue of
the places in the order of arrival.
-/

namespace Tina.Pool

open List Option Lib

/-- `waiter_slab`, `free_waiter_slots`, `live_waiters` and `waiter_queue`. The top of the stack of
free places is the head of the list. -/
structure WaiterTable where
  slab : List (Option DeferredSlotId)
  free : List Nat
  live : Nat
  queue : List Nat

namespace WaiterTable

def empty (maxWaiters : Nat) : WaiterTable :=
  { slab := List.replicate maxWaiters none, free := List.range maxWaiters, live := 0, queue := [] }

/-- Empty a place that holds a waiter. -/
def vacate (table : WaiterTable) (idx : Nat) : WaiterTable :=
  { table with slab := table.slab.set idx none, live := table.live - 1, free := idx :: table.free }

/-- `remove_waiter_slot`; `none` when an index or the count of waiters is out of range. -/
def removeWaiterSlot (table : WaiterTable) (idx : Nat) :
    Option (WaiterTable × Option DeferredSlotId) :=
  match table.slab[idx]? with
  | none => none
  | some none => some (table, none)
  | some (some slot) =>
    if table.live = 0 then none else some (table.vacate idx, some slot)

/-- The loop over the slab that takes out the waiters `test` accepts. -/
def reclaim (test : DeferredSlotId → Bool) (table : WaiterTable) :
    List Nat → Option (WaiterTable × List DeferredSlotId)
  | [] => some (table, [])
  | idx :: rest =>
    if (table.slab[idx]?).join.any test then do
      let (table, waiter) ← table.removeWaiterSlot idx
      let (table, dropped) ← reclaim test table rest
      return (table, waiter.toList ++ dropped)
    else reclaim test table rest

/-- Forget the places in the queue whose waiters are gone. -/
def retainQueue (table : WaiterTable) : Option WaiterTable :=
  if table.queue.all (· < table.slab.length) then
    some { table with queue := table.queue.filter fun idx => (table.slab[idx]?).join.isSome }
  else none

/-- `alloc_waiter_slot`, `store_waiter_slot` and the push to the queue. -/
def park (table : WaiterTable) (slot : DeferredSlotId) : Option WaiterTable :=
  match table.free with
  | [] => none
  | idx :: free =>
    some { slab := table.slab.set idx (some slot)
           free
           live := table.live + 1
           queue := table.queue ++ [idx] }

/-- Take the first waiter of the queue that is still there. -/
def popNext (table : WaiterTable) : List Nat → Option (WaiterTable × Option DeferredSlotId)
  | [] => some ({ table with queue := [] }, none)
  | idx :: rest =>
    match table.removeWaiterSlot idx with
    | none => none
    | some (table, some slot) => some ({ table with queue := rest }, some slot)
    | some (table, none) => popNext table rest

/-- The waiters in the order of arrival. -/
def parked (table : WaiterTable) : List DeferredSlotId :=
  table.queue.filterMap fun idx => (table.slab[idx]?).join

/-- The stack holds the free places, the count counts the others, and all of these are queued. -/
structure Tracked (table : WaiterTable) : Prop where
  freeOnce : table.free.Nodup
  free_iff : ∀ idx, idx ∈ table.free ↔ table.slab[idx]? = some none
  count : table.live = table.slab.countP Option.isSome
  queueOnce : table.queue.Nodup
  queued : ∀ idx slot, table.slab[idx]? = some (some slot) → idx ∈ table.queue

/-- Moreover nothing else is queued. -/
structure Valid (table : WaiterTable) : Prop extends Tracked table where
  waiting : ∀ idx ∈ table.queue, ∃ slot, table.slab[idx]? = some (some slot)

variable {table table' : WaiterTable} {slot : DeferredSlotId}

theorem empty_valid (maxWaiters : Nat) : (empty maxWaiters).Valid where
  freeOnce := nodup_range
  free_iff idx := by simp [empty, getElem?_replicate]
  count := by simp [empty, countP_replicate]
  queueOnce := nodup_nil
  queued idx slot h := by
    simp [empty, getElem?_replicate] at h
  waiting idx h := by simp [empty] at h

section

variable {idx : Nat} (h : table.Tracked) (hslot : table.slab[idx]? = some (some slot))

include h hslot

theorem Tracked.vacate : (table.vacate idx).Tracked := by
  have hi := lt_of_getElem? hslot
  constructor
  case freeOnce =>
    refine nodup_cons.2 ⟨fun hmem => ?_, h.freeOnce⟩
    simp [(h.free_iff idx).1 hmem] at hslot
  case free_iff =>
    intro other
    simp only [WaiterTable.vacate, mem_cons, h.free_iff, getElem?_set]
    by_cases heq : idx = other
    · subst heq
      simp [hi]
    · simp [heq, Ne.symm heq]
  case count =>
    have hcount := countP_set_eq (b := none) isSome hslot
    simp only [isSome_some, if_true, isSome_none, Bool.false_eq_true, if_false] at hcount
    simp only [WaiterTable.vacate, h.count]
    omega
  case queueOnce => exact h.queueOnce
  case queued =>
    intro other slot' hother
    simp only [WaiterTable.vacate, getElem?_set] at hother
    split at hother
    · simp at hother
    · exact h.queued other slot' hother

/-- A waiter that is there can be taken out. -/
theorem removeWaiterSlot_of_waiting :
    table.removeWaiterSlot idx = some (table.vacate idx, some slot) := by
  have hlive : table.live ≠ 0 := by
    rw [h.count]
    apply Nat.ne_of_gt
    exact countP_pos_iff.2 ⟨some slot, mem_of_getElem? hslot, rfl⟩
  simp [removeWaiterSlot, hslot, hlive]

end

/-- The loop empties the places of the waiters that `test` accepts, and no others. -/
theorem reclaim_spec (test : DeferredSlotId → Bool) (idxs : List Nat) (h : table.Tracked) :
    ∃ table' dropped, table.reclaim test idxs = some (table', dropped) ∧ table'.Tracked ∧
      table'.queue = table.queue ∧ table'.slab.length = table.slab.length ∧
      (∀ idx, table'.slab[idx]? =
        if idx ∈ idxs then table.slab[idx]?.map (·.filter (!test ·))
        else table.slab[idx]?) ∧
      (dropped = [] → table' = table) := by
  induction idxs generalizing table with
  | nil => exact ⟨table, [], rfl, h, rfl, rfl, by simp, fun _ => rfl⟩
  | cons idx _ ih =>
  unfold reclaim
  by_cases htest : (table.slab[idx]?).join.any test = true
  · obtain ⟨slot, hslot, hdrop⟩ := (any_eq_true _ _).1 htest
    replace hslot : table.slab[idx]? = some (some slot) := join_eq_some_iff.1 hslot
    obtain ⟨hi, hget⟩ := List.getElem?_eq_some_iff.1 hslot
    obtain ⟨table', dropped, hrun, htracked, hqueue, hlength, hslab, -⟩ := ih (h.vacate hslot)
    refine ⟨table', slot :: dropped, ?_, htracked, hqueue, ?_, fun other => ?_, by simp⟩
    · rw [if_pos htest, removeWaiterSlot_of_waiting h hslot]
      simp [hrun]
    · simpa [vacate] using hlength
    rw [hslab]
    simp only [vacate, getElem?_set, mem_cons]
    by_cases heq : idx = other
    · subst heq
      simp [hi, hget, Option.filter, hdrop]
    · simp [heq, Ne.symm heq]
  obtain ⟨table', dropped, hrun, htracked, hqueue, hlength, hslab, hnone⟩ := ih h
  refine ⟨table', dropped, by rw [if_neg htest, hrun], htracked, hqueue, hlength,
    fun other => ?_, hnone⟩
  rw [hslab]
  by_cases heq : other = idx
  · subst heq
    -- A place that fails the test keeps what it holds.
    have hkeep : table.slab[other]?.map (·.filter (!test ·)) = table.slab[other]? := by
      cases hget : table.slab[other]? with
      | none => rfl
      | some waiter =>
      cases waiter with
      | none => rfl
      | some slot =>
        have hno : test slot = false := by simpa [hget] using htest
        simp [hno]
    simp [hkeep]
  · simp [heq]

/-- The waiters that stay keep their order. -/
theorem parked_of_filtered {test : DeferredSlotId → Bool} (h : table.Valid)
    (hqueue : table'.queue = table.queue)
    (hslab : ∀ idx < table.slab.length,
      table'.slab[idx]? = table.slab[idx]?.map (·.filter (!test ·))) :
    table'.parked = table.parked.filter fun slot => !test slot := by
  simp only [parked, hqueue, filter_filterMap]
  apply filterMap_congr
  intro idx hidx
  obtain ⟨slot, hslot⟩ := h.waiting idx hidx
  have hi := lt_of_getElem? hslot
  rw [hslab idx hi, hslot]
  cases htest : test slot <;> simp [Option.filter, htest]

/-- With the queue swept as well, the table is in order again. -/
theorem retainQueue_spec (h : table.Tracked)
    (hbound : ∀ idx ∈ table.queue, idx < table.slab.length) :
    ∃ table', table.retainQueue = some table' ∧ table'.Valid ∧ table'.parked = table.parked ∧
      table'.slab.length = table.slab.length := by
  refine ⟨_, if_pos (by simpa using hbound), ⟨⟨h.freeOnce, h.free_iff, h.count, ?_, ?_⟩, ?_⟩, ?_,
    rfl⟩
  · exact h.queueOnce.filter _
  · intro idx slot hslot
    have hslot' : table.slab[idx]? = some (some slot) := hslot
    exact mem_filter.2 ⟨h.queued idx slot hslot, by simp [hslot']⟩
  · intro idx hidx
    obtain ⟨slot, hslot⟩ := isSome_iff_exists.1 (mem_filter.1 hidx).2
    exact ⟨slot, join_eq_some_iff.1 hslot⟩
  · simp only [parked, filterMap_filter]
    apply filterMap_congr
    intro idx _
    cases (table.slab[idx]?).join <;> rfl

/-- Take out the waiters that `test` accepts, from the slab and from the queue. -/
def sweep (test : DeferredSlotId → Bool) (table : WaiterTable) :
    Option (WaiterTable × List DeferredSlotId) := do
  let (table, dropped) ← table.reclaim test (List.range table.slab.length)
  if dropped.isEmpty then return (table, dropped)
  else
    let table ← table.retainQueue
    return (table, dropped)

theorem sweep_spec (test : DeferredSlotId → Bool) (h : table.Valid) :
    ∃ table' dropped, table.sweep test = some (table', dropped) ∧ table'.Valid ∧
      table'.parked = (table.parked.filter (!test ·)) ∧
      table'.slab.length = table.slab.length := by
  obtain ⟨swept, dropped, hrun, htracked, hqueue, hlength, hslab, hnone⟩ :=
    reclaim_spec test (range table.slab.length) h.toTracked
  have hparked : swept.parked = table.parked.filter fun slot => !test slot := by
    apply parked_of_filtered h hqueue
    intro idx hidx
    rw [hslab, if_pos (mem_range.2 hidx)]
  unfold sweep
  rw [hrun]
  by_cases hdropped : dropped = []
  · obtain rfl := hnone hdropped
    exact ⟨swept, dropped, by simp [hdropped], h, hparked, rfl⟩
  have hbound : ∀ idx ∈ swept.queue, idx < swept.slab.length := by
    intro idx hidx
    obtain ⟨slot, hslot⟩ := h.waiting idx (hqueue ▸ hidx)
    have := lt_of_getElem? hslot
    omega
  obtain ⟨table', hretain, hvalid, hsame, hlength'⟩ := retainQueue_spec htracked hbound
  exact ⟨table', dropped, by simp [hdropped, hretain], hvalid, hsame.trans hparked,
    hlength'.trans hlength⟩

/-- A caller that finds a free place is parked behind all others. -/
theorem park_spec (slot : DeferredSlotId) (h : table.Valid) (hfree : table.free ≠ []) :
    ∃ table', table.park slot = some table' ∧ table'.Valid ∧
      table'.parked = table.parked ++ [slot] ∧ table'.slab.length = table.slab.length := by
  obtain ⟨idx, free, hcons⟩ := exists_cons_of_ne_nil hfree
  have hempty : table.slab[idx]? = some none := (h.free_iff idx).1 (by simp [hcons])
  have hi := lt_of_getElem? hempty
  have hfresh : idx ∉ table.queue := by
    intro hmem
    obtain ⟨other, hother⟩ := h.waiting idx hmem
    simp [hempty] at hother
  have hnodup := h.freeOnce
  rw [hcons, nodup_cons] at hnodup
  refine ⟨{ slab := table.slab.set idx (some slot), free, live := table.live + 1,
            queue := table.queue ++ [idx] }, by simp [park, hcons],
              ⟨⟨hnodup.2, ?_, ?_, ?_, ?_⟩, ?_⟩,
    ?_, by simp⟩
  · intro other
    have hiff := h.free_iff other
    rw [hcons, mem_cons] at hiff
    rw [getElem?_set]
    by_cases heq : idx = other
    · subst heq
      simp [hi, hnodup.1]
    · simpa [heq, Ne.symm heq] using hiff
  · have hcount := countP_set_eq (b := some slot) isSome hempty
    simpa [h.count] using hcount.symm
  · exact nodup_append.2 ⟨h.queueOnce, nodup_singleton idx, by
      intro other hother _ hidx heq
      exact hfresh (mem_singleton.1 hidx ▸ heq ▸ hother)⟩
  · intro other slot' hother
    rw [getElem?_set] at hother
    split at hother
    · next heq => simp [heq]
    · exact mem_append_left _ (h.queued other slot' hother)
  · intro other hmem
    rw [getElem?_set]
    by_cases heq : idx = other
    · exact ⟨slot, by simp [← heq, hi]⟩
    rw [if_neg heq]
    apply h.waiting
    simpa [Ne.symm heq] using hmem
  · simp only [parked, filterMap_append]
    congr 1
    · apply filterMap_congr
      intro other hother
      rw [getElem?_set_ne fun heq : idx = other => hfresh (heq ▸ hother)]
    · simp [hi]

/-- The first waiter leaves, and the others keep their order. -/
theorem popNext_spec (h : table.Valid) :
    ∃ table', table.popNext table.queue = some (table', table.parked.head?) ∧ table'.Valid ∧
      table'.parked = table.parked.tail ∧ table'.slab.length = table.slab.length := by
  cases hqueue : table.queue with
  | nil =>
    have hsame : { table with queue := [] } = table := by rw [← hqueue]
    refine ⟨table, ?_, h, ?_, rfl⟩
    · simp [popNext, parked, hqueue, hsame]
    · simp [parked, hqueue]
  | cons idx rest =>
  obtain ⟨_, hslot⟩ := h.waiting idx (by simp [hqueue])
  have hi := lt_of_getElem? hslot
  have hnodup := h.queueOnce
  rw [hqueue, nodup_cons] at hnodup
  have hrest : ∀ other ∈ rest, (table.slab.set idx none)[other]? = table.slab[other]? := by
    intro other hother
    exact getElem?_set_ne fun heq : idx = other => hnodup.1 (heq ▸ hother)
  have hvacate := h.toTracked.vacate hslot
  refine ⟨{ table.vacate idx with queue := rest }, ?_,
    ⟨⟨hvacate.freeOnce, hvacate.free_iff, hvacate.count, hnodup.2, ?_⟩, ?_⟩, ?_, ?_⟩
  · rw [popNext, removeWaiterSlot_of_waiting h.toTracked hslot]
    simp [parked, hqueue, hslot]
  · intro other slot' hother
    have hmem := hvacate.queued other slot' hother
    simp only [vacate, hqueue, mem_cons] at hmem
    rcases hmem with rfl | hmem
    · simp [vacate, hi] at hother
    · exact hmem
  · intro other hother
    obtain ⟨slot', hslot'⟩ := h.waiting other (by simp [hqueue, hother])
    exact ⟨slot', (hrest other hother).trans hslot'⟩
  · simp only [parked, hqueue, filterMap_cons, hslot, join_some, tail_cons]
    apply filterMap_congr
    intro other hother
    simp only [vacate]
    rw [hrest other hother]
  · simp [vacate]

/-- `handle_close` settles every waiter, in the order of their places. -/
def clear (table : WaiterTable) : Option (WaiterTable × List DeferredSlotId) := do
  let (table, dropped) ← table.reclaim (fun _ => true) (List.range table.slab.length)
  return ({ table with queue := [] }, dropped)

theorem clear_spec (h : table.Valid) :
    ∃ table' dropped, table.clear = some (table', dropped) ∧ table'.Valid ∧ table'.parked = [] ∧
      table'.slab.length = table.slab.length := by
  obtain ⟨swept, dropped, hrun, htracked, -, hlength, hslab, -⟩ :=
    reclaim_spec (fun _ => true) (range table.slab.length) h.toTracked
  refine ⟨{ swept with queue := [] }, dropped, by simp [clear, hrun],
    ⟨⟨htracked.freeOnce, htracked.free_iff, htracked.count, nodup_nil, ?_⟩, by simp⟩, rfl,
    hlength⟩
  intro idx slot hslot
  have hi := lt_of_getElem? hslot
  rw [hslab, if_pos (mem_range.2 (hlength ▸ hi))] at hslot
  cases hget : table.slab[idx]? with
  | none => simp [hget] at hslot
  | some waiter => simp [hget, Option.filter] at hslot; cases waiter <;> simp at hslot

/-- No more waiters are parked than there are places. -/
theorem Valid.parked_le (h : table.Valid) : table.parked.length ≤ table.slab.length := by
  have hsub : table.queue ⊆ range table.slab.length := by
    intro idx hidx
    obtain ⟨_, hslot⟩ := h.waiting idx hidx
    exact mem_range.2 (lt_of_getElem? hslot)
  calc table.parked.length ≤ table.queue.length := length_filterMap_le _ _
    _ ≤ (range table.slab.length).length := (Nodup.subperm h.queueOnce hsub).length_le
    _ = table.slab.length := length_range

end WaiterTable

end Tina.Pool
