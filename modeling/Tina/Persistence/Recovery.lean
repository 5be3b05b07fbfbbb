import Tina.Lib.ListUpdate
import Tina.Persistence.Outbox

/-!
Recovery of an outbox from a replayed journal, with and without compaction, and what it does
with a journal that holds the records of an outbox.
-/

namespace Tina.Persistence

open Lib DurablePayload List

variable {commit : CommitConfidence} {warning : Option JournalReplayWarning}

inductive TailStatus where
  | clean
  | truncatedTailRepaired (validPrefixLen : Nat)
  | uncertainCommit
deriving DecidableEq

inductive RecoveryError where
  | corruptTail
  | overCapacity (capacity pending : Nat)
  | io
  /-- The counters of the new outbox would leave the range of `u64`: the code panics. -/
  | overflow

inductive CommitConfidence where
  | clean
  | uncertain

structure RecoveryReport (W : Type) where
  tailStatus : TailStatus
  pending : List (RecordedWork W)
  completed : List Nat

/-- The local variables of `fold`. -/
structure Folded (W : Type) where
  pending : List (RecordedWork W)
  pendingIds : Finset Nat
  completedOrder : List Nat
  completedSet : Finset Nat
  maxIndex : Nat
  maxWorkId : Nat

def tailStatusFor : CommitConfidence → Option JournalReplayWarning → TailStatus
  | .uncertain, _ => .uncertainCommit
  | .clean, some (.truncatedTail validPrefixLen) => .truncatedTailRepaired validPrefixLen
  | .clean, none => .clean

theorem tailStatusFor_eq_uncertainCommit :
    tailStatusFor commit warning = .uncertainCommit ↔ commit = .uncertain := by
  unfold tailStatusFor
  split <;> simp

theorem tailStatusFor_eq_truncatedTailRepaired :
    (∃ length, tailStatusFor commit warning = .truncatedTailRepaired length) ↔
      commit = .clean ∧ warning ≠ none := by
  unfold tailStatusFor
  split <;> simp

variable {W : Type}

section

variable [DurablePayload W]

def Folded.empty : Folded W where
  pending := []
  pendingIds := ∅
  completedOrder := []
  completedSet := ∅
  maxIndex := 0
  maxWorkId := 0

/-- An enqueue record makes work pending, unless its id was seen before. -/
def Folded.enqueue (folded : Folded W) (cap id : Nat) (payload : List UInt8) :
    Except RecoveryError (Folded W) :=
  if id ∈ folded.pendingIds ∨ id ∈ folded.completedSet then .error .corruptTail
  else
    match fromDurableBytes payload with
    | none => .error .corruptTail
    | some work =>
      let pendingIds := insert id folded.pendingIds
      if cap < pendingIds.card then .error (.overCapacity cap pendingIds.card)
      else .ok { folded with pendingIds, pending := folded.pending ++ [{ id := id, work := work }] }

/-- A completion record ends pending work; for work that is complete it says nothing new. -/
def Folded.complete (folded : Folded W) (id : Nat) : Except RecoveryError (Folded W) :=
  if id ∉ folded.pendingIds ∧ id ∉ folded.completedSet then .error .corruptTail
  else .ok { folded with
    pendingIds := folded.pendingIds.erase id
    pending := if id ∈ folded.pendingIds then folded.pending.filter (·.id ≠ id)
      else folded.pending
    completedSet := insert id folded.completedSet
    completedOrder := if id ∈ folded.completedSet then folded.completedOrder
      else folded.completedOrder ++ [id] }

def Folded.record (cap : Nat) (folded : Folded W) (record : JournalRecord) :
    Except RecoveryError (Folded W) :=
  match unframeRecord record.bytes with
  | none => .error .corruptTail
  | some (tag, id, payload) =>
    let folded := { folded with
      maxIndex := max folded.maxIndex record.index, maxWorkId := max folded.maxWorkId id }
    if tag = TAG_ENQUEUE then folded.enqueue cap id payload
    else if tag = TAG_COMPLETE then folded.complete id
    else .error .corruptTail

def fold (replay : Except CallError JournalReplay) (cap : Nat) :
    Except RecoveryError (Folded W × Option JournalReplayWarning) :=
  match replay with
  | .error .corruptRecord => .error .corruptTail
  | .error _ => .error .io
  | .ok replay => do
    let folded ← replay.records.foldlM (Folded.record cap) Folded.empty
    return (folded, replay.warning)

/-- The outbox that recovery builds, with its journal index set to `nextIndex`. -/
def Folded.outbox (folded : Folded W) (cap nextIndex nextWorkId : Nat) : DurableOutbox :=
  DurableOutbox.advanceWatermark { DurableOutbox.new cap with
    nextIndex
    nextWorkId
    pending := (folded.pending.map (·.id)).toFinset
    completed := folded.completedSet }

def Folded.report (folded : Folded W) (commit : CommitConfidence)
    (warning : Option JournalReplayWarning) : RecoveryReport W where
  tailStatus := tailStatusFor commit warning
  pending := folded.pending
  completed := folded.completedOrder

def recover (capacity : Nat) (replay : Except CallError JournalReplay)
    (commit : CommitConfidence) : Except RecoveryError (DurableOutbox × RecoveryReport W) := do
  let cap := max capacity 1
  let (folded, warning) ← fold replay cap
  match checkedSucc folded.maxIndex, checkedSucc folded.maxWorkId with
  | some nextIndex, some nextWorkId =>
    return (folded.outbox cap nextIndex nextWorkId, folded.report commit warning)
  | _, _ => .error .overflow

/-- The records of a compacted journal: the pending enqueue records, indexed from `index`. -/
def compactedFrom : Nat → List (RecordedWork W) → List JournalRecord
  | _, [] => []
  | index, recorded :: rest =>
    { index, bytes := frameRecord TAG_ENQUEUE recorded.id (some (toDurableBytes recorded.work)) } ::
        compactedFrom (index + 1) rest

def recoverCompacted (capacity : Nat) (replay : Except CallError JournalReplay)
    (commit : CommitConfidence) :
    Except RecoveryError (DurableOutbox × RecoveryReport W × List UInt8) := do
  let cap := max capacity 1
  let (folded, warning) ← fold replay cap
  let compacted := encodeJournal (compactedFrom 1 folded.pending)
  match checkedSucc folded.pending.length, checkedSucc folded.maxWorkId with
  | some nextIndex, some nextWorkId =>
    return (folded.outbox cap nextIndex nextWorkId, folded.report commit warning, compacted)
  | _, _ => .error .overflow

end

/-- What one journal record of an outbox says. -/
inductive OutboxRecord (W : Type) where
  | enqueue (id : Nat) (work : W)
  | complete (id : Nat)

namespace OutboxRecord

def id : OutboxRecord W → Nat
  | enqueue id _ => id
  | complete id => id

def enqueued : OutboxRecord W → Option (RecordedWork W)
  | enqueue id work => some { id := id, work := work }
  | complete _ => none

def completed : OutboxRecord W → Option Nat
  | enqueue _ _ => none
  | complete id => some id

def frame [DurablePayload W] : OutboxRecord W → List UInt8
  | enqueue id work => frameRecord TAG_ENQUEUE id (some (toDurableBytes work))
  | complete id => frameRecord TAG_COMPLETE id none

end OutboxRecord

/-- A journal record of an outbox, before it is encoded. -/
structure JournalEntry (W : Type) where
  index : Nat
  what : OutboxRecord W

def JournalEntry.record {W : Type} [DurablePayload W] (entry : JournalEntry W) : JournalRecord where
  index := entry.index
  bytes := entry.what.frame

open JournalEntry

section

variable {records : List (OutboxRecord W)} {id : Nat} {cap : Nat}

def enqueuedWork (records : List (OutboxRecord W)) : List (RecordedWork W) :=
  records.filterMap OutboxRecord.enqueued

def completedIds (records : List (OutboxRecord W)) : List Nat :=
  records.filterMap OutboxRecord.completed

/-- The work of a journal that was enqueued and is not complete, in the order it was enqueued. -/
def openWork (records : List (OutboxRecord W)) : List (RecordedWork W) :=
  (enqueuedWork records).filter (·.id ∉ completedIds records)

/-- A journal that recovery can read at capacity `cap`: an id is enqueued once, before it is
completed, and at no point is more than `cap` work open. -/
structure Replayable (cap : Nat) (records : List (OutboxRecord W)) : Prop where
  enqueuedOnce : ((enqueuedWork records).map (·.id)).Nodup
  completesEnqueued : ∀ before id, before ++ [.complete id] <+: records →
    id ∈ (enqueuedWork before).map (·.id)
  bounded : ∀ before, before <+: records → (openWork before).length ≤ cap

theorem Replayable.of_prefix {before : List (OutboxRecord W)}
    (hrecords : Replayable cap records) (hbefore : before <+: records) :
    Replayable cap before where
  enqueuedOnce := by
    obtain ⟨_, rfl⟩ := hbefore
    have hnodup := hrecords.enqueuedOnce
    rw [enqueuedWork, filterMap_append, map_append] at hnodup
    exact (nodup_append.1 hnodup).1
  completesEnqueued := fun first id hfirst =>
    hrecords.completesEnqueued first id (hfirst.trans hbefore)
  bounded := fun first hfirst => hrecords.bounded first (hfirst.trans hbefore)

theorem Replayable.nil (cap : Nat) : Replayable cap ([] : List (OutboxRecord W)) where
  enqueuedOnce := nodup_nil
  completesEnqueued before id hpre := by simp at hpre
  bounded before hpre := by simp [prefix_nil.1 hpre, openWork, enqueuedWork]

section

variable (records) (id : Nat) (work : W)

@[simp] theorem completedIds_enqueue :
    completedIds (records ++ [.enqueue id work]) = completedIds records := by
  rw [completedIds, filterMap_append]
  exact append_nil _

@[simp] theorem completedIds_complete :
    completedIds (records ++ [.complete id]) = completedIds records ++ [id] := by
  rw [completedIds, filterMap_append]
  rfl

@[simp] theorem enqueuedWork_enqueue : enqueuedWork (records ++ [.enqueue id work]) =
      enqueuedWork records ++ [{ id := id, work := work }] := by
  rw [enqueuedWork, filterMap_append]
  rfl

@[simp] theorem enqueuedWork_complete :
    enqueuedWork (records ++ [.complete id]) = enqueuedWork records := by
  rw [enqueuedWork, filterMap_append]
  exact append_nil _

@[simp] theorem openWork_enqueue : openWork (records ++ [.enqueue id work]) = openWork records ++
      if id ∈ completedIds records then [] else [{ id := id, work := work }] := by
  simp only [openWork, completedIds_enqueue, enqueuedWork_enqueue, filter_append]
  congr 1
  by_cases hid : id ∈ completedIds records <;> simp [hid]

@[simp] theorem openWork_complete :
    openWork (records ++ [.complete id]) = (openWork records).filter (·.id ≠ id) := by
  simp only [openWork, enqueuedWork_complete, completedIds_complete, filter_filter,
    mem_append, mem_singleton, not_or]
  refine filter_congr fun recorded _ => ?_
  by_cases hid : recorded.id = id <;> simp [hid]

end

theorem nodup_enqueuedWork_concat {work : W} (hrecords : ((enqueuedWork records).map (·.id)).Nodup)
    (hid : id ∉ (enqueuedWork records).map (·.id)) :
    ((enqueuedWork (records ++ [.enqueue id work])).map (·.id)).Nodup := by
  rw [enqueuedWork_enqueue, map_append]
  refine pairwise_concat hrecords ?_
  rintro _ hother rfl
  exact hid hother

/-- A record may be added if it enqueues a new id or completes an enqueued one, and leaves
no more than `cap` work open. -/
theorem Replayable.snoc {record : OutboxRecord W} (hrecords : Replayable cap records)
    (hid : match record with
      | .enqueue id _ => id ∉ (enqueuedWork records).map (·.id)
      | .complete id => id ∈ (enqueuedWork records).map (·.id))
    (hbound : (openWork (records ++ [record])).length ≤ cap) :
    Replayable cap (records ++ [record]) where
  enqueuedOnce := by
    cases record with
    | enqueue => exact nodup_enqueuedWork_concat hrecords.enqueuedOnce hid
    | complete =>
      rw [enqueuedWork_complete]
      exact hrecords.enqueuedOnce
  completesEnqueued before id hpre := by
    rcases prefix_concat_iff.1 hpre with heq | hpre
    · obtain ⟨rfl, hlast⟩ := append_inj' heq rfl
      obtain rfl := singleton_inj.1 hlast
      exact hid
    · exact hrecords.completesEnqueued before id hpre
  bounded before hpre := by
    rcases prefix_concat_iff.1 hpre with rfl | hpre
    · exact hbound
    · exact hrecords.bounded before hpre

/-- The fold has read these entries. -/
structure Folds (entries : List (JournalEntry W)) (folded : Folded W) : Prop where
  pending : folded.pending = openWork (entries.map (·.what))
  nodup : (folded.pending.map (·.id)).Nodup
  pendingIds : folded.pendingIds = (folded.pending.map (·.id)).toFinset
  completedSet : folded.completedSet = (completedIds (entries.map (·.what))).toFinset
  completedOrder : folded.completedOrder.toFinset = folded.completedSet
  completedOnce : folded.completedOrder.Nodup
  maxIndex : folded.maxIndex = (entries.map (·.index)).foldl max 0
  maxWorkId : folded.maxWorkId = (entries.map (·.what.id)).foldl max 0

variable {entries : List (JournalEntry W)} {folded : Folded W}

theorem Folds.empty : Folds ([] : List (JournalEntry W)) Folded.empty := by
  refine ⟨rfl, nodup_nil, rfl, rfl, rfl, nodup_nil, rfl, rfl⟩

theorem Folds.mem_pendingIds (hfolds : Folds entries folded) :
    id ∈ folded.pendingIds ↔ id ∈ (openWork (entries.map (·.what))).map (·.id) := by
  rw [hfolds.pendingIds, mem_toFinset, hfolds.pending]

theorem Folds.mem_completedSet (hfolds : Folds entries folded) :
    id ∈ folded.completedSet ↔ id ∈ completedIds (entries.map (·.what)) := by
  rw [hfolds.completedSet, mem_toFinset]

end

section

variable [DurablePayload W] {cap : Nat} {entries : List (JournalEntry W)}
  {entry : JournalEntry W} {folded folded' : Folded W}

theorem unframeRecord_frameRecord {tag : UInt8} {id : Nat} {payload : Option (List UInt8)}
    (hid : id < 2 ^ 64) :
    unframeRecord (frameRecord tag id payload) = some (tag, id, payload.getD []) := by
  have hlength := length_leBytes 8 id
  have hread : leNat (leBytes 8 id) = id := leNat_leBytes (lt_of_lt_of_le hid (by norm_num))
  simp [unframeRecord, frameRecord, hlength, hread]

/-- Reading an entry is reading what it says. -/
theorem Folded.record_entry (hid : entry.what.id < 2 ^ 64) :
    record cap folded entry.record = (match entry.what with
      | .enqueue id work =>
        enqueue { folded with
          maxIndex := max folded.maxIndex entry.index, maxWorkId := max folded.maxWorkId id }
          cap id (toDurableBytes work)
      | .complete id =>
        complete { folded with
          maxIndex := max folded.maxIndex entry.index, maxWorkId := max folded.maxWorkId id }
          id) := by
  obtain ⟨_, ⟨id, _⟩ | id⟩ := entry
  · have hid : id < 2 ^ 64 := hid
    simp [record, JournalEntry.record, OutboxRecord.frame, unframeRecord_frameRecord hid]
  have hid : id < 2 ^ 64 := hid
  simp [record, JournalEntry.record, OutboxRecord.frame, unframeRecord_frameRecord hid,
    TAG_ENQUEUE, TAG_COMPLETE]

/-- Whatever an entry is folded into has read that entry too. -/
theorem Folds.record (hfolds : Folds entries folded) (hid : entry.what.id < 2 ^ 64)
    (hrecord : Folded.record cap folded entry.record = .ok folded') :
    Folds (entries ++ [entry]) folded' := by
  rw [Folded.record_entry hid] at hrecord
  obtain ⟨_, ⟨id, _⟩ | id⟩ := entry
  · simp only [Folded.enqueue, decodes] at hrecord
    split at hrecord
    · cases hrecord
    rename_i hfresh
    split at hrecord
    · cases hrecord
    cases hrecord
    obtain ⟨hpending, hcompleted⟩ := not_or.1 hfresh
    rw [hfolds.mem_completedSet] at hcompleted
    have hnew : id ∉ folded.pending.map (·.id) := by
      rwa [hfolds.mem_pendingIds, ← hfolds.pending] at hpending
    refine ⟨?_, ?_, ?_, ?_, hfolds.completedOrder, hfolds.completedOnce, ?_, ?_⟩
    · simp [hfolds.pending, hcompleted]
    · simpa [nodup_append, hfolds.nodup] using hnew
    · ext other
      simp [hfolds.pendingIds]
    · simp [hfolds.completedSet]
    · simp [hfolds.maxIndex]
    · simp [hfolds.maxWorkId, OutboxRecord.id]
  simp only [Folded.complete] at hrecord
  split at hrecord
  · cases hrecord
  -- the filter keeps everything when the id is not pending
  have hfilter : (if id ∈ folded.pendingIds then folded.pending.filter (·.id ≠ id)
      else folded.pending) = folded.pending.filter (·.id ≠ id) := by
    split
    · rfl
    rename_i hid
    rw [hfolds.pendingIds, mem_toFinset] at hid
    refine (filter_eq_self.2 fun recorded hmem => ?_).symm
    have hne : recorded.id ≠ id := fun heq => hid (heq ▸ mem_map_of_mem hmem)
    simpa using hne
  rw [hfilter] at hrecord
  cases hrecord
  refine ⟨?_, ?_, ?_, ?_, ?_, ?_, ?_, ?_⟩
  · simp [hfolds.pending]
  · exact hfolds.nodup.sublist (filter_sublist.map _)
  · ext other
    simp only [Finset.mem_erase, hfolds.pendingIds, mem_toFinset, mem_map,
      mem_filter, decide_eq_true_eq]
    grind
  · ext other
    simp [hfolds.completedSet]
  · split
    · rename_i hid
      rw [hfolds.completedOrder, Finset.insert_eq_self.2 hid]
    · ext other
      simp [← hfolds.completedOrder]
  · split
    · exact hfolds.completedOnce
    rename_i hid
    rw [← hfolds.completedOrder, mem_toFinset] at hid
    exact pairwise_concat hfolds.completedOnce fun _ hother heq => hid (heq ▸ hother)
  · simp [hfolds.maxIndex]
  · simp [hfolds.maxWorkId, OutboxRecord.id]

/-- The fold reads on when the entry keeps the journal replayable. -/
theorem Folds.record_ok (hfolds : Folds entries folded) (hid : entry.what.id < 2 ^ 64)
    (hreplayable : Replayable cap ((entries ++ [entry]).map (·.what))) :
    ∃ folded', Folded.record cap folded entry.record = .ok folded' := by
  rw [Folded.record_entry hid]
  rw [map_append] at hreplayable
  obtain ⟨_, ⟨id, work⟩ | id⟩ := entry
  · have hfresh : id ∉ (enqueuedWork (entries.map (·.what))).map (·.id) := by
      have hnodup := hreplayable.enqueuedOnce
      simp only [map_cons, map_nil, enqueuedWork_enqueue, map_append, nodup_append] at hnodup
      exact fun hmem => hnodup.2.2 id hmem id (by simp) rfl
    have hpending : id ∉ folded.pendingIds := by
      rw [hfolds.mem_pendingIds]
      exact fun hmem => hfresh ((filter_sublist.map _).subset hmem)
    have hcompleted : id ∉ completedIds (entries.map (·.what)) := by
      intro hmem
      obtain ⟨record, hrecord, hcomplete⟩ := mem_filterMap.1 hmem
      obtain ⟨before, after, hsplit⟩ := append_of_mem hrecord
      cases record with
      | enqueue => cases hcomplete
      | complete other =>
      obtain rfl := Option.some.inj hcomplete
      have hbefore := hreplayable.completesEnqueued before other
        ⟨after ++ [.enqueue other work], by simp [hsplit]⟩
      refine hfresh ?_
      rw [hsplit, enqueuedWork, filterMap_append, map_append]
      exact mem_append_left _ hbefore
    have hbound := hreplayable.bounded _ (prefix_refl _)
    rw [map_cons, map_nil, openWork_enqueue, if_neg hcompleted, length_append,
      length_singleton, ← hfolds.pending] at hbound
    have hcard : (insert id folded.pendingIds).card = folded.pending.length + 1 := by
      rw [Finset.card_insert_of_notMem hpending, hfolds.pendingIds,
        toFinset_card_of_nodup hfolds.nodup, length_map]
    rw [← hfolds.mem_completedSet] at hcompleted
    simp only [Folded.enqueue, decodes]
    rw [if_neg (not_or.2 ⟨hpending, hcompleted⟩), hcard, if_neg (not_lt.2 hbound)]
    exact ⟨_, rfl⟩
  · have hbefore := hreplayable.completesEnqueued (entries.map (·.what)) id (prefix_refl _)
    simp only [Folded.complete]
    rw [if_neg]
    · exact ⟨_, rfl⟩
    rw [hfolds.mem_pendingIds, hfolds.mem_completedSet]
    rintro ⟨hopen, hcompleted⟩
    obtain ⟨_, hmem, rfl⟩ := mem_map.1 hbefore
    exact hopen (mem_map_of_mem (mem_filter.2 ⟨hmem, by simpa using hcompleted⟩))

theorem foldlM_entries (hids : ∀ entry ∈ entries, entry.what.id < 2 ^ 64)
    (hfold : (entries.map record).foldlM (Folded.record cap) Folded.empty =
      .ok folded) : Folds entries folded := by
  induction entries using reverseRecOn generalizing folded with
  | nil =>
    cases hfold
    exact .empty
  | append_singleton entries entry ih =>
  rw [map_append, foldlM_append] at hfold
  cases hbefore : (entries.map record).foldlM (Folded.record cap) (Folded.empty : Folded W) with
  | error => simp [hbefore, bind, Except.bind] at hfold
  | ok =>
  have hfolds := ih (fun other hother => hids other (mem_append_left _ hother)) hbefore
  simp only [hbefore, map_cons, map_nil, foldlM_cons, foldlM_nil, bind_pure] at hfold
  exact hfolds.record (hids entry (by simp)) hfold

theorem foldlM_entries_ok (hids : ∀ entry ∈ entries, entry.what.id < 2 ^ 64)
    (hreplayable : Replayable cap (entries.map (·.what))) :
    ∃ folded, (entries.map record).foldlM (Folded.record cap) Folded.empty =
      .ok folded ∧ Folds entries folded := by
  induction entries using reverseRecOn with
  | nil => exact ⟨_, rfl, .empty⟩
  | append_singleton _ entry ih =>
  obtain ⟨_, hbefore, hfolds⟩ := ih (fun other hother => hids other (mem_append_left _ hother))
    (hreplayable.of_prefix ⟨[entry.what], by simp⟩)
  have hid := hids entry (by simp)
  obtain ⟨folded, hrecord⟩ := hfolds.record_ok hid hreplayable
  refine ⟨folded, ?_, hfolds.record hid hrecord⟩
  simp [foldlM_append, hbefore, hrecord, bind, Except.bind, pure, Except.pure]

theorem JournalEntry.record_fits (hindex : entry.index < 2 ^ 64) : entry.record.Fits where
  index := hindex
  bytes := by
    obtain ⟨_, ⟨id, work⟩ | id⟩ := entry
    · have hwork := DurablePayload.fits work
      have hlength : (frameRecord TAG_ENQUEUE id (some (toDurableBytes work))).length =
          FRAME_HEADER + (toDurableBytes work).length := by
        simp [frameRecord, FRAME_HEADER]
        omega
      rw [← hlength] at hwork
      exact hwork
    · have hlength : (frameRecord TAG_COMPLETE id none).length = FRAME_HEADER := by
        simp [frameRecord, FRAME_HEADER]
      change JOURNAL_HEADER_BYTES + (frameRecord TAG_COMPLETE id none).length < 2 ^ 63
      rw [hlength]
      decide

/-- A journal file: these entries, and perhaps the beginning of one more. -/
structure Recorded (entries : List (JournalEntry W)) (file : List UInt8) : Prop where
  ids : ∀ entry ∈ entries, entry.what.id < 2 ^ 64
  written : Written (entries.map JournalEntry.record) file

end

end Tina.Persistence
