import Tina.Invariant.Steps

/-!
What lasts along a sequence of acts: who stays stopped, and which record stays where it is
while its child is being stopped.
-/

namespace Tina

open List Tina.Runtime Option

variable {h : Host} {s t : Runtime h} {kind : Kind} {kinds : Kind → Prop} {index : Nat}
  {entry : RegisteredEntry h} {id : IsolateId}

theorem Runtime.statuses_mark {path : StopPath} : (s.mark index entry path).statuses =
      s.statuses.set index (entry.id, true) := by
  simp [statuses, mark, putEntry, log, RegisteredEntry.close, map_set]

/-- A stop marks its entry and changes no other status. -/
theorem Act.stop_statuses (hact : Act .stop s t) :
    ∃ index id, t.statuses = s.statuses.set index (id, true) := by
  cases hact with
  | @stopped _ _ index entry path hentry hlive hcleaned hsettle =>
  refine ⟨index, entry.id, ?_⟩
  rcases hsettle with ⟨rfl, -⟩ | ⟨_, _, -, -, -, hsettle⟩
  · exact statuses_mark
  · exact hsettle.statuses_eq.trans statuses_mark

/-- Only a registration brings an isolate to life. -/
theorem Act.live_before (hact : Act kind s t) (hregister : kind ≠ .register) (hlive : t.Live id) :
    s.Live id := by
  by_cases hstop : kind = .stop
  · subst hstop
    obtain ⟨_, _, hstatuses⟩ := hact.stop_statuses
    rw [live_iff_mem_statuses] at hlive ⊢
    rw [hstatuses] at hlive
    rcases mem_or_eq_of_mem_set hlive with hmem | heq
    · exact hmem
    · cases heq
  by_cases hcollect : kind = .collect
  · subst hcollect
    obtain ⟨entry, hentry, hid, hrunning⟩ := hlive
    cases hact with
    | collected _ _ _ hkept =>
      exact ⟨entry, (mem_filter.1 (hkept.mem_iff.1 hentry)).1, hid, hrunning⟩
  · rw [live_iff_mem_statuses] at hlive ⊢
    rwa [← hact.statuses_eq hstop hregister hcollect]

theorem Steps.live_before (hsteps : Steps kinds s t) (hs : Consistent s)
    (hregister : ¬ kinds .register) (hlive : t.Live id) : s.Live id := by
  refine hsteps.induct (I := (·.Live id → s.Live id)) hs ?_ (fun hbefore => hbefore) hlive
  intro kind a b hkind hact _ ih hb
  exact ih (hact.live_before (fun heq => hregister (heq ▸ hkind)) hb)

/-- An isolate that is marked is not running any more. -/
theorem Registry.not_live_of_statuses (hs : Registry s) (hentry : s.entries[index]? = some entry)
    (hstatuses : t.statuses = s.statuses.set index (entry.id, true)) : ¬ t.Live entry.id := by
  rw [live_iff_mem_statuses, hstatuses]
  intro hmem
  obtain ⟨position, hposition⟩ := mem_iff_getElem?.1 hmem
  by_cases heq : index = position
  · subst heq
    obtain ⟨_, hget⟩ := List.getElem?_eq_some_iff.1 hposition
    rw [getElem_set_self] at hget
    cases hget
  · rw [getElem?_set_ne heq] at hposition
    simp only [statuses, getElem?_map, map_eq_some_iff, Prod.mk.injEq] at hposition
    obtain ⟨_, hother, hid, -⟩ := hposition
    exact heq (hs.entry_unique hentry hother hid.symm)

theorem Registry.not_live_of_stopped (hs : Registry s) (hentry : s.entries[index]? = some entry)
    (hstopped : entry.stopped = true) : ¬ s.Live entry.id := by
  rintro ⟨_, hother, hid, hrunning⟩
  obtain rfl := hs.eq_of_mem_of_id hother (mem_of_getElem? hentry) hid
  rw [hstopped] at hrunning
  cases hrunning

/-- Entries keep their positions until they are collected. -/
theorem Act.entry_stays (hact : Act kind s t) (hcollect : kind ≠ .collect)
    (hentry : s.entries[index]? = some entry) :
    ∃ entry', t.entries[index]? = some entry' ∧ entry'.id = entry.id := by
  by_cases hregister : kind = .register
  · subst hregister
    have hlt := Lib.lt_of_getElem? hentry
    cases hact with
    | registered => exact ⟨entry, (getElem?_append_left hlt).trans hentry, rfl⟩
    | skipped => exact ⟨entry, hentry, rfl⟩
  have hkey : t.keys[index]? = some (entry.id, entry.generation) := by
    rw [(hact.keys_eq hregister hcollect).1]
    simp [Runtime.keys, hentry]
  simp only [Runtime.keys, getElem?_map, map_eq_some_iff, Prod.mk.injEq] at hkey
  obtain ⟨entry', hentry', hid, -⟩ := hkey
  exact ⟨entry', hentry', hid⟩

theorem Steps.entry_stays (hsteps : Steps kinds s t) (hs : Consistent s)
    (hcollect : ¬ kinds .collect) (hentry : s.entries[index]? = some entry) :
    ∃ entry', t.entries[index]? = some entry' ∧ entry'.id = entry.id := by
  refine hsteps.induct (I := fun u => ∃ entry', u.entries[index]? = some entry' ∧
    entry'.id = entry.id) hs ?_ ⟨entry, hentry, rfl⟩
  rintro _ a b hkind hact - ⟨_, hbefore, hid⟩
  obtain ⟨after, hafter, hid'⟩ := hact.entry_stays (fun heq => hcollect (heq ▸ hkind)) hbefore
  exact ⟨after, hafter, hid'.trans hid⟩

/-- The acts that a stop of the isolate at `address` is made of. -/
def Kind.InStop (address : RegisteredAddress) (kind : Kind) : Prop :=
  kind = .queue ∨ kind = .call ∨ kind = .settle ∨ kind = .stop ∨ kind = .prune address

/-- The same record of the same child, whatever happened to its observation. -/
structure ChildRecord.Persists {P : Payload} (record record' : ChildRecord P) : Prop where
  parent : record'.parent = record.parent
  child : record'.child = record.child
  childOrdinal : record'.childOrdinal = record.childOrdinal
  remoteOwner : record'.remoteOwner = record.remoteOwner
  restartRecipe : record'.restartRecipe = record.restartRecipe
  terminalContinuation : record'.terminalContinuation = record.terminalContinuation

namespace ChildRecord.Persists

variable {P : Payload} {a b c : ChildRecord P}

theorem refl (record : ChildRecord P) : record.Persists record :=
  ⟨rfl, rfl, rfl, rfl, rfl, rfl⟩

theorem settle (record : ChildRecord P) (generation : AddressGeneration) :
    record.Persists (record.settle generation) :=
  ⟨rfl, rfl, rfl, rfl, rfl, rfl⟩

theorem trans (hab : a.Persists b) (hbc : b.Persists c) : a.Persists c where
  parent := hbc.parent.trans hab.parent
  child := hbc.child.trans hab.child
  childOrdinal := hbc.childOrdinal.trans hab.childOrdinal
  remoteOwner := hbc.remoteOwner.trans hab.remoteOwner
  restartRecipe := hbc.restartRecipe.trans hab.restartRecipe
  terminalContinuation := hbc.terminalContinuation.trans hab.terminalContinuation

end ChildRecord.Persists

section

variable {record : ChildRecord h}

theorem Runtime.Settle.persists {position : Nat} (hsettle : Settle position s t)
    (hrecord : s.childRecords[index]? = some record) :
    ∃ record', t.childRecords[index]? = some record' ∧ record.Persists record' := by
  obtain ⟨before, generation, hbefore, hrecords⟩ := hsettle.childRecords_eq
  rw [hrecords]
  by_cases heq : position = index
  · subst heq
    obtain rfl : before = record := some.inj (hbefore.symm.trans hrecord)
    have hlt := Lib.lt_of_getElem? hbefore
    exact ⟨_, by rw [getElem?_set_self hlt], .settle before generation⟩
  · exact ⟨record, by rw [getElem?_set_ne heq, hrecord], .refl record⟩

/-- A record that can restart its child outlives the stop of that child, at its place. -/
theorem Runtime.prune_persists (hs : SlotsHeld s) (hlocal : s.Local record.child)
    (hrecord : s.childRecords[index]? = some record)
    (hrecipe : record.restartRecipe.isSome = true) :
    ∃ record', (s.prune record.child).childRecords[index]? = some record' ∧
      record.Persists record' := by
  have hall : ∀ other ∈ s.childRecords, other.child = record.child →
      s.keepsTerminalRecord other = true := by
    intro other hother hchild
    obtain ⟨position, hposition⟩ := mem_iff_getElem?.1 hother
    have heq : position = index := by
      by_contra hne
      exact hs.child_ne hposition hrecord hne (hchild ▸ hlocal) hchild
    subst heq
    obtain rfl : other = record := some.inj (hposition.symm.trans hrecord)
    simp [keepsTerminalRecord, hrecipe]
  unfold prune
  rw [filter_eq_self.2]
  · simp only [getElem?_map, hrecord, map_some, if_true, some.injEq, exists_eq_left']
    exact ⟨rfl, rfl, rfl, rfl, rfl, rfl⟩
  intro mapped hmapped
  obtain ⟨other, hother, rfl⟩ := mem_map.1 hmapped
  by_cases hchild : other.child = record.child
  · have hkeeps := hall other hother hchild
    simp only [keepsTerminalRecord] at hkeeps
    simp [hchild, keepsTerminalRecord, hkeeps]
  · simp [hchild]

theorem Act.record_persists (hact : Act kind s t) (hs : Consistent s)
    (hkind : Kind.InStop record.child kind) (hrecord : s.childRecords[index]? = some record)
    (hrecipe : record.restartRecipe.isSome = true) :
    ∃ record', t.childRecords[index]? = some record' ∧ record.Persists record' := by
  rcases hkind with rfl | rfl | rfl | rfl | rfl
  · exact ⟨record, by rw [hact.childRecords_eq rfl, hrecord], .refl record⟩
  · exact ⟨record, by rw [hact.childRecords_eq rfl, hrecord], .refl record⟩
  · cases hact with
    | unreserved => exact ⟨record, hrecord, .refl record⟩
    | settled hsettle => exact hsettle.persists hrecord
  · cases hact with
    | stopped _ _ _ _ hsettle =>
    rcases hsettle with ⟨rfl, -⟩ | ⟨_, _, -, -, -, hsettle⟩
    · exact ⟨record, hrecord, .refl record⟩
    · exact hsettle.persists hrecord
  · cases hact with
    | pruned _ hlocal =>
      exact prune_persists hs.slots.toSlotsHeld hlocal hrecord hrecipe

theorem Steps.record_persists (hsteps : Steps (Kind.InStop record.child) s t)
    (hs : Consistent s) (hrecord : s.childRecords[index]? = some record)
    (hrecipe : record.restartRecipe.isSome = true) :
    ∃ record', t.childRecords[index]? = some record' ∧ record.Persists record' := by
  refine hsteps.induct (I := fun u => ∃ record', u.childRecords[index]? = some record' ∧
    record.Persists record') hs ?_ ⟨record, hrecord, .refl record⟩
  rintro _ a b hkind hact ha ⟨_, hbefore, hpersists⟩
  obtain ⟨after, hafter, hpersists'⟩ := hact.record_persists ha (hpersists.child ▸ hkind)
    hbefore (by rw [hpersists.restartRecipe, hrecipe])
  exact ⟨after, hafter, hpersists.trans hpersists'⟩

end

end Tina
