import Tina.Persistence.Layout

/-!
The capacity of an outbox and the backlog in its journal. Work that is open in the journal is
pending or staged in memory, so the bound on the outbox is one on what recovery will find. It
breaks when a slot is given back while its record is in the file; the runs considered here keep
the slot of every work that is durable.
-/

namespace Tina.Persistence

open Lib List Session Except OutboxRecord

/-- A slot is given back only for work that is pending next or not in the file, and a restart
keeps the capacity. -/
def SessionOperation.KeepsDurable {W : Type} (capacity : Nat) (s : Session W) :
    SessionOperation W → Prop
  | .record position => ∀ held ∈ s.works[position]?, held.durable → held.result = some (.ok ())
  | .abandon position => ∀ held ∈ s.works[position]?, held.durable = false
  | .restart _ capacity' _ _ => capacity' = capacity
  | _ => True

instance {W : Type} (capacity : Nat) (s : Session W) (operation : SessionOperation W) :
    Decidable (operation.KeepsDurable capacity s) := by
  rcases operation <;> unfold SessionOperation.KeepsDurable <;> infer_instance

variable {W : Type}

section

variable {records : List (OutboxRecord W)}

theorem mem_enqueuedIds_of_open {recorded : RecordedWork W} (hopen : recorded ∈ openWork records) :
    recorded.id ∈ (enqueuedWork records).map (·.id) :=
  mem_map_of_mem (mem_of_mem_filter hopen)

/-- Open work has different ids, so a set that holds them all bounds its number. -/
theorem length_openWork_le {ids : Finset Nat} (hrecords : ((enqueuedWork records).map (·.id)).Nodup)
    (hids : ∀ recorded ∈ openWork records, recorded.id ∈ ids) :
    (openWork records).length ≤ ids.card := by
  have hopen : ((openWork records).map (·.id)).Nodup := hrecords.sublist (filter_sublist.map _)
  calc (openWork records).length = ((openWork records).map (·.id)).toFinset.card := by
        rw [toFinset_card_of_nodup hopen, length_map]
    _ ≤ ids.card := by
        refine Finset.card_le_card fun id hmem => ?_
        obtain ⟨recorded, hrecorded, rfl⟩ := mem_map.1 (mem_toFinset.1 hmem)
        exact hids recorded hrecorded

section

variable (works : List (RecordedWork W))

include works

theorem enqueuedWork_enqueues :
    enqueuedWork (works.map fun recorded => .enqueue recorded.id recorded.work) = works := by
  induction works with
  | nil => rfl
  | cons recorded _ ih =>
    rw [map_cons, enqueuedWork, filterMap_cons]
    exact congrArg (recorded :: ·) ih

theorem completedIds_enqueues :
    completedIds (works.map fun recorded => .enqueue recorded.id recorded.work) = [] := by
  induction works with
  | nil => rfl
  | cons _ _ ih => exact ih

theorem openWork_enqueues :
    openWork (works.map fun recorded => .enqueue recorded.id recorded.work) = works := by
  rw [openWork, enqueuedWork_enqueues, completedIds_enqueues]
  simp

end

/-- A journal of enqueue records alone. -/
theorem replayable_enqueues {cap : Nat} {works : List (RecordedWork W)}
    (hnodup : (works.map (·.id)).Nodup) (hbound : works.length ≤ cap) :
    Replayable cap (works.map fun recorded => .enqueue recorded.id recorded.work) where
  enqueuedOnce := by rwa [enqueuedWork_enqueues]
  completesEnqueued before id hpre := by
    have hmem : complete id ∈
        works.map fun recorded => enqueue recorded.id recorded.work :=
      hpre.subset (by simp)
    obtain ⟨_, -, heq⟩ := mem_map.1 hmem
    cases heq
  bounded before hpre := by
    calc (openWork before).length
        ≤ (enqueuedWork before).length := length_filter_le _ _
      _ ≤ before.length := length_filterMap_le _ _
      _ ≤ works.length := by simpa using hpre.length_le
      _ ≤ cap := hbound

end

section

variable {s t : Session W} {cap : Nat} {position : Nat} {held : Held (DurableWork W)}
  {outbox : DurableOutbox} {result : Except CallError Unit} {capacity : Nat}

def Session.records (s : Session W) : List (OutboxRecord W) :=
  s.journal.map (·.what)

def Session.enqueuedIds (s : Session W) : List Nat :=
  (enqueuedWork s.records).map (·.id)

theorem Session.records_concat {entry : JournalEntry W} (h : t.journal = s.journal ++ [entry]) :
    t.records = s.records ++ [entry.what] := by
  rw [records, h, map_append]
  rfl

/-- The journal can be recovered at capacity `cap`, and what is open in it has a slot. -/
structure Backlog (cap : Nat) (s : Session W) : Prop where
  replayable : Replayable cap s.records
  capacity : s.outbox.capacity = cap
  room : s.outbox.staged.card + s.outbox.pending.card ≤ cap
  staged : s.outbox.staged = (s.works.map (·.token.id)).toFinset
  distinct : (s.works.map (·.token.id)).Nodup
  notDurable : ∀ held ∈ s.works, held.durable = false →
    held.token.id ∉ s.enqueuedIds ∧ held.result ≠ some (.ok ())
  completions : ∀ held ∈ s.completions, held.token.id ∈ s.enqueuedIds ∧
    (held.result = some (.ok ()) → held.token.id ∈ completedIds s.records)
  pending : ∀ id ∈ s.outbox.pending, id ∈ s.enqueuedIds
  backlog : ∀ recorded ∈ openWork s.records, recorded.id ∈ s.outbox.pending ∪ s.outbox.staged

theorem backlog_new (capacity : Nat) : Backlog (max capacity 1) (new capacity : Session W) where
  replayable := Replayable.nil _
  capacity := rfl
  room := Nat.zero_le _
  staged := rfl
  distinct := nodup_nil
  notDurable := by rintro _ ⟨⟩
  completions := by rintro _ ⟨⟩
  pending := by rintro _ ⟨⟩
  backlog := by rintro _ ⟨⟩

theorem Session.mem_enqueuedIds {token : DurableWork W}
    (hmem : workEntry token ∈ s.journal) : token.id ∈ s.enqueuedIds := by
  refine mem_map.2 ⟨{ id := token.id, work := token.work }, ?_, rfl⟩
  exact mem_filterMap.2 ⟨_, mem_map_of_mem hmem, rfl⟩

theorem Session.exists_entry_of_mem_enqueuedIds {id : Nat} (hmem : id ∈ s.enqueuedIds) :
    ∃ entry ∈ s.journal, entry.what.id = id := by
  obtain ⟨_, hrecorded, rfl⟩ := mem_map.1 hmem
  obtain ⟨_, hrecord, henqueued⟩ := mem_filterMap.1 hrecorded
  obtain ⟨entry, hentry, rfl⟩ := mem_map.1 hrecord
  refine ⟨entry, hentry, ?_⟩
  obtain ⟨_, ⟨id, _⟩ | _⟩ := entry
  · cases henqueued
    rfl
  · cases henqueued

section

variable (hs : Backlog cap s)

include hs

section

variable (hheld : s.works[position]? = some held)

include hheld

/-- Taking a token away takes its id off the staged ones. -/
theorem Backlog.toFinset_eraseIdx : s.outbox.staged.erase held.token.id =
      ((s.works.eraseIdx position).map (·.token.id)).toFinset := by
  obtain ⟨_, _, hworks, herase⟩ := eraseIdx_of_getElem? hheld
  have hdistinct := hs.distinct
  rw [hworks, map_append, map_cons, nodup_middle, nodup_cons] at hdistinct
  rw [hs.staged, herase, hworks]
  ext other
  simp only [Finset.mem_erase, mem_toFinset, map_append, map_cons, mem_append, mem_cons]
  constructor
  · rintro ⟨hne, hbefore | rfl | hafter⟩
    · exact .inl hbefore
    · exact absurd rfl hne
    · exact .inr hafter
  · intro hmem
    refine ⟨?_, hmem.imp id .inr⟩
    rintro rfl
    exact hdistinct.1 (mem_append.2 hmem)

theorem Backlog.mem_staged : held.token.id ∈ s.outbox.staged := by
  rw [hs.staged, mem_toFinset]
  exact mem_map_of_mem (f := (·.token.id)) (mem_of_getElem? hheld)

/-- A token gives up its place: one that is not durable with its slot, a durable one for pending
work in the slot it has. -/
theorem Backlog.unstage (hcapacity : outbox.capacity = s.outbox.capacity)
    (hstaged : outbox.staged = s.outbox.staged.erase held.token.id)
    (hpending : outbox.pending = s.outbox.pending ∧ held.token.id ∉ s.enqueuedIds ∨
      outbox.pending = insert held.token.id s.outbox.pending ∧ held.token.id ∈ s.enqueuedIds) :
    Backlog cap { s with outbox, works := s.works.eraseIdx position } where
  __ := hs
  capacity := hcapacity.trans hs.capacity
  room := by
    have hroom := hs.room
    have hcard := Finset.card_erase_add_one (hs.mem_staged hheld)
    have hinsert := Finset.card_insert_le held.token.id s.outbox.pending
    rw [hstaged]
    rcases hpending with ⟨heq, -⟩ | ⟨heq, -⟩ <;> rw [heq] <;> omega
  staged := hstaged.trans (hs.toFinset_eraseIdx hheld)
  distinct := hs.distinct.sublist ((eraseIdx_sublist _ _).map _)
  notDurable other hmem := hs.notDurable other (mem_of_mem_eraseIdx hmem)
  pending := by
    rcases hpending with ⟨heq, -⟩ | ⟨heq, hdurable⟩ <;> rw [heq]
    · exact hs.pending
    · exact (Finset.forall_mem_insert _ _ _).2 ⟨hdurable, hs.pending⟩
  backlog recorded hopen := by
    have hslot := Finset.mem_union.1 (hs.backlog recorded hopen)
    have hid := mem_enqueuedIds_of_open hopen
    rw [hstaged, Finset.mem_union, Finset.mem_erase]
    rcases hpending with ⟨heq, hfresh⟩ | ⟨heq, -⟩ <;> rw [heq]
    · exact hslot.imp id fun hmem => ⟨fun hsame => hfresh (hsame ▸ hid), hmem⟩
    · rw [Finset.mem_insert]
      tauto

end

/-- A finished completion gives its slot back once its record is in the journal. -/
theorem Backlog.finish (held : Held DurableCompletion)
    (hcapacity : outbox.capacity = s.outbox.capacity) (hstaged : outbox.staged = s.outbox.staged)
    (hpending : outbox.pending = s.outbox.pending ∨ held.token.id ∈ completedIds s.records ∧
        outbox.pending = s.outbox.pending.erase held.token.id) :
    Backlog cap { s with outbox, completions := s.completions.eraseIdx position } := by
  have hsubset : outbox.pending ⊆ s.outbox.pending := by
    rcases hpending with heq | ⟨-, heq⟩ <;> rw [heq]
    exact Finset.erase_subset _ _
  refine { hs with
    capacity := hcapacity.trans hs.capacity
    room := ?_
    staged := hstaged.trans hs.staged
    completions := fun other hmem => hs.completions other (mem_of_mem_eraseIdx hmem)
    pending := fun id hmem => hs.pending id (hsubset hmem)
    backlog := ?_ }
  · have hroom := hs.room
    have hcard := Finset.card_le_card hsubset
    change outbox.staged.card + outbox.pending.card ≤ cap
    rw [hstaged]
    omega
  intro recorded hopen
  have hslot := hs.backlog recorded hopen
  rcases hpending with heq | ⟨hcompleted, heq⟩
  · rwa [hstaged, heq]
  rw [Finset.mem_union] at hslot
  rw [hstaged, heq, Finset.mem_union]
  refine hslot.imp (fun hmem => Finset.mem_erase.2 ⟨?_, hmem⟩) id
  rintro hid
  exact of_decide_eq_true (mem_filter.1 hopen).2 (hid ▸ hcompleted)

/-- A record of staged work goes into the journal. -/
theorem Backlog.write {disk : Disk} {ids : List Nat} (hheld : s.works[position]? = some held)
    (hfresh : held.token.id ∉ s.enqueuedIds) (ht : t = { s with
      disk, journal := s.journal ++ [workEntry held.token], durableIds := ids
      works := s.works.set position { held with durable := true, result := some result } }) :
    Backlog cap t := by
  have hrecords : t.records = s.records ++ [.enqueue held.token.id held.token.work] :=
    records_concat (congrArg journal ht)
  have hids : t.enqueuedIds = s.enqueuedIds ++ [held.token.id] := by
    rw [enqueuedIds, hrecords, enqueuedWork_enqueue, map_append]
    rfl
  have hopen : ∀ recorded ∈ openWork t.records,
      recorded.id ∈ s.outbox.pending ∪ s.outbox.staged := by
    intro recorded hrecorded
    rw [hrecords, openWork_enqueue, mem_append] at hrecorded
    rcases hrecorded with hold | hnew
    · exact hs.backlog recorded hold
    split at hnew
    · cases hnew
    obtain rfl := mem_singleton.1 hnew
    exact Finset.mem_union_right _ (hs.mem_staged hheld)
  have hmap := map_set_of_eq (b := { held with durable := true, result := some result })
    (fun held : Held (DurableWork W) => held.token.id) hheld rfl
  subst ht
  refine { hs with
    replayable := ?_
    staged := hs.staged.trans (congrArg toFinset hmap.symm)
    distinct := hmap.symm ▸ hs.distinct
    notDurable := fun other hother hdurable => ?_
    completions := ?_
    pending := ?_
    backlog := hopen }
  · rw [hrecords] at hopen ⊢
    refine hs.replayable.snoc hfresh ?_
    have hbound := length_openWork_le
      (nodup_enqueuedWork_concat hs.replayable.enqueuedOnce hfresh) hopen
    exact hbound.trans ((Finset.card_union_le _ _).trans (by have := hs.room; omega))
  · have hold : other ∈ s.works := by
      rcases mem_or_eq_of_mem_set hother with hold | rfl
      · exact hold
      · cases hdurable
    obtain ⟨hother', hresult⟩ := hs.notDurable other hold hdurable
    rw [hids, mem_append, mem_singleton, not_or]
    refine ⟨⟨hother', fun heq => ?_⟩, hresult⟩
    -- no other token has this id
    rw [inj_on_of_nodup_map (hmap.symm ▸ hs.distinct) hother
      (mem_set (lt_of_getElem? hheld) _) heq] at hdurable
    cases hdurable
  · rw [hids, hrecords, completedIds_enqueue]
    intro other hother
    obtain ⟨hid, hcompleted⟩ := hs.completions other hother
    exact ⟨mem_append_left _ hid, hcompleted⟩
  · rw [hids]
    exact fun id hpending => mem_append_left _ (hs.pending id hpending)

/-- A completion record goes into the journal. -/
theorem Backlog.writeCompletion {held : Held DurableCompletion} {disk : Disk}
    (hheld : s.completions[position]? = some held) (ht : t = { s with
      disk, journal := s.journal ++ [completionEntry held.token]
      completions := s.completions.set position
        { held with durable := true, result := some result } }) : Backlog cap t := by
  obtain ⟨hid, -⟩ := hs.completions held (mem_of_getElem? hheld)
  have hrecords : t.records = s.records ++ [.complete held.token.id] :=
    records_concat (congrArg journal ht)
  have hids : t.enqueuedIds = s.enqueuedIds := by
    rw [enqueuedIds, hrecords, enqueuedWork_complete]
    rfl
  subst ht
  refine { hs with
    replayable := ?_
    notDurable := hids ▸ hs.notDurable
    completions := ?_
    pending := hids ▸ hs.pending
    backlog := ?_ }
  · rw [hrecords]
    refine hs.replayable.snoc hid ?_
    rw [openWork_complete]
    exact (length_filter_le _ _).trans (hs.replayable.bounded _ (prefix_refl _))
  · rw [hids, hrecords, completedIds_complete]
    refine forall_mem_set (fun other hother => ?_) ⟨hid, fun _ => by simp⟩
    obtain ⟨hother', hcompleted⟩ := hs.completions other hother
    exact ⟨hother', fun hresult => mem_append_left _ (hcompleted hresult)⟩
  · rw [hrecords, openWork_complete]
    exact fun recorded hrecorded => hs.backlog recorded (mem_of_mem_filter hrecorded)

end

/-- A restarted outbox has the open work of its journal pending and nothing staged. -/
theorem Backlog.restarted (folded : Folded W) {nextIndex nextWorkId : Nat}
    (hreplayable : Replayable (max capacity 1) t.records)
    (hpending : folded.pending = openWork t.records) (hnodup : (folded.pending.map (·.id)).Nodup)
    (houtbox : t.outbox = folded.outbox (max capacity 1) nextIndex nextWorkId)
    (hworks : t.works = []) (hcompletions : t.completions = []) :
    Backlog (max capacity 1) t := by
  have hids : t.outbox.pending = (folded.pending.map (·.id)).toFinset := by simp [houtbox]
  constructor
  · exact hreplayable
  · simp [houtbox]
  · rw [hids, houtbox, (Folded.outbox_fields ..).2.2.2.1, toFinset_card_of_nodup hnodup, length_map,
      hpending, Finset.card_empty, zero_add]
    exact hreplayable.bounded _ (prefix_refl _)
  · simp [houtbox, hworks]
  · simp [hworks]
  · simp [hworks]
  · simp [hcompletions]
  · intro id hmem
    rw [hids, mem_toFinset, hpending] at hmem
    obtain ⟨recorded, hopen, rfl⟩ := mem_map.1 hmem
    exact mem_enqueuedIds_of_open hopen
  · intro recorded hopen
    rw [hids, hpending, Finset.mem_union, mem_toFinset]
    exact .inl (mem_map_of_mem (f := (·.id)) hopen)

variable [DurablePayload W]

/-- The id of the next work is no token's and no journal entry's. -/
theorem Layout.nextWorkId_fresh (hlayout : Layout s) :
    s.outbox.nextWorkId ∉ s.works.map (·.token.id) ∧
      s.outbox.nextWorkId ∉ s.enqueuedIds := by
  constructor <;> intro hmem
  · obtain ⟨held, hheld, heq⟩ := mem_map.1 hmem
    exact ne_of_lt (hlayout.works held hheld).2.1 heq
  · obtain ⟨entry, hentry, heq⟩ := exists_entry_of_mem_enqueuedIds hmem
    exact ne_of_lt (hlayout.entries entry hentry).1 heq

theorem Backlog.does {operation : SessionOperation W} (hlayout : Layout s)
    (hs : Backlog (max capacity 1) s) (hkeeps : operation.KeepsDurable capacity s)
    (hdoes : operation.Does s t) : Backlog (max capacity 1) t := by
  cases hdoes with
  | full | notBegun => exact hs
  | enqueued =>
    obtain ⟨hfresh, hunused⟩ := hlayout.nextWorkId_fresh
    refine { hs with
      room := ?_, staged := ?_, distinct := ?_, notDurable := ?_, backlog := ?_ }
    · have hcard := Finset.card_insert_le s.outbox.nextWorkId s.outbox.staged
      have hcapacity := hs.capacity
      dsimp only
      omega
    · simp only [map_append, toFinset_append, hs.staged]
      ext other
      simp
    · simpa [nodup_append, hs.distinct] using hfresh
    · exact forall_mem_append.2 ⟨hs.notDurable, forall_mem_singleton.2 fun _ => ⟨hunused, by simp⟩⟩
    · intro recorded hopen
      have hslot := hs.backlog recorded hopen
      simp only [Finset.mem_union, Finset.mem_insert] at hslot ⊢
      tauto
  | begun hpending =>
    refine { hs with completions := ?_ }
    exact forall_mem_append.2 ⟨hs.completions,
      forall_mem_singleton.2 ⟨hs.pending _ hpending, by simp⟩⟩
  | @workFailed position held outcome error hheld =>
    have hmap := map_set_of_eq (b := { held with result := some (.error error) })
      (fun held : Held (DurableWork W) => held.token.id) hheld rfl
    have hmem := mem_of_getElem? hheld
    refine { hs with staged := ?_, distinct := ?_, notDurable := ?_ }
    · rw [hmap]
      exact hs.staged
    · rw [hmap]
      exact hs.distinct
    · exact forall_mem_set hs.notDurable fun hdurable =>
        ⟨(hs.notDurable held hmem hdurable).1, by simp⟩
  | completionFailed _ hheld =>
    refine { hs with completions := ?_ }
    refine forall_mem_set hs.completions ⟨?_, by rintro ⟨⟩⟩
    exact (hs.completions _ (mem_of_getElem? hheld)).1
  | @workWritten position held outcome hheld hlands =>
    refine hs.write hheld ?_ rfl
    have hmem := mem_of_getElem? hheld
    cases hdurable : held.durable with
    | false => exact (hs.notDurable held hmem hdurable).1
    | true =>
      -- a durable token's entry is older than the one appended now
      exact absurd (hlands.order _ (hlayout.durable held hmem hdurable)) (lt_irrefl _)
  | completionWritten hheld => exact hs.writeCompletion hheld rfl
  | @recorded position held append hheld hresult =>
    obtain ⟨hcapacity, -, -, hstaged, hpending⟩ := s.outbox.record_spec held.token append
    have hmem := mem_of_getElem? hheld
    refine hs.unstage hheld hcapacity hstaged ?_
    cases append with
    | error =>
      refine .inl ⟨by simpa [isOk, Except.toBool] using hpending, ?_⟩
      cases hdurable : held.durable with
      | false => exact (hs.notDurable held hmem hdurable).1
      | true =>
        have hkept := hkeeps held hheld hdurable
        simp [hresult] at hkept
    | ok =>
      refine .inr ⟨by simpa [isOk, Except.toBool, hs.mem_staged hheld] using hpending, ?_⟩
      cases hdurable : held.durable with
      | false => exact absurd hresult (hs.notDurable held hmem hdurable).2
      | true => exact mem_enqueuedIds (hlayout.durable held hmem hdurable)
  | @abandoned position held hheld =>
    obtain ⟨hcapacity, -, -, hstaged, hpending⟩ := s.outbox.abandon_spec held.token
    exact hs.unstage hheld hcapacity hstaged
      (.inl ⟨hpending, (hs.notDurable held (mem_of_getElem? hheld) (hkeeps held hheld)).1⟩)
  | @finished position held append hheld hresult =>
    obtain ⟨hcapacity, -, -, hstaged, hpending⟩ := s.outbox.finishComplete_spec held.token append
    refine hs.finish held hcapacity hstaged ?_
    cases append with
    | error => exact .inl (by simpa [isOk, Except.toBool] using hpending)
    | ok =>
      refine .inr ⟨(hs.completions held (mem_of_getElem? hheld)).2 hresult, ?_⟩
      simpa [isOk, Except.toBool] using hpending
  | @recovered inFlight restartCapacity commit disk folded hdisk hfolds =>
    obtain rfl := hkeeps
    exact .restarted folded hs.replayable hfolds.pending hfolds.nodup rfl rfl rfl
  | @compacted inFlight restartCapacity commit disk folded hdisk hfolds =>
  obtain rfl := hkeeps
  have hrecords := what_compactedEntries 1 folded.pending
  refine .restarted folded ?_ ?_ hfolds.nodup rfl rfl rfl
  · rw [records, hrecords]
    refine replayable_enqueues hfolds.nodup ?_
    rw [hfolds.pending]
    exact hs.replayable.bounded _ (prefix_refl _)
  · rw [records, hrecords, openWork_enqueues]

theorem SessionRun.backlog {p : Session W → SessionOperation W → Prop}
    (hp : ∀ s operation, p s operation →
      operation.KeepsDurable capacity s ∧ operation.KeepsSidecar s)
    (hs : SessionRun p capacity s) : Backlog (max capacity 1) s := by
  induction hs with
  | start => exact backlog_new capacity
  | step operation hs hstep hrun ih =>
    obtain ⟨hdurable, hsidecar⟩ := hp _ operation hstep
    have hlayout := SessionRun.layout (fun s operation h => (hp s operation h).2) hs
    exact ih.does hlayout hdurable (operation.run_does hlayout hsidecar hrun)

end

end Tina.Persistence
