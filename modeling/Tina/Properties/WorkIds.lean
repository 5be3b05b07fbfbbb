import Tina.Persistence.Layout

/-!
Work ids over several lives of an outbox. A recovered outbox goes on counting behind the highest
id in the journal, so an id can come back only when a compaction has dropped the record of the
highest id and the journal is then recovered once more. An id that was staged and never became
durable comes back at once, and with it the tokens of the outbox before the crash.
-/

namespace Tina.Persistence

open Lib

/-- Recovery counts on behind every id in the journal it reads. -/
theorem Folds.id_lt {W : Type} {entries : List (JournalEntry W)} {folded : Folded W}
    (hfolds : Folds entries folded) {id : Nat} (hle : ∃ entry ∈ entries, id ≤ entry.what.id) :
    id < folded.maxWorkId + 1 := by
  obtain ⟨entry, hentry, hle⟩ := hle
  rw [hfolds.maxWorkId]
  exact Nat.lt_succ_of_le (hle.trans ((le_foldl_max _ 0).2 _ (List.mem_map_of_mem hentry)))

variable {W : Type} [DurablePayload W] {s t : Session W} {capacity : Nat}

/-- A restart finds an id in the journal that no id ever made durable exceeds. -/
def SessionOperation.FindsHighestId (s : Session W) : SessionOperation W → Prop
  | .restart .. => ∀ id ∈ s.durableIds, ∃ entry ∈ s.journal, id ≤ entry.what.id
  | _ => True

open SessionOperation

instance (s : Session W) (operation : SessionOperation W) :
    Decidable (operation.FindsHighestId s) := by
  rcases operation <;> unfold SessionOperation.FindsHighestId <;> infer_instance

/-- Every id that was ever durable is below the counter. -/
def DurableBelow (s : Session W) : Prop :=
  ∀ id ∈ s.durableIds, id < s.outbox.nextWorkId

theorem DurableBelow.does {operation : SessionOperation W} (hs : Layout s) (hbelow : DurableBelow s)
    (hhighest : operation.FindsHighestId s) (hdoes : operation.Does s t) : DurableBelow t := by
  cases hdoes with
  | full | notBegun | begun | workFailed | completionFailed | completionWritten => exact hbelow
  | enqueued => exact fun id hmem => Nat.lt_succ_of_lt (hbelow id hmem)
  | workWritten hheld =>
    refine List.forall_mem_append.2 ⟨hbelow, List.forall_mem_singleton.2 ?_⟩
    exact (hs.works _ (List.mem_of_getElem? hheld)).2.1
  | @recorded position held append =>
    exact fun id hmem => (s.outbox.record_spec held.token append).2.1 ▸ hbelow id hmem
  | @abandoned position held =>
    exact fun id hmem => (s.outbox.abandon_spec held.token).2.1 ▸ hbelow id hmem
  | @finished position held append =>
    exact fun id hmem => (s.outbox.finishComplete_spec held.token append).2.1 ▸ hbelow id hmem
  | recovered _ hfolds | compacted _ hfolds =>
    exact fun id hmem => by simpa using hfolds.id_lt (hhighest id hmem)

theorem SessionRun.durableBelow
    (hs : SessionRun (fun s operation => operation.FindsHighestId s ∧ operation.KeepsSidecar s)
      capacity s) : DurableBelow s := by
  induction hs with
  | start => rintro _ ⟨⟩
  | step operation hs hp hrun ih =>
    have hlayout := SessionRun.layout (fun _ _ hp => hp.2) hs
    exact ih.does hlayout hp.1 (operation.run_does hlayout hp.2 hrun)

/-- In every run, an id that `enqueue` hands out is none that was ever durable, as long as every
restart still finds the highest such id in its journal and the sidecar is kept apart from other
files. The run may change the capacity at a restart, tear an append at any byte, and hold appends
that fail with or without leaving their record. -/
theorem work_ids_not_reused {work : W} {staged : DurableWork W} {outbox : DurableOutbox}
    (hs : SessionRun (fun s operation => operation.FindsHighestId s ∧ operation.KeepsSidecar s)
      capacity s)
    (henqueue : s.outbox.enqueue work = .ok (staged, outbox)) : staged.id ∉ s.durableIds := by
  obtain ⟨-, rfl, -⟩ := s.outbox.enqueue_spec henqueue
  exact fun hmem => lt_irrefl _ (hs.durableBelow _ hmem)

/-- Work that is recorded, completed and dropped by a compaction. -/
def compactedOperations : List (SessionOperation ByteVec) :=
  [.enqueue noBytes, .appendWork 0 .ok, .record 0, .beginComplete 1, .appendCompletion 0 .ok,
    .finishComplete 0, .restart .nothing 2 .clean true]

/-- After the compaction the outbox still counts on behind the dropped work. -/
theorem work_id_fresh_after_compaction : ∃ s : Session ByteVec,
      SessionRun (fun s operation => operation.FindsHighestId s ∧ operation.KeepsSidecar s) 2 s ∧
        s.durableIds = [1] ∧ ∃ staged outbox,
          s.outbox.enqueue noBytes = .ok (staged, outbox) ∧ staged.id ∉ s.durableIds := by
  obtain ⟨s, hs, hend⟩ := exists_run run
    (fun s operation => FindsHighestId s operation ∧ KeepsSidecar s operation) (Session.new 2)
    compactedOperations
    (fun s => s.durableIds = [1] ∧ (s.outbox.enqueue noBytes).isOk)
    (by decide +kernel)
  obtain ⟨hids, hok⟩ := of_decide_eq_true hend
  cases henqueue : s.outbox.enqueue noBytes with
  | error => simp [henqueue, Except.isOk, Except.toBool] at hok
  | ok result => exact ⟨s, hs, hids, result.1, result.2, henqueue, work_ids_not_reused hs henqueue⟩

/-- A second restart starts over at the id of the work that was dropped. -/
theorem work_id_reused_after_second_restart :
    ∃ s : Session ByteVec, SessionRun (fun _ _ => True) 2 s ∧
      ∃ staged outbox, s.outbox.enqueue noBytes = .ok (staged, outbox) ∧
        staged.id ∈ s.durableIds := by
  obtain ⟨s, hs, hend⟩ := exists_run run (fun _ _ => True) (Session.new 2)
    (compactedOperations ++ [.restart .nothing 2 .clean false])
    (fun s => match s.outbox.enqueue noBytes with
      | .ok (staged, _) => staged.id ∈ s.durableIds
      | .error _ => false)
    (by decide +kernel)
  split at hend
  · rename_i staged outbox henqueue
    exact ⟨s, hs, staged, outbox, henqueue, of_decide_eq_true hend⟩
  · cases hend

/-- A call on an outbox. Its tokens may be any: those of the outbox, or of one before it. -/
inductive OutboxOperation (W : Type) where
  | enqueue (work : W)
  | record (token : DurableWork W) (append : Except CallError Unit)
  | abandon (token : DurableWork W)
  | beginComplete (id : Nat)
  | finishComplete (completion : DurableCompletion) (append : Except CallError Unit)

/-- One call; `none` when a counter would leave its range. -/
def OutboxOperation.run (outbox : DurableOutbox) : OutboxOperation W → Option DurableOutbox
  | enqueue work =>
    match outbox.enqueue work with
    | .ok (_, outbox) => some outbox
    | .error (.full _) => some outbox
    | .error .overflow => none
  | record token append => some (outbox.record token append).2
  | abandon token => some (outbox.abandon token).2
  | beginComplete id =>
    match outbox.beginComplete id with
    | (.overflow, _) => none
    | (_, outbox) => some outbox
  | finishComplete completion append => some (outbox.finishComplete completion append).2

/-- A call that does not stage the id of a token from before the crash, if the record of that token
was not durable. -/
def OutboxOperation.Spares (held : Held (DurableWork W)) (outbox : DurableOutbox) :
    OutboxOperation W → Prop
  | .enqueue _ => held.durable = true ∨ outbox.nextWorkId ≠ held.token.id
  | _ => True

/-- The outbox has staged only ids from `start` on, and not that of the token, if it was spared. -/
structure Recovered (start : Nat) (held : Held (DurableWork W)) (outbox : DurableOutbox) :
    Prop where
  counted : start ≤ outbox.nextWorkId
  staged : ∀ id ∈ outbox.staged, start ≤ id
  spared : held.durable = true ∨ held.token.id ∉ outbox.staged

section

variable {held : Held (DurableWork W)} {outbox outbox' : DurableOutbox} {start : Nat}

omit [DurablePayload W] in
/-- Only `enqueue` stages an id, and it is the next one. -/
theorem Recovered.keeps (h : Recovered start held outbox)
    (hid : outbox'.nextWorkId = outbox.nextWorkId) (hstaged : outbox'.staged ⊆ outbox.staged) :
    Recovered start held outbox' where
  counted := hid ▸ h.counted
  staged id hmem := h.staged id (hstaged hmem)
  spared := h.spared.imp_right fun hnot hmem => hnot (hstaged hmem)

theorem Recovered.step {operation : OutboxOperation W} (h : Recovered start held outbox)
    (hspares : operation.Spares held outbox) (hrun : operation.run outbox = some outbox') :
    Recovered start held outbox' := by
  cases operation with
  | enqueue work =>
    simp only [OutboxOperation.run] at hrun
    split at hrun
    · rename_i staged after henqueue
      cases hrun
      obtain ⟨-, -, rfl, -⟩ := outbox.enqueue_spec henqueue
      refine ⟨Nat.le_succ_of_le h.counted, (Finset.forall_mem_insert _ _ _).2 ⟨h.counted, h.staged⟩,
        ?_⟩
      rcases hspares with hdurable | hne
      · exact .inl hdurable
      · exact h.spared.imp_right fun hnot hmem =>
          (Finset.mem_insert.1 hmem).elim (hne ·.symm) hnot
    · cases hrun
      exact h
    · cases hrun
  | record token append =>
    cases hrun
    obtain ⟨-, hid, -, hstaged, -⟩ := outbox.record_spec token append
    exact h.keeps hid (hstaged ▸ Finset.erase_subset _ _)
  | abandon token =>
    cases hrun
    obtain ⟨-, hid, -, hstaged, -⟩ := outbox.abandon_spec token
    exact h.keeps hid (hstaged ▸ Finset.erase_subset _ _)
  | beginComplete id =>
    simp only [OutboxOperation.run] at hrun
    rcases hbegin : outbox.beginComplete id with ⟨answer, after⟩
    rw [hbegin] at hrun
    have hafter : outbox' = after := by
      cases answer <;> cases hrun <;> rfl
    rcases outbox.beginComplete_spec hbegin with ⟨hsame, -⟩ | ⟨-, -, -, hnext⟩
    · exact hafter ▸ hsame ▸ h
    · exact h.keeps (by rw [hafter, hnext]) (by rw [hafter, hnext])
  | finishComplete completion append =>
    cases hrun
    obtain ⟨-, hid, -, hstaged, -⟩ := outbox.finishComplete_spec completion append
    exact h.keeps hid hstaged.subset

omit [DurablePayload W] in
/-- Whatever its append returned, a token whose id is not staged is refused, and the sets of ids
stay as they are. -/
theorem record_refused {token : DurableWork W} (hstale : token.id ∉ outbox.staged)
    (append : Except CallError Unit) :
    (∀ recorded, (outbox.record token append).1 ≠ .ok recorded) ∧
      (outbox.record token append).2.staged = outbox.staged ∧
      (outbox.record token append).2.pending = outbox.pending := by
  obtain ⟨-, -, -, hstaged, hpending⟩ := outbox.record_spec token append
  refine ⟨?_, ?_, ?_⟩
  · rcases append with _ | ⟨⟨⟩⟩ <;> simp [DurableOutbox.record, hstale]
  · rw [hstaged, Finset.erase_eq_of_notMem hstale]
  · rw [hpending, if_neg fun hboth => hstale hboth.2]

/-- A recovered outbox has nothing staged and counts on behind every id in the journal. -/
theorem recovered_of_restart {inFlight : InFlight} {capacity' : Nat} {commit : CommitConfidence}
    {compact : Bool} (hdoes : (restart inFlight capacity' commit compact).Does s t) :
    t.outbox.staged = ∅ ∧ ∀ entry ∈ s.journal, entry.what.id < t.outbox.nextWorkId := by
  cases hdoes with
  | recovered _ hfolds | compacted _ hfolds =>
    refine ⟨by simp, fun entry hentry => ?_⟩
    simpa using hfolds.id_lt ⟨entry, hentry, le_rfl⟩

/-- A token from before a crash, against every sequence of calls on the outbox that was recovered
after it, with or without compaction. The recovered outbox stages only ids above those of all
records in the journal. So a token whose record was durable is refused whatever the outbox does, and
any other token is refused as long as the outbox has not staged its id for work of its own: `record`
returns no authority, whatever the append is said to have returned, and the staged and pending ids
stay as they are. -/
theorem earlier_work_refused {inFlight : InFlight} {capacity' : Nat} {commit : CommitConfidence}
    {compact : Bool}
    (hs : SessionRun (fun s operation => operation.KeepsSidecar s) capacity s)
    (hheld : held ∈ s.works) (hkeeps : (restart inFlight capacity' commit compact).KeepsSidecar s)
    (hrestart : (restart inFlight capacity' commit compact).run s = some t)
    (houtbox : Run OutboxOperation.run (fun outbox operation => operation.Spares held outbox)
      t.outbox outbox) :
    (∀ id ∈ outbox.staged, ∀ entry ∈ s.journal, entry.what.id < id) ∧
    ∀ append, (∀ recorded, (outbox.record held.token append).1 ≠ .ok recorded) ∧
      (outbox.record held.token append).2.staged = outbox.staged ∧
      (outbox.record held.token append).2.pending = outbox.pending := by
  have hlayout := hs.layout fun _ _ hkeeps => hkeeps
  obtain ⟨hempty, hbelow⟩ := recovered_of_restart (run_does hlayout hkeeps hrestart)
  have hstart : Recovered t.outbox.nextWorkId held t.outbox :=
    ⟨le_rfl, by simp [hempty], .inr (by simp [hempty])⟩
  have hrecovered : Recovered t.outbox.nextWorkId held outbox :=
    houtbox.invariant hstart fun _ _ _ h hspares hrun => h.step hspares hrun
  refine ⟨fun id hmem entry hentry => (hbelow entry hentry).trans_le (hrecovered.staged id hmem),
    record_refused ?_⟩
  rcases hrecovered.spared with hdurable | hnot
  · intro hmem
    have hentry := hbelow _ (hlayout.durable held hheld hdurable)
    exact absurd (hrecovered.staged _ hmem) (Nat.not_le.2 hentry)
  · exact hnot

/-- The outbox before the crash has staged the ids 1 and 2, of which the first is durable and the
second is torn. The one after it stages the id 2 for work of its own, and refuses the token of id
1. -/
theorem earlier_work_refused_of_durable :
    ∃ (held : Held (DurableWork ByteVec)) (outbox : DurableOutbox),
      held.token.id = 1 ∧ outbox.staged = {2} ∧
      ∀ append, (∀ recorded, (outbox.record held.token append).1 ≠ .ok recorded) ∧
        (outbox.record held.token append).2.staged = outbox.staged ∧
        (outbox.record held.token append).2.pending = outbox.pending := by
  obtain ⟨s, hs, hend⟩ := exists_run run (fun s operation => KeepsSidecar s operation)
    (Session.new 2) [.enqueue noBytes, .appendWork 0 .ok, .enqueue noBytes]
    (fun s => s.works[0]?.any fun held => ((restart (.work 1 5) 2 .clean true).run s).any fun t =>
      ((OutboxOperation.enqueue noBytes).run t.outbox).any fun outbox =>
        held.durable = true ∧ held.token.id = 1 ∧
          (restart (.work 1 5) 2 .clean true).KeepsSidecar s ∧ outbox.staged = {2})
    (by decide +kernel)
  obtain ⟨held, hheld, hend⟩ := (Option.any_eq_true _ _).1 hend
  obtain ⟨t, hrestart, hend⟩ := (Option.any_eq_true _ _).1 hend
  obtain ⟨outbox, hrun, hend⟩ := (Option.any_eq_true _ _).1 hend
  obtain ⟨hdurable, hid, hkeeps, hstaged⟩ := of_decide_eq_true hend
  exact ⟨held, outbox, hid, hstaged, (earlier_work_refused hs (List.mem_of_getElem? hheld)
    hkeeps hrestart (.step (.enqueue noBytes) .start (.inl hdurable) hrun)).2⟩

end

/-- Work is staged and the crash comes before its append. The outbox recovered from the empty
journal stages other work under the same id, and then takes the old token for its own. -/
theorem stale_work_recorded :
    ∃ work : ByteVec, work ≠ noBytes ∧ ∃ token before recovered report own after,
      (DurableOutbox.new 1).enqueue work = .ok (token, before) ∧
      recover (W := ByteVec) 1 (replayJournalBytes []) .clean = .ok (recovered, report) ∧
      recovered.enqueue noBytes = .ok (own, after) ∧
      (after.record token (.ok ())).1 = .ok { id := own.id, work } :=
  ⟨⟨[7], by decide⟩, by decide, _, _, _, _, _, _, rfl, rfl, rfl, rfl⟩

end Tina.Persistence
