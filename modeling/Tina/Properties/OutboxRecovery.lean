import Tina.Persistence.Backlog

/-!
What recovery finds of an outbox. After appends whose results are truthful it finds the work of
every record that is whole in what a crash left of the file. After appends that fail and leave
their record it succeeds as long as no slot of durable work was given back, and no append was let
through by a sidecar that speaks of another file.
-/

namespace Tina.Persistence

open Lib List JournalEntry SessionOperation Session

variable {W : Type} [DurablePayload W] {s t : Session W} {capacity : Nat}

/-- Recovery of a journal that is replayable at its capacity and leaves room for one more id
and index. -/
theorem Recorded.recover_ok {entries : List (JournalEntry W)} {file : List UInt8}
    (hfile : Recorded entries file)
    (hreplayable : Replayable (max capacity 1) (entries.map (·.what)))
    (hnext : ∀ entry ∈ entries, entry.what.id + 1 < 2 ^ 64 ∧ entry.index + 1 < 2 ^ 64)
    (commit : CommitConfidence) :
    ∃ folded, Folds entries folded ∧ recover capacity (replayJournalBytes file) commit = .ok
        (folded.outbox (max capacity 1) (folded.maxIndex + 1) (folded.maxWorkId + 1),
          folded.report commit (if file = encodeJournal (entries.map record) then none
            else some (.truncatedTail
              (encodeJournal (entries.map record)).length))) := by
  obtain ⟨folded, hfold, hfolds⟩ := foldlM_entries_ok hfile.ids hreplayable
  have hindex : folded.maxIndex < 2 ^ 64 - 1 := by
    rw [hfolds.maxIndex]
    refine foldl_max_lt (by decide) fun index hmem => ?_
    obtain ⟨entry, hentry, rfl⟩ := mem_map.1 hmem
    have hentryIndex := (hnext entry hentry).2
    omega
  have hid : folded.maxWorkId < 2 ^ 64 - 1 := by
    rw [hfolds.maxWorkId]
    refine foldl_max_lt (by decide) fun id hmem => ?_
    obtain ⟨entry, hentry, rfl⟩ := mem_map.1 hmem
    have hentryId := (hnext entry hentry).1
    omega
  refine ⟨folded, hfolds, ?_⟩
  rw [hfile.written.replay]
  simp only [recover, fold, hfold, bind, Except.bind, pure, Except.pure,
    checkedSucc_eq_some.2 ⟨rfl, Nat.add_lt_of_lt_sub hindex⟩,
    checkedSucc_eq_some.2 ⟨rfl, Nat.add_lt_of_lt_sub hid⟩]

theorem Layout.next (hs : Layout s) :
    ∀ entry ∈ s.journal, entry.what.id + 1 < 2 ^ 64 ∧ entry.index + 1 < 2 ^ 64 := by
  intro entry hentry
  obtain ⟨_, _⟩ := hs.entries entry hentry
  have hnextId := hs.nextWorkId
  have hnextIndex := hs.nextIndex
  omega

/-- Recovery at the same capacity succeeds in every run that gives back no slot of durable work and
keeps the sidecar apart from other files. Appends may fail before, in and after their record, the
commit may be uncertain, and the run may restart at any time, with or without compaction and with an
append torn at any byte. -/
theorem recover_succeeds (hs : SessionRun (fun s operation => operation.KeepsDurable capacity s ∧
      operation.KeepsSidecar s) capacity s) (commit : CommitConfidence) :
    ∃ outbox report,
      recover (W := W) capacity s.disk.replayJournal commit = .ok (outbox, report) := by
  have hlayout := hs.layout fun _ _ hkeeps => hkeeps.2
  obtain ⟨_, -, hrecover⟩ := hlayout.gated.recorded.recover_ok
    (hs.backlog fun _ _ hkeeps => hkeeps).replayable hlayout.next commit
  rw [s.disk.replayJournal_eq]
  exact ⟨_, _, hrecover⟩

/-- Appends that fail and leave a part of their record, all of it, or all of it and the sidecar,
with two restarts in between, of which one compacts. -/
theorem recover_succeeds_after_failed_appends : ∃ s : Session ByteVec,
      SessionRun (fun s operation => operation.KeepsDurable 1 s ∧ operation.KeepsSidecar s) 1 s ∧
        s.journal.length = 2 ∧ ∃ outbox report,
          recover (W := ByteVec) 1 s.disk.replayJournal .clean = .ok (outbox, report) := by
  obtain ⟨s, hs, hend⟩ := exists_run run
    (fun s operation => KeepsDurable 1 s operation ∧ KeepsSidecar s operation) (new 1)
    [.enqueue noBytes, .appendWork 0 (.failed .io (.write 9)), .restart (.work 0 5) 1 .clean false,
      .enqueue noBytes, .appendWork 0 (.failed .io (.write 64)),
        .restart .nothing 1 .uncertain true,
      .beginComplete 1, .appendCompletion 0 (.failed .commitUncertain .sync), .finishComplete 0]
    (·.journal.length = 2) (by decide +kernel)
  exact ⟨s, hs, of_decide_eq_true hend, recover_succeeds hs .clean⟩

/-- The sidecar must be kept apart. Here it speaks of a file of 123 bytes that a compaction replaced
by one of 41; a torn record then ends at 123 bytes, the next append but two is let through behind
it, and the journal cannot be read any more, although no slot of durable work was given back. -/
theorem recover_corrupt_after_stale_sidecar :
    ∃ s : Session ByteVec, SessionRun (fun s operation => operation.KeepsDurable 2 s) 2 s ∧
      recover (W := ByteVec) 2 s.disk.replayJournal .clean = .error .corruptTail := by
  obtain ⟨s, hs, hend⟩ := exists_run run (fun s operation => KeepsDurable 2 s operation) (new 2)
    [.enqueue noBytes, .appendWork 0 .ok, .record 0, .enqueue noBytes, .appendWork 0 .ok, .record 0,
      .beginComplete 1, .appendCompletion 0 .ok, .finishComplete 0, .restart .nothing 2 .clean true,
      .enqueue ⟨replicate 60 0, by decide⟩, .restart (.work 0 82) 2 .clean false,
      .enqueue noBytes, .abandon 0, .enqueue noBytes, .abandon 0, .enqueue noBytes,
      .appendWork 0 .ok]
    (fun s => match recover (W := ByteVec) 2 s.disk.replayJournal .clean with
      | .error .corruptTail => true
      | _ => false)
    (by decide +kernel)
  split at hend
  · rename_i hrecover
    exact ⟨s, hs, hrecover⟩
  · cases hend

/-- The slot of work whose append failed is given back although its record is in the file. -/
theorem recover_over_capacity_after_failed_append :
    ∃ s : Session ByteVec, SessionRun (fun _ _ => True) 1 s ∧
      recover (W := ByteVec) 1 s.disk.replayJournal .clean = .error (.overCapacity 1 2) := by
  obtain ⟨s, hs, hend⟩ := exists_run run (fun _ _ => True) (new 1)
    [.enqueue noBytes, .appendWork 0 (.failed .io (.write 64)), .record 0, .enqueue noBytes,
      .appendWork 0 .ok]
    (fun s => match recover (W := ByteVec) 1 s.disk.replayJournal .clean with
      | .error (.overCapacity 1 2) => true
      | _ => false)
    (by decide +kernel)
  split at hend
  · rename_i hrecover
    exact ⟨s, hs, hrecover⟩
  · cases hend

section

variable {operation : SessionOperation W} {entries : List (JournalEntry W)}

/-- The append succeeds, or it fails and leaves nothing. -/
def AppendOutcome.truthful : AppendOutcome → Bool
  | .ok | .failed _ .check => true
  | .failed _ (.write cut) => cut = 0
  | .failed _ .sync => false

/-- Entries are appended in order, an append that failed has left nothing, work is abandoned only if
it was not appended, and there is no restart. -/
def SessionOperation.Truthful (s : Session W) : SessionOperation W → Prop
  | .appendWork position outcome => outcome.truthful = true ∧ ∀ held ∈ s.works[position]?,
      ∀ entry ∈ s.journal, entry.index < held.token.index
  | .appendCompletion position outcome => outcome.truthful = true ∧
      ∀ held ∈ s.completions[position]?, ∀ entry ∈ s.journal, entry.index < held.token.index
  | .abandon position => ∀ held ∈ s.works[position]?, held.durable = false
  | .restart .. => False
  | _ => True

instance (s : Session W) (operation : SessionOperation W) : Decidable (operation.Truthful s) := by
  unfold SessionOperation.Truthful
  split <;> infer_instance

section

variable {entry : JournalEntry W} {outcome : AppendOutcome} (hs : Gated s.journal s.disk)
  (htruthful : outcome.truthful = true)

include hs htruthful

/-- A truthful append in order that adds nothing leaves the file as it was. -/
theorem Session.Misses.bytes_after (hmisses : s.Misses entry outcome)
    (horder : ∀ earlier ∈ s.journal, earlier.index < entry.index)
    (hfile : s.file = encodeJournal (s.journal.map record)) :
    (s.after entry outcome).bytes = encodeJournal (s.journal.map record) := by
  cases outcome with
  | ok => exact absurd horder (hmisses.refused rfl)
  | failed error fault =>
  cases fault with
  | check => exact hfile
  | write cut =>
    obtain rfl : cut = 0 := of_decide_eq_true htruthful
    exact hs.gate.bytes_crashedAppend_zero
  | sync => cases htruthful

/-- A truthful append that adds its entry has succeeded. -/
theorem Session.Lands.bytes_after (hlands : s.Lands entry outcome) : outcome = .ok ∧
    (s.after entry outcome).bytes = encodeJournal ((s.journal ++ [entry]).map record) := by
  cases outcome with
  | ok =>
    rw [map_append]
    exact ⟨rfl, hs.gate.bytes_append _ ((hs.inOrder_iff _).2 hlands.order)⟩
  | failed error fault =>
  cases fault with
  | check => cases hlands.leaves
  | write cut =>
    obtain rfl : cut = 0 := of_decide_eq_true htruthful
    have hnil : encodeJournalRecord entry.record = [] := by
      simpa [AppendOutcome.leaves] using hlands.leaves
    exact absurd hnil (encodeJournalRecord_ne_nil _)
  | sync => cases htruthful

end

/-- Work is durable when its append said so, and the file ends with its last record. -/
structure Faithful (s : Session W) : Prop where
  results : ∀ held ∈ s.works, held.durable → held.result = some (.ok ())
  file : s.file = encodeJournal (s.journal.map JournalEntry.record)

theorem Faithful.does (hs : Faithful s) (hlayout : Layout s)
    (htruthful : operation.Truthful s) (hdoes : operation.Does s t) : Faithful t := by
  cases hdoes with
  | full | notBegun => exact hs
  | enqueued => exact ⟨forall_mem_append.2 ⟨hs.results, by simp⟩, hs.file⟩
  | begun | finished => exact ⟨hs.results, hs.file⟩
  | completionFailed error hheld hmisses =>
    obtain ⟨houtcome, horder⟩ := htruthful
    exact ⟨hs.results, hmisses.bytes_after hlayout.gated houtcome (horder _ hheld) hs.file⟩
  | workFailed error hheld hmisses =>
    obtain ⟨houtcome, horder⟩ := htruthful
    refine ⟨forall_mem_set hs.results fun hdurable => ?_,
      hmisses.bytes_after hlayout.gated houtcome (horder _ hheld) hs.file⟩
    -- a durable token cannot be appended again
    have hentry := hlayout.durable _ (mem_of_getElem? hheld) hdurable
    exact absurd (horder _ hheld _ hentry) (lt_irrefl _)
  | workWritten hheld hlands =>
    obtain ⟨rfl, hfile⟩ := hlands.bytes_after hlayout.gated htruthful.1
    exact ⟨forall_mem_set hs.results fun _ => rfl, hfile⟩
  | completionWritten hheld hlands =>
    exact ⟨hs.results, (hlands.bytes_after hlayout.gated htruthful.1).2⟩
  | recorded | abandoned =>
    exact ⟨fun held hmem => hs.results held (mem_of_mem_eraseIdx hmem), hs.file⟩
  | recovered | compacted => cases htruthful

theorem AppendOutcome.keepsSidecar_of_truthful {outcome : AppendOutcome} {disk : Disk} {index : Nat}
    {bytes : List UInt8} (htruthful : outcome.truthful = true) :
    outcome.KeepsSidecar W disk index bytes := by
  cases outcome with
  | ok => trivial
  | failed error fault =>
  cases fault with
  | check | sync => trivial
  | write cut =>
    obtain rfl : cut = 0 := of_decide_eq_true htruthful
    intro sidecar _ written hpos
    exact absurd hpos (by simp [written])

theorem SessionOperation.Truthful.keeps (htruthful : operation.Truthful s) (hs : Faithful s) :
    operation.KeepsDurable capacity s ∧ operation.KeepsSidecar s := by
  cases operation with
  | record => exact ⟨fun held hheld => hs.results held (mem_of_getElem? hheld), trivial⟩
  | abandon => exact ⟨htruthful, trivial⟩
  | restart => cases htruthful
  | appendWork | appendCompletion =>
    exact ⟨trivial, fun _ _ => AppendOutcome.keepsSidecar_of_truthful htruthful.1⟩
  | enqueue | beginComplete | finishComplete => exact ⟨trivial, trivial⟩

/-- A truthful run is one that keeps the slots of durable work and the sidecar. -/
theorem SessionRun.truthful (hs : SessionRun (fun s operation => operation.Truthful s) capacity s) :
    Faithful s ∧ SessionRun (fun s operation => operation.KeepsDurable capacity s ∧
      operation.KeepsSidecar s) capacity s := by
  induction hs with
  | start => exact ⟨⟨by rintro _ ⟨⟩, rfl⟩, .start⟩
  | step operation _ htruthful hrun ih =>
  obtain ⟨hfaithful, hkept⟩ := ih
  have hkeeps : operation.KeepsDurable capacity _ ∧ _ := htruthful.keeps hfaithful
  have hlayout := hkept.layout fun _ _ hkeeps => hkeeps.2
  exact ⟨hfaithful.does hlayout htruthful (operation.run_does hlayout hkeeps.2 hrun),
    .step operation hkept hkeeps hrun⟩

/-- The entries that a cut leaves whole are what the cut file records. -/
theorem Recorded.take (cut : Nat)
    (hrecorded : Recorded entries (encodeJournal (entries.map record))) :
    Recorded (framesWithin (encodeJournalRecord ∘ record) cut entries)
      ((encodeJournal (entries.map record)).take cut) := by
  have hpre := framesWithin_isPrefix
    (encodeJournalRecord ∘ record (W := W)) cut entries
  obtain ⟨torn, htake, htorn⟩ := take_flatMap_frames
    (encodeJournalRecord ∘ record (W := W)) cut entries
  refine ⟨fun entry hentry => hrecorded.ids entry (hpre.subset hentry),
    hrecorded.written.order.sublist (hpre.map _).sublist,
    fun _ hrecord => hrecorded.written.fits _ ((hpre.map _).subset hrecord),
    ⟨torn, ?_, htorn.imp id ?_⟩, (length_take_le' _ _).trans_lt hrecorded.written.length⟩
  · rw [encodeJournal, flatMap_map, encodeJournal, flatMap_map]
    exact htake
  · rintro ⟨entry, hentry, hrest⟩
    exact ⟨entry.record, hrecorded.written.fits _ (mem_map_of_mem hentry), hrest⟩

theorem encodeJournal_map (entries : List (JournalEntry W)) :
    encodeJournal (entries.map record) = entries.flatMap (encodeJournalRecord ∘ record) := by
  rw [encodeJournal, flatMap_map]
  rfl

/-- A cut leaves whole entries when it is where one of them ends. -/
theorem take_encodeJournal_eq_iff {cut : Nat}
    (hcut : cut ≤ (encodeJournal (entries.map record)).length) :
    (encodeJournal (entries.map record)).take cut = encodeJournal
        ((framesWithin (encodeJournalRecord ∘ record) cut entries).map record) ↔
      ∃ n, cut = (encodeJournal ((entries.take n).map record)).length := by
  have hencode : ∀ entry : JournalEntry W, (encodeJournalRecord ∘ record) entry ≠ [] :=
    (encodeJournalRecord_ne_nil ·.record)
  simp only [encodeJournal_map] at hcut ⊢
  exact take_eq_flatMap_iff (encodeJournalRecord ∘ record) hencode cut entries hcut

/-- Recovery of any prefix of the file finds the work whose enqueue record is whole in it and whose
completion record is not, and reports a repair when nothing is uncertain and the prefix does not end
between two records. The prefix is what a crash leaves of a run without restarts, in which an append
leaves its whole record or, if it fails, nothing. -/
theorem recover_of_prefix {file : List UInt8}
    (hs : SessionRun (fun s operation => operation.Truthful s) capacity s)
    (hfile : file <+: s.file) (commit : CommitConfidence) :
    let whole := (framesWithin (encodeJournalRecord ∘ JournalEntry.record) file.length
      s.journal).map (·.what)
    ∃ outbox report, recover capacity (replayJournalBytes file) commit = .ok (outbox, report) ∧
      report.pending = openWork whole ∧
      report.completed.Nodup ∧ (∀ id, id ∈ report.completed ↔ id ∈ completedIds whole) ∧
      ((∃ length, report.tailStatus = .truncatedTailRepaired length) ↔
        commit = .clean ∧ ∀ n, file.length ≠
          (encodeJournal ((s.journal.take n).map JournalEntry.record)).length) ∧
      (report.tailStatus = .uncertainCommit ↔ commit = .uncertain) := by
  intro whole
  obtain ⟨hfaithful, hkept⟩ := hs.truthful
  have hlayout := hkept.layout fun _ _ hkeeps => hkeeps.2
  have hrecorded : Recorded s.journal s.file := hlayout.gated.recorded
  rw [hfaithful.file] at hrecorded
  have hcut : file.length ≤ (encodeJournal (s.journal.map record)).length :=
    hfaithful.file ▸ hfile.length_le
  have htake : file = (encodeJournal (s.journal.map record)).take file.length := by
    rw [← hfaithful.file]
    exact prefix_iff_eq_take.1 hfile
  have hpre := framesWithin_isPrefix (encodeJournalRecord ∘ record (W := W)) file.length s.journal
  obtain ⟨_, hfolds, hrecover⟩ := (hrecorded.take file.length).recover_ok
    ((hkept.backlog fun _ _ hkeeps => hkeeps).replayable.of_prefix (hpre.map _))
    (fun entry hentry => hlayout.next entry (hpre.subset hentry)) commit
  rw [← htake] at hrecover
  refine ⟨_, _, hrecover, hfolds.pending, hfolds.completedOnce, fun id => ?_, ?_, ?_⟩
  · rw [← hfolds.mem_completedSet, ← hfolds.completedOrder, mem_toFinset]
    rfl
  · have hends := take_encodeJournal_eq_iff hcut
    rw [← htake] at hends
    rw [← not_exists, ← hends, Folded.report, tailStatusFor_eq_truncatedTailRepaired]
    simp
  · exact tailStatusFor_eq_uncertainCommit

/-- A crash in the completion record leaves the work pending. -/
theorem recover_of_torn_completion :
    ∃ s : Session ByteVec, SessionRun (fun s operation => operation.Truthful s) 1 s ∧
      s.journal.length = 2 ∧ ∃ outbox report,
        recover 1 (replayJournalBytes (s.file.take (s.file.length - 1))) .clean =
          .ok (outbox, report) ∧ report.pending = [{ id := 1, work := noBytes }] := by
  obtain ⟨s, hs, hend⟩ := exists_run run (fun s operation => Truthful s operation) (new 1)
    [.enqueue noBytes, .appendWork 0 .ok, .record 0, .beginComplete 1, .appendCompletion 0 .ok]
    (fun s => s.journal.length = 2 ∧ openWork ((framesWithin (encodeJournalRecord ∘ record)
        (s.file.take (s.file.length - 1)).length s.journal).map (·.what)) =
          [{ id := 1, work := noBytes }])
    (by decide +kernel)
  obtain ⟨hlength, hopen⟩ := of_decide_eq_true hend
  obtain ⟨outbox, report, hrecover, hpending, -⟩ :=
    recover_of_prefix hs (List.take_prefix _ _) .clean
  exact ⟨s, hs, hlength, outbox, report, hrecover, hpending.trans hopen⟩

/-- With an uncertain commit a cut inside the first record is not reported as a repair. -/
theorem recover_uncertain_of_torn_record :
    ∃ s : Session ByteVec, SessionRun (fun s operation => operation.Truthful s) 1 s ∧
      (∀ n, (s.file.take 1).length ≠
        (encodeJournal ((s.journal.take n).map JournalEntry.record)).length) ∧
      ∃ outbox report, recover (W := ByteVec) 1 (replayJournalBytes (s.file.take 1)) .uncertain =
        .ok (outbox, report) ∧ report.tailStatus = .uncertainCommit := by
  obtain ⟨s, hs, hend⟩ := exists_run run (fun s operation => Truthful s operation) (new 1)
    [.enqueue noBytes, .appendWork 0 .ok]
    (fun s => decide (s.journal.length = 1 ∧ (s.file.take 1).length = 1 ∧
        (encodeJournal (s.journal.map record)).length ≠ 1) &&
      match recover (W := ByteVec) 1 (replayJournalBytes (s.file.take 1)) .uncertain with
      | .ok (_, report) => report.tailStatus = .uncertainCommit
      | .error _ => false)
    (by decide +kernel)
  obtain ⟨hsession, hrecover⟩ := Bool.and_eq_true_iff.1 hend
  obtain ⟨_, htake, hrecord⟩ := of_decide_eq_true hsession
  refine ⟨s, hs, fun n => ?_, ?_⟩
  · rw [htake]
    cases n with
    | zero => simp [encodeJournal]
    | succ =>
      rw [take_of_length_le (by omega)]
      exact hrecord.symm
  · split at hrecover
    · rename_i outbox report heq
      exact ⟨outbox, report, heq, of_decide_eq_true hrecover⟩
    · cases hrecover

end

end Tina.Persistence
