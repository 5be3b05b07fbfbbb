import Tina.Persistence.Layout

/-!
When an append to the journal is accepted: in every run of the disk that keeps the sidecar, the gate
is the one of the replayed records.
-/

namespace Tina.Persistence

open Lib Disk DiskOperation

section

variable {records : List JournalRecord} {disk : Disk} {index : Nat} {bytes : List UInt8}
  {result : Disk} {W : Type}

theorem Gate.step [DurablePayload W] {operation : DiskOperation} (hdisk : Gate records disk)
    (hkeeps : operation.KeepsSidecar W disk) (hrun : operation.run W disk = some result) :
    ∃ records', Gate records' result := by
  cases operation with
  | append =>
    simp only [run] at hrun
    split at hrun
    · rename_i hguard
      cases hrun
      exact ⟨_, (hdisk.append ⟨hguard.1, hguard.2.1⟩ hguard.2.2).2⟩
    · cases hrun
  | crashedAppend _ _ cut =>
    simp only [run] at hrun
    split at hrun
    · rename_i hguard
      cases hrun
      cases cut with
      | none => exact ⟨records, hdisk.crashedCheck⟩
      | some => exact ⟨_, hdisk.crashedAppend (W := W) ⟨hguard.1, hguard.2.1⟩ hguard.2.2 hkeeps⟩
    · cases hrun
  | repair =>
    cases hrun
    exact ⟨records, hdisk.repair⟩
  | install =>
  simp only [run] at hrun
  simp only [KeepsSidecar] at hkeeps
  split at hrun
  · rename_i outbox report image hrecover
    rw [hrecover] at hkeeps
    obtain ⟨folded, _, -, hindex, -, hpending, rfl, -⟩ := recoverCompacted_eq_ok hrecover
    dsimp only at hkeeps
    rw [hpending] at hkeeps
    split at hrun
    · rename_i hlength
      cases hrun
      exact ⟨compactedFrom 1 folded.pending, written_compacted hindex hlength, hkeeps,
        fun _ _ _ => rfl⟩
    · cases hrun
  · cases hrun

theorem DiskRun.gate [DurablePayload W]
    (hdisk : DiskRun W (fun disk operation => operation.KeepsSidecar W disk) disk) :
    ∃ records, Gate records disk := by
  refine Run.invariant (I := fun disk => ∃ records, Gate records disk) ⟨[], gate_empty⟩ ?_ hdisk
  rintro s _ t ⟨_, hgate⟩ hkeeps hrun
  exact hgate.step hkeeps hrun

/-- In every run that keeps the sidecar, an append succeeds just when its index is above that of the
last record that replay returns, and replay then returns its record too. The run holds appends with
any index, whole or cut at any byte, repairs and compactions; the bounds are those of the index and
of a file. -/
theorem append_accepted_iff {W : Type} [DurablePayload W] {replay : JournalReplay}
    (hdisk : DiskRun W (fun disk operation => operation.KeepsSidecar W disk) disk)
    (hreplay : disk.replayJournal = .ok replay)
    (hfits : JournalRecord.Fits { index := index, bytes := bytes })
    (hlength : (disk.appendJournalRecord index bytes).2.bytes.length < 2 ^ 63) :
    ((disk.appendJournalRecord index bytes).1 = .ok () ↔
      ∀ last ∈ replay.records.getLast?, last.index < index) ∧
    ((disk.appendJournalRecord index bytes).1 = .ok () →
      ∃ warning, (disk.appendJournalRecord index bytes).2.replayJournal =
        .ok { records := replay.records ++ [{ index := index, bytes := bytes }], warning }) := by
  obtain ⟨records, hgate⟩ := hdisk.gate
  rw [disk.replayJournal_eq, hgate.written.replay] at hreplay
  cases hreplay
  obtain ⟨hresult, happended⟩ := hgate.append hfits hlength
  have hall : records.getLast?.all (·.index < index) = true ↔
      ∀ last ∈ records.getLast?, last.index < index := by
    cases records.getLast? <;> simp
  rw [hresult, ← hall]
  by_cases haccepted : records.getLast?.all (·.index < index) = true
  · refine ⟨by simp [haccepted], fun _ => ?_⟩
    rw [if_pos haccepted] at happended
    exact ⟨_, (replayJournal_eq _).trans happended.written.replay⟩
  · exact ⟨by simp [haccepted], by simp [haccepted]⟩

end

/-- A record, then one that a crash has cut off after five bytes. -/
def tornOperations : List DiskOperation :=
  [.append 1 [], .crashedAppend 2 [] (some 5)]

/-- The torn record is repaired, and its index is free. -/
theorem append_accepted_after_crash :
    ∃ disk, DiskRun ByteVec (fun disk operation => operation.KeepsSidecar ByteVec disk) disk ∧
      (disk.appendJournalRecord 2 []).1 = .ok () ∧
      ∃ warning, (disk.appendJournalRecord 2 []).2.replayJournal =
        .ok { records := [{ index := 1, bytes := [] }, { index := 2, bytes := [] }], warning } := by
  obtain ⟨disk, hdisk, hend⟩ := exists_run (run ByteVec)
    (fun disk operation => operation.KeepsSidecar ByteVec disk) empty tornOperations
    (fun disk => decide (disk.replayJournal = .ok
        { records := [{ index := 1, bytes := [] }], warning := some (.truncatedTail 32) }) &&
      decide ((disk.appendJournalRecord 2 []).2.bytes.length < 2 ^ 63))
    (by decide +kernel)
  obtain ⟨hreplay, hlength⟩ := Bool.and_eq_true_iff.1 hend
  have hfits : JournalRecord.Fits { index := 2, bytes := [] } := ⟨by decide, by decide⟩
  obtain ⟨haccepted, hafter⟩ := append_accepted_iff hdisk (of_decide_eq_true hreplay) hfits
    (of_decide_eq_true hlength)
  have hok := haccepted.2 (by simp)
  exact ⟨disk, hdisk, hok, hafter hok⟩

/-- The only record has index 2 and is given index 1 by a compaction, which leaves its length:
the sidecar still says 2, and the next index is refused. -/
theorem next_index_refused_after_compaction : ∃ disk, DiskRun ByteVec (fun _ _ => True) disk ∧
      (∃ record, disk.replayJournal = .ok { records := [record], warning := none } ∧
        record.index = 1) ∧
      (disk.appendJournalRecord 2 []).1 = .error .corruptRecord := by
  obtain ⟨disk, hdisk, hend⟩ := exists_run (run ByteVec) (fun _ _ => True)
    empty [.append 2 (frameRecord TAG_ENQUEUE 1 (some [])), .install 1 .clean]
    (fun disk => decide (disk.replayJournal = .ok
        { records := [{ index := 1, bytes := frameRecord TAG_ENQUEUE 1 (some []) }]
          warning := none }) &&
      decide ((disk.appendJournalRecord 2 []).1 = .error .corruptRecord))
    (by decide +kernel)
  obtain ⟨hreplay, hrefused⟩ := Bool.and_eq_true_iff.1 hend
  exact ⟨disk, hdisk, ⟨_, of_decide_eq_true hreplay, rfl⟩, of_decide_eq_true hrefused⟩

end Tina.Persistence
