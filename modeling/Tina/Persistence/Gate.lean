import Tina.Persistence.Disk

/-!
The check before an append. The sidecar's length tells whether it is about the file as it is, and
files of one length need not have the same last record: compaction gives records new indices, and a
torn record may end where an older file ended. As long as no operation makes such a file, the
check is that of the replayed records.
-/

namespace Tina.Persistence

open List Disk Option

/-- No cut-off append and no installed image has the length of which the sidecar speaks, except
an image whose last record is the one the sidecar names. -/
def DiskOperation.KeepsSidecar (W : Type) [DurablePayload W] (disk : Disk) : DiskOperation → Prop
  | .crashedAppend index bytes (some cut) => ∀ sidecar ∈ disk.index,
      let written := min cut (encodeJournalRecord { index := index, bytes := bytes }).length
      0 < written → sidecar.2 ≠ (repairedFile disk.bytes).length + written
  | .install capacity commit =>
      match recoverCompacted (W := W) capacity disk.replayJournal commit with
      | .ok (_, report, image) => ∀ sidecar ∈ disk.index, sidecar.2 = image.length →
          (compactedFrom 1 report.pending).getLast?.map (·.index) = some sidecar.1
      | .error _ => True
  | _ => True

open DiskOperation

instance (W : Type) [DurablePayload W] (disk : Disk) (operation : DiskOperation) :
    Decidable (operation.KeepsSidecar W disk) := by
  unfold DiskOperation.KeepsSidecar
  split
  · infer_instance
  · split <;> infer_instance
  · infer_instance

section

variable {records : List JournalRecord} {disk : Disk} {index : Nat} {bytes : List UInt8}
  {result : Disk} {W : Type}

theorem Disk.replayJournal_eq (disk : Disk) :
    disk.replayJournal = replayJournalBytes disk.bytes := by
  unfold replayJournal bytes
  split <;> rename_i hjournal <;> rw [hjournal] <;> rfl

@[simp] theorem Disk.bytes_write (disk : Disk) (written : List UInt8) :
    (disk.write written).bytes = disk.bytes ++ written := rfl

@[simp] theorem Disk.bytes_storeJournalLastIndex (disk : Disk) (lastIndex fileLen : Nat) :
    (disk.storeJournalLastIndex lastIndex fileLen).bytes = disk.bytes := rfl

theorem Disk.index_storeJournalLastIndex {lastIndex fileLen : Nat} (disk : Disk)
    (hindex : lastIndex < 2 ^ 64) (hlen : fileLen < 2 ^ 64) :
    (disk.storeJournalLastIndex lastIndex fileLen).index = some (lastIndex, fileLen) := by
  rw [index, storeJournalLastIndex, bind_some, parseJournalIndex_encodeJournalIndex hindex hlen]

/-- The journal holds these records, and a sidecar whose length is that of the file, now or
after a repair, names the last of them. -/
structure Gate (records : List JournalRecord) (disk : Disk) : Prop where
  written : Written records disk.bytes
  names : ∀ sidecar ∈ disk.index, sidecar.2 = (encodeJournal records).length →
    records.getLast?.map (·.index) = some sidecar.1
  whole : ∀ sidecar ∈ disk.index, sidecar.2 = disk.bytes.length → disk.bytes = encodeJournal records

theorem gate_empty : Gate [] empty where
  written := ⟨Pairwise.nil, by rintro _ ⟨⟩, ⟨[], rfl, .inl rfl⟩, by decide⟩
  names := by rintro _ ⟨⟩
  whole := by rintro _ ⟨⟩

/-- The repaired journal, under the same sidecar. -/
theorem Gate.repaired (hdisk : Gate records disk) (hbytes : result.bytes = encodeJournal records)
    (hsidecar : result.sidecar = disk.sidecar) :
    Gate records result where
  written := hbytes ▸ hdisk.written.repaired
  names := by
    rw [index, hsidecar]
    exact hdisk.names
  whole := fun _ _ _ => hbytes

theorem Gate.bytes_repairJournalTail (hdisk : Gate records disk) :
    (disk.repairJournalTail (encodeJournal records).length).bytes = encodeJournal records := by
  obtain ⟨_, hbytes, -⟩ := hdisk.written.bytes
  unfold repairJournalTail bytes
  cases hjournal : disk.journal with
  | none =>
    rw [bytes, hjournal] at hbytes
    exact (append_eq_nil_iff.1 hbytes.symm).1.symm
  | some journal =>
  rw [bytes, hjournal] at hbytes
  change journal.take _ = _
  change journal = _ at hbytes
  rw [hbytes, take_left' rfl]

/-- A sidecar is believed when its length is that of the journal. -/
theorem Disk.index_of_loadJournalLastIndex {last : Nat}
    (hload : disk.loadJournalLastIndex = some last) :
    (last, disk.bytes.length) ∈ disk.index := by
  obtain ⟨_, hsidecar, hload⟩ := bind_eq_some_iff.1 hload
  obtain ⟨⟨_, _⟩, hparse, hload⟩ := bind_eq_some_iff.1 hload
  obtain ⟨_, hjournal, hload⟩ := bind_eq_some_iff.1 hload
  split at hload
  · cases hload
  rename_i hlength
  cases hload
  rw [index, bytes, hsidecar, hjournal, getD_some, not_not.1 hlength]
  exact hparse

section

variable (hdisk : Gate records disk)

include hdisk

/-- The check accepts an index above the last record's, and leaves a whole journal. -/
theorem Gate.validate (index : Nat) : ∃ result, disk.validateNextJournalIndex index =
        (if records.getLast?.all (·.index < index) then .ok ()
          else .error .corruptRecord, result) ∧
      result.bytes = encodeJournal records ∧ result.sidecar = disk.sidecar := by
  unfold validateNextJournalIndex
  cases hload : disk.loadJournalLastIndex with
  | some =>
    have hindex := index_of_loadJournalLastIndex hload
    have hwhole := hdisk.whole _ hindex rfl
    have hnames := hdisk.names _ hindex (congrArg length hwhole)
    obtain ⟨record, hrecord, rfl⟩ := map_eq_some_iff.1 hnames
    refine ⟨disk, ?_, hwhole, rfl⟩
    by_cases hle : index ≤ record.index <;> simp [hrecord, hle]
  | none =>
  rw [disk.replayJournal_eq, hdisk.written.replay]
  have hall : records.getLast?.any (index ≤ ·.index) =
      !records.getLast?.all fun last => last.index < index := by
    cases records.getLast? with
    | none => rfl
    | some =>
      rw [any_some, all_some, ← decide_not]
      exact decide_eq_decide.2 not_lt.symm
  by_cases hwhole : disk.bytes = encodeJournal records
  · refine ⟨disk, ?_, hwhole, rfl⟩
    rw [if_pos hwhole]
    dsimp only
    rw [hall]
    cases records.getLast?.all (·.index < index) <;> rfl
  refine ⟨disk.repairJournalTail (encodeJournal records).length, ?_,
    hdisk.bytes_repairJournalTail, rfl⟩
  rw [if_neg hwhole]
  dsimp only
  rw [hall]
  cases records.getLast?.all (·.index < index) <;> rfl

theorem Gate.crashedCheck : Gate records (disk.crashedAppend index bytes none) := by
  obtain ⟨result, hvalidate, hbytes, hsidecar⟩ := hdisk.validate index
  unfold Disk.crashedAppend
  rw [hvalidate]
  cases records.getLast?.all (·.index < index) <;>
    exact hdisk.repaired hbytes hsidecar

/-- The file after an accepted append. -/
theorem Gate.bytes_append (bytes : List UInt8)
    (haccepted : records.getLast?.all (·.index < index) = true) :
    (disk.appendJournalRecord index bytes).2.bytes =
      encodeJournal (records ++ [{ index := index, bytes := bytes }]) := by
  obtain ⟨result, hvalidate, hbytes, -⟩ := hdisk.validate index
  rw [appendJournalRecord, hvalidate, if_pos haccepted]
  simp only [bytes_storeJournalLastIndex, bytes_write, hbytes, encodeJournal_concat]

/-- A fault before the first byte leaves a whole journal, too. -/
theorem Gate.bytes_crashedAppend_zero :
    (disk.crashedAppend index bytes (some 0)).bytes = encodeJournal records := by
  obtain ⟨result, hvalidate, hbytes, -⟩ := hdisk.validate index
  unfold Disk.crashedAppend
  rw [hvalidate]
  cases records.getLast?.all (·.index < index) with
  | false => exact hbytes
  | true => exact (append_nil _).trans hbytes

section

variable (hfits : JournalRecord.Fits { index := index, bytes := bytes })

include hfits

/-- The record is in the file, and a sidecar of the new length is its own. -/
theorem Gate.concat (haccepted : records.getLast?.all (·.index < index) = true)
    (hbytes : result.bytes = encodeJournal (records ++ [{ index := index, bytes := bytes }]))
    (hlength : result.bytes.length < 2 ^ 63)
    (hnames : ∀ sidecar ∈ result.index, sidecar.2 = result.bytes.length → sidecar.1 = index) :
    Gate (records ++ [{ index := index, bytes := bytes }]) result := by
  rw [hbytes] at hlength hnames
  refine ⟨?_, fun sidecar hmem heq => ?_, fun _ _ _ => hbytes⟩
  · rw [hbytes]
    exact hdisk.written.append (hdisk.written.last_lt_iff.1 haccepted) hfits hlength
  · rw [getLast?_concat, hnames sidecar hmem heq]
    rfl

/-- An accepted append adds its record, a refused one leaves the records as they were. -/
theorem Gate.append (hlength : (disk.appendJournalRecord index bytes).2.bytes.length < 2 ^ 63) :
    let accepted := records.getLast?.all (·.index < index)
    (disk.appendJournalRecord index bytes).1 =
        (if accepted then .ok () else .error .corruptRecord) ∧
      Gate (if accepted then records ++ [{ index := index, bytes := bytes }] else records)
        (disk.appendJournalRecord index bytes).2 := by
  obtain ⟨result, hvalidate, hbytes, hsidecar⟩ := hdisk.validate index
  by_cases haccepted : records.getLast?.all (·.index < index) = true
  · have hwhole := hdisk.bytes_append bytes haccepted
    refine ⟨by simp [appendJournalRecord, hvalidate, haccepted], ?_⟩
    simp only [if_pos haccepted]
    refine hdisk.concat hfits haccepted hwhole hlength ?_
    simp only [appendJournalRecord, hvalidate, if_pos haccepted, bytes_storeJournalLastIndex]
      at hlength ⊢
    rw [index_storeJournalLastIndex _ hfits.index (lt_trans hlength (by decide))]
    rintro _ ⟨⟩ -
    rfl
  · unfold appendJournalRecord
    simp only [hvalidate, if_neg haccepted]
    exact ⟨trivial, hdisk.repaired hbytes hsidecar⟩

/-- A cut-off append leaves the records, with the beginning of its own or with all of it. -/
theorem Gate.crashedAppend [DurablePayload W] {cut : Nat}
    (hlength : (disk.crashedAppend index bytes (some cut)).bytes.length < 2 ^ 63)
    (hkeeps : (crashedAppend index bytes (some cut)).KeepsSidecar W disk) :
    Gate (if records.getLast?.all (·.index < index) &&
        decide ((encodeJournalRecord { index := index, bytes := bytes }).length ≤ cut)
      then records ++ [{ index := index, bytes := bytes }] else records)
      (disk.crashedAppend index bytes (some cut)) := by
  obtain ⟨result, hvalidate, hbytes, hsidecar⟩ := hdisk.validate index
  have hresult := hdisk.repaired hbytes hsidecar
  unfold Disk.crashedAppend at hlength ⊢
  rw [hvalidate] at hlength ⊢
  by_cases haccepted : records.getLast?.all (·.index < index) = true
  · simp only [haccepted, if_true, Bool.true_and, decide_eq_true_eq] at hlength ⊢
    set encoded := encodeJournalRecord { index := index, bytes := bytes } with hencoded
    have hwritten : (result.write (encoded.take cut)).bytes =
        encodeJournal records ++ encoded.take cut := by rw [bytes_write, hbytes]
    have hkept : ∀ sidecar ∈ (result.write (encoded.take cut)).index, 0 < min cut encoded.length →
          sidecar.2 ≠ (result.write (encoded.take cut)).bytes.length := by
      intro sidecar hmem
      rw [hwritten, length_append, length_take, ← hdisk.written.repairedFile_eq]
      refine hkeeps sidecar ?_
      rwa [Disk.index, write, hsidecar] at hmem
    rcases Nat.lt_or_ge cut encoded.length with hcut | hcut
    · -- the beginning of the record
      rw [if_neg (Nat.not_le.2 hcut)]
      rcases Nat.eq_zero_or_pos cut with rfl | hpos
      · exact hdisk.repaired (hwritten.trans (append_nil _)) hsidecar
      rw [min_eq_left hcut.le] at hkept
      refine ⟨?_, hresult.names, fun sidecar hmem heq => absurd heq (hkept sidecar hmem hpos)⟩
      rw [hwritten] at hlength ⊢
      exact hdisk.written.tear hfits hcut hlength
    -- the whole record, under the old sidecar
    rw [if_pos hcut]
    have hpos : 0 < min cut encoded.length := by
      rw [min_eq_right hcut]
      exact length_pos_iff.2 (encodeJournalRecord_ne_nil _)
    refine hdisk.concat hfits haccepted ?_ hlength fun sidecar hmem heq =>
      absurd heq (hkept sidecar hmem hpos)
    rw [hwritten, take_of_length_le hcut, encodeJournal_concat]
  · simp only [haccepted, Bool.false_and, Bool.false_eq_true, if_false]
    exact hresult

end

theorem Gate.repair : Gate records disk.repair := by
  unfold Disk.repair
  rw [disk.replayJournal_eq, hdisk.written.replay]
  by_cases hwhole : disk.bytes = encodeJournal records
  · rw [if_pos hwhole]
    exact hdisk
  · rw [if_neg hwhole]
    exact hdisk.repaired hdisk.bytes_repairJournalTail rfl

end

end

end Tina.Persistence
