import Tina.Lib.Runs
import Tina.Persistence.Recovery

/-!
The journal on disk: the journal file and beside it a sidecar, which caches the index of the
last record together with the length the file had. An append believes the sidecar when the
length is still that of the file, and replays the file otherwise. Files are replaced atomically,
and an append may be cut off anywhere.
-/

namespace Tina.Persistence

open Lib

/-- `TNJIDX01`. -/
def JOURNAL_INDEX_MAGIC : List UInt8 := [84, 78, 74, 73, 68, 88, 48, 49]

def JOURNAL_INDEX_BYTES : Nat := 8 + U64_BYTES + U64_BYTES

def parseJournalIndex (bytes : List UInt8) : Option (Nat × Nat) :=
  if bytes.length ≠ JOURNAL_INDEX_BYTES ∨ bytes.take 8 ≠ JOURNAL_INDEX_MAGIC then none
  else do
    let lastIndex ← readU64 bytes 8
    let expectedLen ← readU64 bytes 16
    return (lastIndex, expectedLen)

def encodeJournalIndex (lastIndex fileLen : Nat) : List UInt8 :=
  JOURNAL_INDEX_MAGIC ++ leBytes U64_BYTES lastIndex ++ leBytes U64_BYTES fileLen

theorem parseJournalIndex_encodeJournalIndex {lastIndex fileLen : Nat}
    (hindex : lastIndex < 2 ^ 64) (hlen : fileLen < 2 ^ 64) :
    parseJournalIndex (encodeJournalIndex lastIndex fileLen) = some (lastIndex, fileLen) := by
  have hreadIndex : leNat (leBytes 8 lastIndex) = lastIndex := leNat_leBytes (by simpa using hindex)
  have hreadLen : leNat (leBytes 8 fileLen) = fileLen := leNat_leBytes (by simpa using hlen)
  have htake : (leBytes 8 fileLen).take 8 = leBytes 8 fileLen := List.take_of_length_le (by simp)
  simp [parseJournalIndex, encodeJournalIndex, JOURNAL_INDEX_BYTES, JOURNAL_INDEX_MAGIC, readU64,
    U64_BYTES, hreadIndex, hreadLen, htake]

/-- The two files, where they exist. -/
structure Disk where
  journal : Option (List UInt8)
  sidecar : Option (List UInt8)

namespace Disk

def empty : Disk where
  journal := none
  sidecar := none

/-- The bytes of the journal; a missing journal is an empty one. -/
def bytes (disk : Disk) : List UInt8 :=
  disk.journal.getD []

/-- What the sidecar says: the last index, and the length of the file it is about. -/
def index (disk : Disk) : Option (Nat × Nat) :=
  disk.sidecar.bind parseJournalIndex

def replayJournal (disk : Disk) : Except CallError JournalReplay :=
  match disk.journal with
  | none => .ok { records := [], warning := none }
  | some bytes => replayJournalBytes bytes

def loadJournalLastIndex (disk : Disk) : Option Nat := do
  let sidecar ← disk.sidecar
  let (lastIndex, expectedLen) ← parseJournalIndex sidecar
  let journal ← disk.journal
  if journal.length ≠ expectedLen then none else some lastIndex

def storeJournalLastIndex (disk : Disk) (lastIndex fileLen : Nat) : Disk :=
  { disk with sidecar := some (encodeJournalIndex lastIndex fileLen) }

def repairJournalTail (disk : Disk) (validPrefixLen : Nat) : Disk :=
  { disk with journal := disk.journal.map (·.take validPrefixLen) }

/-- The check of an index, which repairs the tail even when it then refuses the index. -/
def validateNextJournalIndex (disk : Disk) (recordIndex : Nat) : Except CallError Unit × Disk :=
  match disk.loadJournalLastIndex with
  | some last => if recordIndex ≤ last then (.error .corruptRecord, disk) else (.ok (), disk)
  | none =>
    match disk.replayJournal with
    | .error error => (.error error, disk)
    | .ok replay =>
      let disk := match replay.warning with
        | some (.truncatedTail validPrefixLen) => disk.repairJournalTail validPrefixLen
        | none => disk
      if replay.records.getLast?.any (recordIndex ≤ ·.index) then
        (.error .corruptRecord, disk)
      else (.ok (), disk)

/-- Write bytes at the end of the journal, which is created if it is missing. -/
def write (disk : Disk) (written : List UInt8) : Disk :=
  { disk with journal := some (disk.bytes ++ written) }

def appendJournalRecord (disk : Disk) (recordIndex : Nat) (bytes : List UInt8) :
    Except CallError Unit × Disk :=
  match disk.validateNextJournalIndex recordIndex with
  | (.error error, disk) => (.error error, disk)
  | (.ok (), disk) =>
    let disk := disk.write (encodeJournalRecord { index := recordIndex, bytes })
    (.ok (), disk.storeJournalLastIndex recordIndex disk.bytes.length)

/-- The disk when an append was cut off: after the check, or with `cut` bytes written. -/
def crashedAppend (disk : Disk) (recordIndex : Nat) (bytes : List UInt8) (cut : Option Nat) :
    Disk :=
  match disk.validateNextJournalIndex recordIndex, cut with
  | (.ok (), disk), some cut =>
    disk.write ((encodeJournalRecord { index := recordIndex, bytes }).take cut)
  | (_, disk), _ => disk

/-- Truncate the journal to what replay could read. -/
def repair (disk : Disk) : Disk :=
  match disk.replayJournal with
  | .ok { warning := some (.truncatedTail validPrefixLen), .. } =>
    disk.repairJournalTail validPrefixLen
  | _ => disk

/-- Replace the journal; the sidecar stays. -/
def commitFileAtomic (disk : Disk) (image : List UInt8) : Disk :=
  { disk with journal := some image }

end Disk

inductive DiskOperation where
  | append (index : Nat) (bytes : List UInt8)
  | crashedAppend (index : Nat) (bytes : List UInt8) (cut : Option Nat)
  | repair
  /-- Recover with compaction and install the image. -/
  | install (capacity : Nat) (commit : CommitConfidence)

/-- One operation on the disk; `none` when a number or a file is out of range, or when there is
no image to install. -/
def DiskOperation.run (W : Type) [DurablePayload W] (disk : Disk) : DiskOperation → Option Disk
  | append index bytes =>
    let result := (disk.appendJournalRecord index bytes).2
    if index < 2 ^ 64 ∧ JOURNAL_HEADER_BYTES + bytes.length < 2 ^ 63 ∧
      result.bytes.length < 2 ^ 63 then some result else none
  | crashedAppend index bytes cut =>
    let result := disk.crashedAppend index bytes cut
    if index < 2 ^ 64 ∧ JOURNAL_HEADER_BYTES + bytes.length < 2 ^ 63 ∧
      result.bytes.length < 2 ^ 63 then some result else none
  | repair => some disk.repair
  | install capacity commit =>
    match recoverCompacted (W := W) capacity disk.replayJournal commit with
    | .ok (_, _, image) => if image.length < 2 ^ 63 then some (disk.commitFileAtomic image)
      else none
    | .error _ => none

/-- The disks that operations which all satisfy `p` make of an empty one. -/
abbrev DiskRun (W : Type) [DurablePayload W] (p : Disk → DiskOperation → Prop) : Disk → Prop :=
  Run (DiskOperation.run W) p Disk.empty

end Tina.Persistence
