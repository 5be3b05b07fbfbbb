import Tina.Persistence.Disk

/-!
A service with an outbox and its journal on disk. It enqueues work, appends journal entries, hands
the result of each append to the outbox, completes work, and after a crash recovers the outbox
from the disk. An append that returns an error may still have left its record, or a part of it, and
the sidecar of the journal may be left behind when the journal grows or is compacted.
-/

namespace Tina.Persistence

open Lib

/-- A token the service holds, with what became of its journal entry. -/
structure Held (α : Type) where
  token : α
  /-- The record is in the file. -/
  durable : Bool
  /-- What the last append of the entry returned. -/
  result : Option (Except CallError Unit)

/-- An outbox over its disk, with the tokens it has handed out and what they have led to. -/
structure Session (W : Type) where
  outbox : DurableOutbox
  works : List (Held (DurableWork W))
  completions : List (Held DurableCompletion)
  disk : Disk
  /-- The entries whose records were written in whole, since the last compaction. -/
  journal : List (JournalEntry W)
  /-- Every id whose enqueue record was ever in the file. -/
  durableIds : List Nat

/-- Where an I/O fault stops an append. -/
inductive Fault where
  /-- Before anything is changed. -/
  | check
  /-- After the check, with `cut` bytes of the record in the file, or with all of them. -/
  | write (cut : Nat)
  /-- After the sidecar was replaced, when its directory is synced. -/
  | sync

/-- How the file system takes an append. The check may refuse the index whatever it does. -/
inductive AppendOutcome where
  | ok
  | failed (error : CallError) (fault : Fault)

namespace AppendOutcome

def disk (disk : Disk) (index : Nat) (bytes : List UInt8) : AppendOutcome → Disk
  | ok | failed _ .sync => (disk.appendJournalRecord index bytes).2
  | failed _ .check => disk
  | failed _ (.write cut) => disk.crashedAppend index bytes (some cut)

/-- What the append returns when the check says `checked`. -/
def result (checked : Except CallError Unit) : AppendOutcome → Except CallError Unit
  | ok => checked
  | failed error .check => .error error
  | failed error _ => checked.bind fun _ => .error error

/-- Whether a record of this length is in the file afterwards, if the check has accepted it. -/
def leaves (length : Nat) : AppendOutcome → Bool
  | ok | failed _ .sync => true
  | failed _ .check => false
  | failed _ (.write cut) => length ≤ cut

end AppendOutcome

/-- The entry that was being appended at a crash, and how many of its bytes are in the file. -/
inductive InFlight where
  | nothing
  | work (position cut : Nat)
  | completion (position cut : Nat)

inductive SessionOperation (W : Type) where
  | enqueue (work : W)
  | appendWork (position : Nat) (outcome : AppendOutcome)
  | record (position : Nat)
  | abandon (position : Nat)
  | beginComplete (id : Nat)
  | appendCompletion (position : Nat) (outcome : AppendOutcome)
  | finishComplete (position : Nat)
  /-- A crash, and recovery with or without compaction. -/
  | restart (inFlight : InFlight) (capacity : Nat) (commit : CommitConfidence) (compact : Bool)

/-- The entries of a compacted journal. -/
def compactedEntries {W : Type} : Nat → List (RecordedWork W) → List (JournalEntry W)
  | _, [] => []
  | index, recorded :: rest =>
    { index, what := .enqueue recorded.id recorded.work } ::
      compactedEntries (index + 1) rest

namespace Session

variable {W : Type}

def new (capacity : Nat) : Session W where
  outbox := .new capacity
  works := []
  completions := []
  disk := .empty
  journal := []
  durableIds := []

/-- The bytes of the journal. -/
def file (s : Session W) : List UInt8 :=
  s.disk.bytes

/-- An append of one held entry; `bytes` is the token's payload. The file keeps within the size of a
file. -/
def append {α : Type} (s : Session W) (held : Held α) (bytes : List UInt8)
    (entry : JournalEntry W) (outcome : AppendOutcome) : Option (Session W × Held α) :=
  let disk := outcome.disk s.disk entry.index bytes
  let checked := (s.disk.validateNextJournalIndex entry.index).1
  let left := checked.isOk &&
    outcome.leaves (encodeJournalRecord { index := entry.index, bytes }).length
  if disk.bytes.length < 2 ^ 63 then
    some ({ s with
        disk
        journal := if left then s.journal ++ [entry] else s.journal
        durableIds := if left then s.durableIds ++ (enqueuedWork [entry.what]).map (·.id)
          else s.durableIds },
      { held with durable := held.durable || left, result := some (outcome.result checked) })
  else none

def workEntry (work : DurableWork W) : JournalEntry W where
  index := work.index
  what := .enqueue work.id work.work

def completionEntry (completion : DurableCompletion) : JournalEntry W where
  index := completion.index
  what := .complete completion.id

/-- The append that a crash cuts off: some bytes of its record are in the file, but not all. -/
def torn (s : Session W) : InFlight → Option DiskOperation
  | .nothing => none
  | .work position cut => s.works[position]?.map fun held =>
      cutOff held.token.index held.token.payload cut
  | .completion position cut => s.completions[position]?.map fun held =>
      cutOff held.token.index held.token.payload cut
where
  cutOff (index : Nat) (bytes : List UInt8) (cut : Nat) : DiskOperation :=
    .crashedAppend index bytes
      (some (min cut ((encodeJournalRecord { index := index, bytes := bytes }).length - 1)))

variable [DurablePayload W]

/-- The disk as a crash leaves it. -/
def crashedDisk (s : Session W) (inFlight : InFlight) : Option Disk :=
  match s.torn inFlight with
  | none => some s.disk
  | some operation => operation.run W s.disk

/-- Recovery from the disk; the image of a compaction is installed before the outbox is used. -/
def restart (s : Session W) (disk : Disk) (capacity : Nat) (commit : CommitConfidence) :
    Bool → Option (Session W)
  | false =>
    match recover (W := W) capacity disk.replayJournal commit with
    | .ok (outbox, _) =>
      some { s with outbox, works := [], completions := [], disk }
    | .error _ => none
  | true =>
    match recoverCompacted (W := W) capacity disk.replayJournal commit with
    | .ok (outbox, report, image) =>
      some { s with
        outbox, works := [], completions := [], disk := disk.commitFileAtomic image
        journal := compactedEntries 1 report.pending }
    | .error _ => none

end Session

/-- One operation of the service; `none` when it cannot happen. -/
def SessionOperation.run {W : Type} [DurablePayload W] (s : Session W) :
    SessionOperation W → Option (Session W)
  | enqueue work =>
    match s.outbox.enqueue work with
    | .ok (staged, outbox) => some { s with
      outbox
      works := s.works ++ [{ token := staged, durable := false, result := none }] }
    | .error (.full _) => some s
    | .error .overflow => none
  | appendWork position outcome => do
    let held ← s.works[position]?
    let (s, held) ← s.append held held.token.payload (Session.workEntry held.token) outcome
    return { s with works := s.works.set position held }
  | record position => do
    let held ← s.works[position]?
    let append ← held.result
    return { s with
      outbox := (s.outbox.record held.token append).2, works := s.works.eraseIdx position }
  | abandon position => do
    let held ← s.works[position]?
    return { s with outbox := (s.outbox.abandon held.token).2, works := s.works.eraseIdx position }
  | beginComplete id =>
    match s.outbox.beginComplete id with
    | (.record completion, outbox) => some { s with
      outbox
      completions := s.completions ++
        [{ token := completion, durable := false, result := none }] }
    | (.overflow, _) => none
    | (_, outbox) => some { s with outbox }
  | appendCompletion position outcome => do
    let held ← s.completions[position]?
    let (s, held) ←
      s.append held held.token.payload (Session.completionEntry held.token) outcome
    return { s with completions := s.completions.set position held }
  | finishComplete position => do
    let held ← s.completions[position]?
    let append ← held.result
    return { s with
      outbox := (s.outbox.finishComplete held.token append).2
      completions := s.completions.eraseIdx position }
  | restart inFlight capacity commit compact => do
    let disk ← s.crashedDisk inFlight
    s.restart disk capacity commit compact

/-- The sessions that start with an empty journal and whose operations all satisfy `p`. -/
abbrev SessionRun {W : Type} [DurablePayload W] (p : Session W → SessionOperation W → Prop)
    (capacity : Nat) : Session W → Prop :=
  Run SessionOperation.run p (Session.new capacity)

end Tina.Persistence
