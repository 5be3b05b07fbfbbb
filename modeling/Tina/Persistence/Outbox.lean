import Mathlib.Data.Finset.Max
import Tina.Persistence.Journal

/-!
The durable outbox: a bounded set of work, each item written to the journal before it is done
and again when it is complete, and its reconstruction from a replayed journal. Counters are
`u64`; an increment that would leave that range panics.
-/

namespace Tina.Persistence

open Lib

def TAG_ENQUEUE : UInt8 := 0

def TAG_COMPLETE : UInt8 := 1

def FRAME_HEADER : Nat := 1 + 8

/-- User work with its bytes. Decoding inverts encoding, and a framed record is still a `Vec`. -/
class DurablePayload (W : Type) where
  toDurableBytes : W → List UInt8
  fromDurableBytes : List UInt8 → Option W
  decodes : ∀ work, fromDurableBytes (toDurableBytes work) = some work
  fits : ∀ work, JOURNAL_HEADER_BYTES + (FRAME_HEADER + (toDurableBytes work).length) < 2 ^ 63

open DurablePayload

/-- A `Vec<u8>` that can be framed and encoded. -/
abbrev ByteVec := { bytes : List UInt8 //
  JOURNAL_HEADER_BYTES + (FRAME_HEADER + bytes.length) < 2 ^ 63 }

/-- Bytes are their own encoding. -/
instance : DurablePayload ByteVec where
  toDurableBytes work := work.1
  fromDurableBytes bytes :=
    if h : JOURNAL_HEADER_BYTES + (FRAME_HEADER + bytes.length) < 2 ^ 63 then some ⟨bytes, h⟩
    else none
  decodes work := dif_pos work.2
  fits work := work.2

def noBytes : ByteVec := ⟨[], by decide⟩

def frameRecord (tag : UInt8) (id : Nat) (payload : Option (List UInt8)) : List UInt8 :=
  tag :: (leBytes 8 id ++ payload.getD [])

def unframeRecord : List UInt8 → Option (UInt8 × Nat × List UInt8)
  | [] => none
  | tag :: rest =>
    if rest.length < 8 then none else some (tag, leNat (rest.take 8), rest.drop 8)

structure DurableWork (W : Type) where
  id : Nat
  index : Nat
  payload : List UInt8
  work : W

structure RecordedWork (W : Type) where
  id : Nat
  work : W
deriving DecidableEq

inductive RecordError (W : Type) where
  | append (error : CallError) (work : W)
  | stale (work : W)

inductive ApplyStatus (W : Type) where
  | apply (work : W)
  | duplicateWork (id : Nat)

structure DurableCompletion where
  id : Nat
  index : Nat
  payload : List UInt8

inductive CompletionStart where
  | record (completion : DurableCompletion)
  | alreadyCompleted (id : Nat)
  | notPending (id : Nat)
  | overflow

inductive EnqueueError (W : Type) where
  | full (work : W)
  | overflow

structure DurableOutbox where
  capacity : Nat
  nextWorkId : Nat
  nextIndex : Nat
  staged : Finset Nat
  pending : Finset Nat
  completed : Finset Nat
  completedWatermark : Nat
  completedTotal : Nat
  failedTotal : Nat

/-- `+ 1` on a `u64`. -/
def checkedSucc (n : Nat) : Option Nat :=
  if n + 1 < 2 ^ 64 then some (n + 1) else none

namespace DurableOutbox

def new (capacity : Nat) : DurableOutbox where
  capacity := max capacity 1
  nextWorkId := 1
  nextIndex := 1
  staged := ∅
  pending := ∅
  completed := ∅
  completedWatermark := 0
  completedTotal := 0
  failedTotal := 0

def outstandingLen (outbox : DurableOutbox) : Nat :=
  outbox.staged.card + outbox.pending.card

def isFull (outbox : DurableOutbox) : Bool :=
  outbox.capacity ≤ outbox.outstandingLen

/-- Move the watermark up to the lowest outstanding id. -/
def advanceWatermark (outbox : DurableOutbox) : DurableOutbox :=
  let lowestOutstanding := (outbox.staged ∪ outbox.pending).min.untopD outbox.nextWorkId
  let newWatermark := lowestOutstanding - 1
  if outbox.completedWatermark < newWatermark then
    { outbox with
      completedWatermark := newWatermark
      completed := outbox.completed.filter (newWatermark < ·) }
  else outbox

def isCompleted (outbox : DurableOutbox) (id : Nat) : Bool :=
  id ≤ outbox.completedWatermark || id ∈ outbox.completed

def markCompleted (outbox : DurableOutbox) (id : Nat) : DurableOutbox :=
  advanceWatermark (if outbox.completedWatermark < id then
      { outbox with completed := insert id outbox.completed }
    else outbox)

section

variable {W : Type}

def enqueue [DurablePayload W] (outbox : DurableOutbox) (work : W) :
    Except (EnqueueError W) (DurableWork W × DurableOutbox) :=
  if outbox.isFull then .error (.full work)
  else
    match checkedSucc outbox.nextWorkId, checkedSucc outbox.nextIndex with
    | some nextWorkId, some nextIndex =>
      let id := outbox.nextWorkId
      .ok ({ id, index := outbox.nextIndex
             payload := frameRecord TAG_ENQUEUE id (some (toDurableBytes work)), work },
        { outbox with nextWorkId, nextIndex, staged := insert id outbox.staged })
    | _, _ => .error .overflow

/-- Confirm the append of staged work; a token of another outbox is stale. -/
def record (outbox : DurableOutbox) (staged : DurableWork W) (append : Except CallError Unit) :
    Except (RecordError W) (RecordedWork W) × DurableOutbox :=
  let wasStaged := decide (staged.id ∈ outbox.staged)
  let outbox := { outbox with staged := outbox.staged.erase staged.id }
  match append with
  | .ok () =>
    if wasStaged then
      (.ok { id := staged.id, work := staged.work },
        { outbox with pending := insert staged.id outbox.pending })
    else (.error (.stale staged.work), outbox.advanceWatermark)
  | .error error =>
    let outbox := if wasStaged then { outbox with failedTotal := outbox.failedTotal + 1 }
      else outbox
    (.error (.append error staged.work), outbox.advanceWatermark)

def abandon (outbox : DurableOutbox) (staged : DurableWork W) : W × DurableOutbox :=
  (staged.work, advanceWatermark { outbox with staged := outbox.staged.erase staged.id })

def apply (outbox : DurableOutbox) (recorded : RecordedWork W) : ApplyStatus W :=
  if outbox.isCompleted recorded.id then .duplicateWork recorded.id else .apply recorded.work

end

def beginComplete (outbox : DurableOutbox) (id : Nat) : CompletionStart × DurableOutbox :=
  if outbox.isCompleted id then (.alreadyCompleted id, outbox)
  else if id ∉ outbox.pending then (.notPending id, outbox)
  else
    match checkedSucc outbox.nextIndex with
    | some nextIndex =>
      (.record { id, index := outbox.nextIndex, payload := frameRecord TAG_COMPLETE id none },
        { outbox with nextIndex })
    | none => (.overflow, outbox)

/-- Confirm the append of a completion. The error, with the id, or the id of committed work. -/
def finishComplete (outbox : DurableOutbox) (completion : DurableCompletion)
    (append : Except CallError Unit) : Except (CallError × Nat) Nat × DurableOutbox :=
  match append with
  | .ok () =>
    (.ok completion.id, if completion.id ∈ outbox.pending then
        let outbox := markCompleted { outbox with
          pending := outbox.pending.erase completion.id } completion.id
        { outbox with completedTotal := outbox.completedTotal + 1 }
      else outbox)
  | .error error =>
    (.error (error, completion.id), { outbox with failedTotal := outbox.failedTotal + 1 })

end DurableOutbox

end Tina.Persistence
