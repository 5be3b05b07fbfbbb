import Tina.Lib.Fifo
import Tina.Runtime.Mailbox

/-!
The two mailboxes a runtime makes for its isolates, one for a single thread and one behind a mutex.
Both answer as a bounded queue with reservations does.
-/

namespace Tina

open Lib DefaultMailbox Fifo

variable {M : Type}

structure DefaultThreadedMailboxState (M : Type) where
  queue : List M
  reserved : Nat
  closed : Bool

structure DefaultThreadedMailbox (M : Type) where
  capacity : Nat
  state : DefaultThreadedMailboxState M

namespace DefaultThreadedMailbox

def new (capacity : Nat) : DefaultThreadedMailbox M where
  capacity
  state := { queue := [], reserved := 0, closed := false }

def trySend (mailbox : DefaultThreadedMailbox M) (message : M) :
    Except (TrySendError M) Unit × DefaultThreadedMailbox M :=
  let state := mailbox.state
  if state.closed then (.error (.closed message), mailbox)
  else if state.queue.length + state.reserved ≥ mailbox.capacity then
    (.error (.full message), mailbox)
  else (.ok (), { mailbox with state := { state with queue := state.queue ++ [message] } })

def recv (mailbox : DefaultThreadedMailbox M) : Option M × DefaultThreadedMailbox M :=
  match mailbox.state.queue with
  | [] => (none, mailbox)
  | message :: rest =>
    (some message, { mailbox with state := { mailbox.state with queue := rest } })

def close (mailbox : DefaultThreadedMailbox M) : DefaultThreadedMailbox M :=
  { mailbox with state := { mailbox.state with closed := true } }

def tryReserve (mailbox : DefaultThreadedMailbox M) :
    Except MailboxReservationError Unit × DefaultThreadedMailbox M :=
  let state := mailbox.state
  if state.closed then (.error .closed, mailbox)
  else if state.queue.length + state.reserved ≥ mailbox.capacity then (.error .full, mailbox)
  else (.ok (), { mailbox with state := { state with reserved := state.reserved + 1 } })

def releaseReserved (mailbox : DefaultThreadedMailbox M) : Bool × DefaultThreadedMailbox M :=
  if mailbox.state.reserved = 0 then (false, mailbox)
  else (true, { mailbox with
    state := { mailbox.state with reserved := mailbox.state.reserved - 1 } })

def trySendReserved (mailbox : DefaultThreadedMailbox M) (message : M) :
    Except (TrySendError M) Unit × DefaultThreadedMailbox M :=
  if mailbox.state.reserved = 0 then (.error (.full message), mailbox)
  else
    let state := { mailbox.state with reserved := mailbox.state.reserved - 1 }
    if state.closed then (.error (.closed message), { mailbox with state })
    else if state.queue.length ≥ mailbox.capacity then
      (.error (.full message), { mailbox with state })
    else (.ok (), { mailbox with state := { state with queue := state.queue ++ [message] } })

end DefaultThreadedMailbox

/-- A send gives the message back with its error. -/
def sendAnswer : Except (TrySendError M) Unit → Fifo.Answer M
  | .ok () => .done
  | .error (.full message) => .full (some message)
  | .error (.closed message) => .closed (some message)

/-- No mailbox here answers `Unsupported`, which would count as full. -/
def reserveAnswer : Except MailboxReservationError Unit → Fifo.Answer M
  | .ok () => .done
  | .error .closed => .closed none
  | .error .full | .error .unsupported => .full none

namespace DefaultMailbox

/-- What a call that changes nothing when it fails leaves behind. -/
def after {E : Type} (mailbox : DefaultMailbox M) :
    Except E (DefaultMailbox M) → Except E Unit × DefaultMailbox M
  | .ok mailbox' => (.ok (), mailbox')
  | .error error => (.error error, mailbox)

def step (mailbox : DefaultMailbox M) : Fifo.Op M → Fifo.Answer M × DefaultMailbox M
  | .push message => (mailbox.after (mailbox.trySend message)).map sendAnswer id
  | .pushHeld message => (mailbox.trySendReserved message).map sendAnswer id
  | .pop => (.popped (mailbox.recv.map Prod.fst), (mailbox.recv.map Prod.snd).getD mailbox)
  | .reserve => (mailbox.after mailbox.tryReserve).map reserveAnswer id
  | .release => mailbox.releaseReserved.map .released id
  | .close => (.done, mailbox.close)

def fifo (mailbox : DefaultMailbox M) : Fifo M :=
  ⟨mailbox.capacity, mailbox.queue, mailbox.reserved, mailbox.closed⟩

theorem step_fifo (mailbox : DefaultMailbox M) (hbound : mailbox.fifo.Bounded) (op : Op M) :
    (mailbox.step op).map id fifo = mailbox.fifo.step op := by
  simp only [Bounded, fifo] at hbound
  cases op with
  | push | reserve =>
    by_cases hclosed : mailbox.closed = true
    · simp [step, after, trySend, tryReserve, Fifo.step, fifo, hclosed, sendAnswer, reserveAnswer]
    by_cases hfull : mailbox.capacity ≤ mailbox.queue.length + mailbox.reserved <;>
      simp [step, after, trySend, tryReserve, Fifo.step, fifo, hclosed, hfull, sendAnswer,
        reserveAnswer]
  | pushHeld =>
    by_cases hheld : mailbox.reserved = 0
    · simp [step, trySendReserved, releaseReserved, Fifo.step, fifo, hheld, sendAnswer]
    have hroom : ¬ mailbox.capacity ≤ mailbox.queue.length := by omega
    by_cases hclosed : mailbox.closed = true <;>
      simp [step, trySendReserved, releaseReserved, Fifo.step, fifo, hheld, hclosed, hroom,
        sendAnswer]
  | pop => cases hqueue : mailbox.queue <;> simp [step, recv, Fifo.step, fifo, hqueue]
  | release =>
    by_cases hheld : mailbox.reserved = 0 <;> simp [step, releaseReserved, Fifo.step, fifo, hheld]
  | close => rfl

end DefaultMailbox

namespace DefaultThreadedMailbox

def step (mailbox : DefaultThreadedMailbox M) : Fifo.Op M → Fifo.Answer M × DefaultThreadedMailbox M
  | .push message => (mailbox.trySend message).map sendAnswer id
  | .pushHeld message => (mailbox.trySendReserved message).map sendAnswer id
  | .pop => mailbox.recv.map .popped id
  | .reserve => mailbox.tryReserve.map reserveAnswer id
  | .release => mailbox.releaseReserved.map .released id
  | .close => (.done, mailbox.close)

/-- The same mailbox without the mutex. -/
def unlocked (mailbox : DefaultThreadedMailbox M) : DefaultMailbox M :=
  ⟨mailbox.capacity, mailbox.state.queue, mailbox.state.reserved, mailbox.state.closed⟩

theorem step_unlocked (mailbox : DefaultThreadedMailbox M) (op : Op M) :
    (mailbox.step op).map id unlocked = mailbox.unlocked.step op := by
  cases op with
  | push | reserve =>
    simp only [step, trySend, tryReserve, DefaultMailbox.step, DefaultMailbox.trySend,
      DefaultMailbox.tryReserve, unlocked]
    split_ifs with hclosed hfull <;> simp [unlocked, after, *]
  | pushHeld =>
    simp only [step, trySendReserved, DefaultMailbox.step, DefaultMailbox.trySendReserved,
      DefaultMailbox.releaseReserved, unlocked]
    split_ifs with hheld hclosed hfull <;> simp [unlocked, *]
  | pop =>
    cases hqueue : mailbox.state.queue <;>
      simp [step, recv, DefaultMailbox.step, DefaultMailbox.recv, unlocked, hqueue]
  | release =>
    simp only [step, releaseReserved, DefaultMailbox.step, DefaultMailbox.releaseReserved, unlocked]
    split_ifs with hheld <;> simp [unlocked, hheld]
  | close => rfl

theorem step_fifo (mailbox : DefaultThreadedMailbox M) (hbound : mailbox.unlocked.fifo.Bounded)
    (op : Op M) :
    (mailbox.step op).map id (·.unlocked.fifo) = mailbox.unlocked.fifo.step op := by
  rw [← DefaultMailbox.step_fifo _ hbound, ← step_unlocked, Prod.map_map]
  rfl

end DefaultThreadedMailbox

/-- Under every sequence of operations, and for every capacity, the mailbox of one thread and the
one behind a lock answer as the bounded queue does, and so the same. The lock is held for one
operation at a time, so the sequence is the order in which it was taken. -/
theorem default_mailboxes_refine_fifo (capacity : Nat) (ops : List (Fifo.Op M)) :
    Fifo.RefinedBy DefaultMailbox.step DefaultMailbox.fifo capacity ops
        (answers DefaultMailbox.step (.new capacity) ops) ∧
      Fifo.RefinedBy DefaultThreadedMailbox.step (·.unlocked.fifo) capacity ops
        (answers DefaultThreadedMailbox.step (.new capacity) ops) := by
  refine ⟨refinedBy_of_steps step_fifo ?_ rfl ops,
    refinedBy_of_steps DefaultThreadedMailbox.step_fifo ?_ rfl ops⟩
  · rintro ⟨⟩ ⟨⟩ heq
    simpa [fifo] using heq
  · rintro ⟨_, ⟨⟩⟩ ⟨_, ⟨⟩⟩ heq
    simpa [fifo, DefaultThreadedMailbox.unlocked] using heq

end Tina
