import Mathlib.Tactic.Common

/-!
The runtime-owned bounded mailbox and the adapter the registry keeps it behind. A
reserved slot counts against the capacity that ordinary sends see, and only
`trySendReserved` spends it.
-/

namespace Tina

/-- A refused send gives the message back. -/
inductive TrySendError (M : Type) where
  | full (message : M)
  | closed (message : M)

inductive MailboxReservationError where
  | full
  | closed
  | unsupported

structure DefaultMailbox (M : Type) where
  capacity : Nat
  queue : List M
  reserved : Nat
  closed : Bool

open DefaultMailbox

namespace DefaultMailbox

variable {M : Type}

def new (capacity : Nat) : DefaultMailbox M where
  capacity
  queue := []
  reserved := 0
  closed := false

def trySend (mailbox : DefaultMailbox M) (message : M) :
    Except (TrySendError M) (DefaultMailbox M) :=
  if mailbox.closed then .error (.closed message)
  else if mailbox.queue.length + mailbox.reserved ≥ mailbox.capacity then .error (.full message)
  else .ok { mailbox with queue := mailbox.queue ++ [message] }

def recv (mailbox : DefaultMailbox M) : Option (M × DefaultMailbox M) :=
  match mailbox.queue with
  | [] => none
  | message :: rest => some (message, { mailbox with queue := rest })

def isEmpty (mailbox : DefaultMailbox M) : Bool :=
  mailbox.queue.isEmpty

def close (mailbox : DefaultMailbox M) : DefaultMailbox M :=
  { mailbox with closed := true }

def tryReserve (mailbox : DefaultMailbox M) :
    Except MailboxReservationError (DefaultMailbox M) :=
  if mailbox.closed then .error .closed
  else if mailbox.queue.length + mailbox.reserved ≥ mailbox.capacity then .error .full
  else .ok { mailbox with reserved := mailbox.reserved + 1 }

def releaseReserved (mailbox : DefaultMailbox M) : Bool × DefaultMailbox M :=
  if mailbox.reserved = 0 then (false, mailbox)
  else (true, { mailbox with reserved := mailbox.reserved - 1 })

/-- The reservation is spent before the mailbox is looked at, also when the send
then fails. -/
def trySendReserved (mailbox : DefaultMailbox M) (message : M) :
    Except (TrySendError M) Unit × DefaultMailbox M :=
  match mailbox.releaseReserved with
  | (false, mailbox) => (.error (.full message), mailbox)
  | (true, mailbox) =>
    if mailbox.closed then (.error (.closed message), mailbox)
    else if mailbox.queue.length ≥ mailbox.capacity then (.error (.full message), mailbox)
    else (.ok (), { mailbox with queue := mailbox.queue ++ [message] })

end DefaultMailbox

/-- The registry's view of a mailbox, with the closed flag it caches. -/
structure AnyMailboxAdapter (M : Type) where
  mailbox : DefaultMailbox M
  closed : Bool

namespace AnyMailboxAdapter

def new (mailbox : DefaultMailbox M) : AnyMailboxAdapter M where
  mailbox
  closed := false

def recvBoxed (adapter : AnyMailboxAdapter M) : Option (M × AnyMailboxAdapter M) :=
  match adapter.mailbox.recv with
  | none => none
  | some (message, mailbox) => some (message, { adapter with mailbox })

def isEmpty (adapter : AnyMailboxAdapter M) : Bool :=
  adapter.mailbox.isEmpty

def trySendBoxed (adapter : AnyMailboxAdapter M) (message : M) :
    Except (TrySendError M) Unit × AnyMailboxAdapter M :=
  if adapter.closed then (.error (.closed message), adapter)
  else
    match adapter.mailbox.trySend message with
    | .ok mailbox => (.ok (), { adapter with mailbox })
    | .error (.full message) => (.error (.full message), adapter)
    | .error (.closed message) => (.error (.closed message), { adapter with closed := true })

def close (adapter : AnyMailboxAdapter M) : AnyMailboxAdapter M where
  mailbox := adapter.mailbox.close
  closed := true

def tryReserveSlot (adapter : AnyMailboxAdapter M) :
    Except MailboxReservationError Unit × AnyMailboxAdapter M :=
  if adapter.closed || adapter.mailbox.closed then
    (.error .closed, { adapter with closed := true })
  else
    match adapter.mailbox.tryReserve with
    | .ok mailbox => (.ok (), { adapter with mailbox })
    | .error .full => (.error .full, adapter)
    | .error .closed => (.error .closed, { adapter with closed := true })
    | .error .unsupported => (.error .unsupported, adapter)

def releaseReservedSlot (adapter : AnyMailboxAdapter M) : AnyMailboxAdapter M :=
  { adapter with mailbox := adapter.mailbox.releaseReserved.2 }

def trySendReservedBoxed (adapter : AnyMailboxAdapter M) (message : M) :
    Except (TrySendError M) Unit × AnyMailboxAdapter M :=
  match adapter.mailbox.trySendReserved message with
  | (.ok (), mailbox) => (.ok (), { adapter with mailbox })
  | (.error (.full message), mailbox) =>
    (.error (.full message), { adapter with mailbox })
  | (.error (.closed message), mailbox) =>
    (.error (.closed message), { mailbox, closed := true })

/-- Neither the cached flag nor the mailbox itself says that it is closed. -/
def IsOpen (adapter : AnyMailboxAdapter M) : Prop :=
  adapter.closed = false ∧ adapter.mailbox.closed = false

/-- A slot is free that no reservation holds. -/
def HasRoom (adapter : AnyMailboxAdapter M) : Prop :=
  adapter.mailbox.queue.length + adapter.mailbox.reserved < adapter.mailbox.capacity

def push (adapter : AnyMailboxAdapter M) (message : M) : AnyMailboxAdapter M :=
  { adapter with mailbox :=
    { adapter.mailbox with queue := adapter.mailbox.queue ++ [message] } }

def withQueue (adapter : AnyMailboxAdapter M) (queue : List M) : AnyMailboxAdapter M :=
  { adapter with mailbox := { adapter.mailbox with queue } }

def withReserved (adapter : AnyMailboxAdapter M) (reserved : Nat) : AnyMailboxAdapter M :=
  { adapter with mailbox := { adapter.mailbox with reserved } }

/-- An adapter that differs at most in what it caches about a closed mailbox. -/
def SameMailbox (adapter adapter' : AnyMailboxAdapter M) : Prop :=
  adapter'.mailbox = adapter.mailbox ∧ (adapter.IsOpen → adapter'.closed = false)

variable (adapter : AnyMailboxAdapter M)

theorem SameMailbox.refl : adapter.SameMailbox adapter :=
  ⟨rfl, (·.1)⟩

theorem SameMailbox.cacheClosed (hclosed : adapter.closed = true ∨ adapter.mailbox.closed = true) :
    adapter.SameMailbox { adapter with closed := true } := by
  refine ⟨rfl, fun hopen => ?_⟩
  rcases hclosed with hclosed | hclosed
  · simp [hopen.1] at hclosed
  · simp [hopen.2] at hclosed

/-- A mailbox is closed, or it is open and has room, or it is open and full. -/
theorem closed_or_room : (adapter.closed = true ∨ adapter.mailbox.closed = true) ∨
      adapter.IsOpen ∧ (adapter.HasRoom ∨ adapter.mailbox.capacity ≤
        adapter.mailbox.queue.length + adapter.mailbox.reserved) := by
  by_cases hclosed : adapter.closed = true ∨ adapter.mailbox.closed = true
  · exact .inl hclosed
  · obtain ⟨hflag, hinner⟩ := not_or.1 hclosed
    exact .inr ⟨⟨Bool.not_eq_true _ ▸ hflag, Bool.not_eq_true _ ▸ hinner⟩, Nat.lt_or_ge _ _⟩

/-- An ordinary send either appends to an open mailbox with room or changes nothing
that matters. -/
theorem trySendBoxed_cases (message : M) : (adapter.IsOpen ∧ adapter.HasRoom ∧
      adapter.trySendBoxed message = (.ok (), adapter.push message)) ∨
    (∃ error adapter', adapter.trySendBoxed message = (.error error, adapter') ∧
      adapter.SameMailbox adapter') := by
  unfold trySendBoxed trySend
  rcases adapter.closed_or_room with hclosed | ⟨hopen, hroom | hfull⟩
  · right
    by_cases hflag : adapter.closed = true
    · exact ⟨.closed message, adapter, by simp [hflag], .refl adapter⟩
    · exact ⟨.closed message, { adapter with closed := true },
        by simp [hflag, hclosed.resolve_left hflag], .cacheClosed adapter hclosed⟩
  · left
    exact ⟨hopen, hroom, by simp [hopen.1, hopen.2, Nat.not_le.2 hroom, push]⟩
  · right
    exact ⟨.full message, adapter, by simp [hopen.1, hopen.2, hfull], .refl adapter⟩

theorem tryReserveSlot_cases : (adapter.IsOpen ∧ adapter.HasRoom ∧ adapter.tryReserveSlot =
      (.ok (), adapter.withReserved (adapter.mailbox.reserved + 1))) ∨
    (∃ error adapter', adapter.tryReserveSlot = (.error error, adapter') ∧
      adapter.SameMailbox adapter') := by
  unfold tryReserveSlot tryReserve
  rcases adapter.closed_or_room with hclosed | ⟨hopen, hroom | hfull⟩
  · right
    exact ⟨.closed, { adapter with closed := true }, by simp [hclosed],
      .cacheClosed adapter hclosed⟩
  · left
    exact ⟨hopen, hroom, by simp [hopen.1, hopen.2, Nat.not_le.2 hroom, withReserved]⟩
  · right
    exact ⟨.full, adapter, by simp [hopen.1, hopen.2, hfull], .refl adapter⟩

theorem releaseReservedSlot_eq :
    adapter.releaseReservedSlot = adapter.withReserved (adapter.mailbox.reserved - 1) := by
  unfold releaseReservedSlot releaseReserved withReserved
  by_cases hzero : adapter.mailbox.reserved = 0
  · simp [hzero]
    rw [← hzero]
  · simp [hzero]

/-- A reservation that is held on an open mailbox within its capacity is as good as a
delivery. -/
theorem trySendReservedBoxed_eq (message : M)
    (hopen : adapter.IsOpen) (hheld : 0 < adapter.mailbox.reserved)
    (hbound : adapter.mailbox.queue.length + adapter.mailbox.reserved ≤ adapter.mailbox.capacity) :
    adapter.trySendReservedBoxed message =
      (.ok (), (adapter.withReserved (adapter.mailbox.reserved - 1)).push message) := by
  have hne : adapter.mailbox.reserved ≠ 0 := by omega
  have hlt : ¬ adapter.mailbox.capacity ≤ adapter.mailbox.queue.length := by omega
  simp [trySendReservedBoxed, trySendReserved,
    releaseReserved, hne, hopen.2, hlt, withReserved, push]

end AnyMailboxAdapter

end Tina
