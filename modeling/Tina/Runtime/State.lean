import Tina.Runtime.CallTable
import Tina.Runtime.Mailbox

/-!
The state of one shard runtime and the monad its methods run in. `Host` is what a
runtime is built over: the user's handlers and shard value, the I/O driver, the clock
and the transport that `route_remote` closes over. The state carries one field the
source does not have, `history`: a record of what happened, appended to by the
functions that do it and read by none of them.
-/

namespace Tina

structure RestartBudget where
  maxRestarts : Nat
  window : Option Duration

structure RestartBudgetState where
  budget : RestartBudget
  restartsUsed : Nat
  windowStarted : Option Instant

def RestartBudget.tracker (budget : RestartBudget) : RestartBudgetState where
  budget
  restartsUsed := 0
  windowStarted := none

def RestartBudgetState.isExhausted (state : RestartBudgetState) : Bool :=
  state.restartsUsed ≥ state.budget.maxRestarts

/-- The window a restart at `now` is counted in: the running one, or a new one. -/
def RestartBudgetState.rollWindow (state : RestartBudgetState) (now : Instant) :
    RestartBudgetState :=
  match state.budget.window, state.windowStarted with
  | none, _ => state
  | some period, some started =>
    if now - started ≥ period then
      { state with restartsUsed := 0, windowStarted := some now }
    else state
  | some _, none => { state with windowStarted := some now }

/-- `none` once the budget is exceeded. -/
def RestartBudgetState.recordRestartAt (state : RestartBudgetState) (now : Instant) :
    Option RestartBudgetState :=
  let state := state.rollWindow now
  if state.isExhausted then none
  else some { state with restartsUsed := state.restartsUsed + 1 }

inductive RestartPolicy where
  | oneForOne
  | oneForAll
  | restForOne

inductive ChildRelation where
  | beforeFailed
  | failed
  | afterFailed

def ChildRelation.fromOrdinals (childOrdinal failedOrdinal : Nat) : ChildRelation :=
  if childOrdinal < failedOrdinal then .beforeFailed
  else if childOrdinal = failedOrdinal then .failed
  else .afterFailed

def RestartPolicy.restarts : RestartPolicy → ChildRelation → Bool
  | .oneForOne, .failed => true
  | .oneForOne, .beforeFailed => false
  | .oneForOne, .afterFailed => false
  | .oneForAll, _ => true
  | .restForOne, .beforeFailed => false
  | .restForOne, .failed => true
  | .restForOne, .afterFailed => true

structure SupervisorRecord where
  parent : RegisteredAddress
  policy : RestartPolicy
  budgetState : RestartBudgetState

structure ChildRecord (P : Payload) where
  parent : IsolateId
  child : RegisteredAddress
  childOrdinal : Nat
  mailboxCapacity : Nat
  restartRecipe : Option (RestartRecipe P)
  restartContinuation : Option (RegisteredAddress → P.Message)
  terminalContinuation : Option (P.StopResult → MappedTerminal P)
  terminalSlotReserved : Bool
  terminalSettledGeneration : Option AddressGeneration
  previousChild : Option RegisteredAddress
  remoteRequestId : Option CallId
  remoteOwner : Option RegisteredAddress
  remoteRestartable : Bool
  terminal : Bool

structure RegisteredEntry (P : Payload) where
  id : IsolateId
  generation : AddressGeneration
  parent : Option IsolateId
  stopped : Bool
  mailbox : AnyMailboxAdapter P.Message
  callContexts : List (Option MessageCallContext)
  continuationOverflow : List (DeliveredMessage P)
  isolate : P.Isolate

structure PendingRemoteSpawn (P : Payload) where
  requestId : CallId
  requester : RegisteredAddress
  targetShard : ShardId
  childOrdinal : Nat
  mailboxCapacity : Nat
  remoteRestartable : Bool
  continuation : Except SpawnObservedError RegisteredAddress → P.Message

inductive DeferredRouting where
  | localCaller
  | remoteCaller (requester : RegisteredAddress)
deriving DecidableEq

/-- One captured caller. `isOpen` is the state of the shared cell, which only the
runtime writes; a captured cell that is not open was captured from a closed caller. -/
structure DeferredSlotRecord where
  slotId : DeferredSlotId
  callId : CallId
  capturingIsolate : IsolateId
  expectedReplyTypeId : TypeId
  isOpen : Bool
  routing : DeferredRouting

/-- The cell a `CallHandle` shares with the runtime. -/
structure CallHandleShared where
  state : CallHandleState
  callId : Option CallId
  shardId : Option ShardId

structure DriverCompletion (P : Payload) where
  callId : CallId
  result : P.CallOutput

/-- What a handler sees of the caller of the message it is given. -/
structure MessageCaller where
  callId : CallId
  capturingIsolate : IsolateId
  routing : DeferredRouting
  expectedReplyTypeId : TypeId
  isOpen : Bool

/-- One handler turn. `captured` says that the handler turned its caller into a
deferred reply; `effect` is `none` when the handler panicked. -/
structure Turn (P : Payload) (Shard : Type) where
  isolate : P.Isolate
  shard : Shard
  captured : Bool
  effect : Option (ErasedEffect P)

/-- What a runtime is built around: user code, the I/O driver, the clock and the transport to other
shards. Proofs assume nothing of them but what the fields say. -/
structure Host extends Payload where
  /-- The user's shard value, with everything that handlers share. -/
  Shard : Type
  Driver : Type
  /-- What the `route_remote` closure of a step closes over. -/
  Net : Type
  typeId : Message → TypeId
  /-- Whether a backend result is a failure result. -/
  outputFailed : CallOutput → Bool
  handle : Isolate → Message → Shard → IsolateId → AddressGeneration → Instant →
    Turn toPayload Shard
  handleCall : Isolate → Message → Shard → IsolateId → AddressGeneration →
    MessageCaller → Instant → Turn toPayload Shard
  /-- Whether the user has dropped every handle to a captured slot. -/
  slotDropped : Shard → DeferredSlotId → Bool
  clock : Nat → Instant
  submit : Driver → CallId → CallInput → Instant → Option (DriverCompletion toPayload) × Driver
  advance : Driver → Instant → List (DriverCompletion toPayload) × Driver
  cancel : Driver → CallId → Driver
  cancelPending : Driver → Driver
  takeCancelledByClose : Driver → List CallId × Driver
  notifySignal : Driver → String → List (DriverCompletion toPayload) × Driver
  /-- What the transport does with an envelope that this shard offers. -/
  route : Net → ShardId → QueuedRemoteEnvelope toPayload →
    Except Panic (Except SendRejectedReason Unit × Net)

instance : Coe Host Payload := ⟨Host.toPayload⟩

/-- How an isolate came to stop. -/
inductive StopPath where
  /-- `Stop`, `Fail`, `StopWith` or a panic of the isolate's own handler. -/
  | ownTurn
  /-- A completion action that stops the requester. -/
  | completionAction
  /-- A parent's `StopChildren`. -/
  | stopChildren
  /-- A restart that replaces a running child. -/
  | restart
  /-- A stop or cancel that a remote owner sent. -/
  | remoteOwner

/-- Why a caller was given up. -/
inductive DiscardCause where
  /-- Its message was still queued, or already taken for the round, at a stop. -/
  | drained
  /-- Its captured slot was dropped, by the user or with the capturing isolate. -/
  | slotDropped
  /-- The handler panicked after capturing it. -/
  | capturePanicked
  /-- The handler panicked without capturing it. -/
  | panicked

/-- What the runtime did, in the order it did it. -/
inductive Happening (P : Payload) where
  /-- The mailbox of `isolate` took a message, together with its call context. -/
  | accepted (isolate : IsolateId) (message : P.Message) (callContext : Option MessageCallContext)
  /-- The mailbox of `isolate` gave up its oldest message. -/
  | received (isolate : IsolateId) (delivered : DeliveredMessage P)
  /-- A slot of `isolate`'s mailbox was set aside for a terminal result. -/
  | slotReserved (isolate : IsolateId)
  | slotReleased (isolate : IsolateId)
  /-- A terminal result was put into a slot that had been set aside for it. -/
  | terminalDelivered (isolate : IsolateId) (message : P.Message)
  /-- A live mailbox refused a terminal result that a slot had been set aside for. -/
  | terminalLost (isolate : IsolateId) (message : P.Message)
  /-- A handler ran: `handle` without a call context, `handle_call` with one. -/
  | turn (isolate : IsolateId) (callContext : Option MessageCallContext)
  /-- A handler returned this tree, while its message's context was still to be answered. -/
  | returned (holding : Option MessageCallContext) (effect : ErasedEffect P)
  /-- A runtime call was dispatched; its continuation carries the given context. -/
  | callStarted (callId : CallId) (continuationContext : Option MessageCallContext)
  /-- The continuation of a runtime call was offered to its requester's queues, with this
  context. -/
  | continued (callId : CallId) (continuationContext : Option MessageCallContext)
  /-- An executed `Reply` or `Reject` answered its call context. -/
  | answered (callContext : MessageCallContext)
  /-- An isolate call ended with this outcome for its requester. -/
  | outcomeDelivered (callId : CallId) (outcome : CallOutcome P.Message)
  /-- The wait of an isolate call was given up without an outcome. -/
  | callCancelled (callId : CallId) (cause : CancelCause)
  /-- The runtime wrote a terminal state into a call handle. -/
  | handleMoved (handle : HandleId) (state : CallHandleState)
  /-- A queued call message, or a captured caller, was given up and, where the code
  does so, its caller was answered. -/
  | discarded (callContext : MessageCallContext) (cause : DiscardCause)
  /-- An isolate stopped, while it owned these remote children and had these spawn
  requests in flight. -/
  | stopped (isolate : IsolateId) (path : StopPath)
      (remoteChildren : List (RegisteredAddress × Nat)) (pendingSpawns : List CallId)
  /-- A child of `parent` was given an ordinal, while its records and spawn requests
  carried these. -/
  | ordinalAssigned (parent : IsolateId) (ordinal : Nat) (carried : List Nat)
  /-- A restart decided on this shard replaced the child of a record. -/
  | restartedHere (remoteOwner : Option RegisteredAddress)
  /-- A spawn request of this shard got its reply. -/
  | spawnSettled (requestId : CallId)
  /-- The transport was offered an envelope, and took it or not. -/
  | routed (envelope : QueuedRemoteEnvelope P) (taken : Bool)

structure Runtime (h : Host) where
  systemIncarnation : SystemIncarnation
  shardId : ShardId
  shard : h.Shard
  entries : List (RegisteredEntry h)
  entryIndexes : IsolateId → Option Nat
  hasStoppedEntries : Bool
  childRecords : List (ChildRecord h)
  supervisors : List SupervisorRecord
  nextIsolateId : Nat
  nextCallId : Nat
  driver : h.Driver
  callTable : CallTable h
  clockReads : Nat
  pendingRemoteSpawns : List (PendingRemoteSpawn h)
  remoteSpawnCancelTombstones : List CallId
  remoteChildControlCapacity : Nat
  remoteChildControlFull : Nat
  roundMessages : List (Option (DeliveredMessage h))
  pendingCompletions : List (DriverCompletion h)
  driverCompletionDrainBudget : Nat
  nextIsolateCallOrdinal : Nat
  nextSlotId : Nat
  pendingCaptures : List DeferredSlotRecord
  promotedSlots : List DeferredSlotRecord
  handles : HandleId → CallHandleShared
  cancelledCalls : List (CallId × CancelCause)
  cancelledCallCauseEvictions : Nat
  net : h.Net
  history : List (Happening h)

abbrev RuntimeM (h : Host) := StateT (Runtime h) (Except Panic)

namespace Runtime

variable {h : Host}

def putEntry (s : Runtime h) (index : Nat) (entry : RegisteredEntry h) :
    Runtime h :=
  { s with entries := s.entries.set index entry }

def putRecord (s : Runtime h) (index : Nat) (record : ChildRecord h) :
    Runtime h :=
  { s with childRecords := s.childRecords.set index record }

def log (s : Runtime h) (happening : Happening h) : Runtime h :=
  { s with history := s.history ++ [happening] }

end Runtime

def DEFAULT_DRIVER_COMPLETION_DRAIN_BUDGET : Nat := 64

def CANCELLED_CALL_RING_CAPACITY : Nat := 64

/-- A runtime as its constructor leaves it. -/
def Runtime.new (h : Host) (system : SystemIncarnation) (shardId : ShardId) (shard : h.Shard)
    (driver : h.Driver) (net : h.Net) : Runtime h where
  systemIncarnation := system
  shardId
  shard
  entries := []
  entryIndexes := fun _ => none
  hasStoppedEntries := false
  childRecords := []
  supervisors := []
  nextIsolateId := 1
  nextCallId := 1
  driver
  callTable := CallTable.new
  clockReads := 0
  pendingRemoteSpawns := []
  remoteSpawnCancelTombstones := []
  remoteChildControlCapacity := 64
  remoteChildControlFull := 0
  roundMessages := []
  pendingCompletions := []
  driverCompletionDrainBudget := DEFAULT_DRIVER_COMPLETION_DRAIN_BUDGET
  nextIsolateCallOrdinal := 0
  nextSlotId := 1
  pendingCaptures := []
  promotedSlots := []
  handles := fun _ => { state := .pending, callId := none, shardId := none }
  cancelledCalls := []
  cancelledCallCauseEvictions := 0
  net
  history := []

end Tina
