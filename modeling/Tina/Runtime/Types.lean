import Mathlib.Data.Nat.Notation

/-!
The vocabulary of a shard runtime: addresses, call outcomes, effects and the
envelopes that cross shards. User code is erased behind `Payload`, as the runtime
erases it behind `dyn Any`: a closure a handler hands over is a function here, and a
closure that may unwind returns its panic as a value. Trace events and the causes
that link them are written and never read by the code modelled here, so no type
carries a cause. The source counts isolates, calls and slots in a `u64`; ids are plain
numbers here, of which a run hands out fewer than `2 ^ 64`.
-/

namespace Tina

abbrev SystemIncarnation := Nat
abbrev ShardId := Nat
abbrev IsolateId := Nat
abbrev AddressGeneration := Nat
abbrev CallId := Nat
abbrev DeferredSlotId := Nat
/-- Identity of one shared call-handle cell. -/
abbrev HandleId := Nat
abbrev TypeId := Nat
abbrev Instant := Nat
abbrev Duration := Nat

structure RegisteredAddress where
  system : SystemIncarnation
  shard : ShardId
  isolate : IsolateId
  generation : AddressGeneration
deriving DecidableEq

inductive CallRejectedReason where
  | foreignSystem (expected actual : SystemIncarnation)
  | replyAbandoned
  | handlerPanicked
  | unsupportedMessage
deriving DecidableEq

inductive CallOutcome (M : Type) where
  | replied (message : M)
  | full
  | closed
  | timeout
  | rejected (reason : CallRejectedReason)
deriving DecidableEq

inductive SendRejectedReason where
  | foreignSystem (expected actual : SystemIncarnation)
  | full
  | closed
deriving DecidableEq

inductive SendOutcome where
  | foreignSystem (expected actual : SystemIncarnation)
  | accepted
  | full
  | closed
deriving DecidableEq

def SendOutcome.fromRejected : SendRejectedReason → SendOutcome
  | .foreignSystem expected actual => .foreignSystem expected actual
  | .full => .full
  | .closed => .closed

inductive CallHandleState where
  | pending
  | settled
  | cancelled
deriving DecidableEq

inductive CancelCause where
  | callerCancelled
  | callerTimedOut
  | ownerStopped
  | runtimeStopped

inductive CancelOutcome where
  | cancelled
  | notAdmitted
  | alreadyCompleted
  | alreadyCancelled
  | wrongShard

inductive SpawnObservedError where
  | zeroMailboxCapacity
  | destinationUnavailable
  | factoryPanicked
  | parentMailboxFull
  | parentMailboxClosed
  | parentMailboxReservationsUnsupported

inductive RestartSkippedReason where
  | notRestartable
  | factoryPanicked
  | remoteNotRestartable
  | parentMailboxFull
  | parentMailboxClosed
  | parentMailboxReservationsUnsupported

/-- The reply authority that travels beside a call message. -/
inductive MessageCallContext where
  | localCaller (callId : CallId)
  | remoteCaller (callId : CallId) (requester : RegisteredAddress) (expectedReplyTypeId : TypeId)
deriving DecidableEq

def MessageCallContext.callId : MessageCallContext → CallId
  | .localCaller callId => callId
  | .remoteCaller callId _ _ => callId

/-- The user types a runtime is instantiated with. -/
structure Payload where
  Message : Type
  Isolate : Type
  /-- What a handler asks a backend to do, and what the backend answers. -/
  CallInput : Type
  CallOutput : Type
  /-- The value a child hands to `stop_with`. -/
  StopResult : Type

structure DeliveredMessage (P : Payload) where
  message : P.Message
  callContext : Option MessageCallContext

structure ErasedSend (P : Payload) where
  targetSystem : SystemIncarnation
  targetShard : ShardId
  targetIsolate : IsolateId
  targetGeneration : AddressGeneration
  message : P.Message

inductive ErasedRuntimeCallCompletion (P : Payload) where
  | message (message : P.Message)
  | stopRequester
  | noop

inductive ErasedCall (P : Payload) where
  | backend (request : P.CallInput) (translator : P.CallOutput → ErasedRuntimeCallCompletion P)
  | observedSend (send : ErasedSend P) (translator : SendOutcome → P.Message)
  | isolateCall (send : ErasedSend P) (timeout : Duration)
      (translator : CallOutcome P.Message → P.Message) (expectedReplyTypeId : TypeId)
      (handleShared : Option HandleId)
  | cancelCall (handleShared : HandleId) (translator : CancelOutcome → P.Message)

/-- What a restartable child is rebuilt from; `none` is a factory that panics. -/
structure RestartRecipe (P : Payload) where
  factory : Option P.Isolate
  mailboxCapacity : Nat
  bootstrapFactory : Option (Option P.Message)
  /-- The cross-shard adapter overrides `create_remote`, the local one does not. -/
  crossShard : Bool

/-- The result of a terminal mapper on one stop result. -/
inductive MappedTerminal (P : Payload) where
  | message (message : P.Message)
  | mismatch
  | panicked

inductive ErasedSpawn (P : Payload) where
  | child (isolate : P.Isolate) (mailboxCapacity : Nat) (bootstrap : Option P.Message)
  | restartable (recipe : RestartRecipe P)

def ErasedSpawn.mailboxCapacity {P : Payload} : ErasedSpawn P → Nat
  | .child _ capacity _ => capacity
  | .restartable recipe => recipe.mailboxCapacity

def ErasedSpawn.remoteRestartable {P : Payload} : ErasedSpawn P → Bool
  | .child .. => false
  | .restartable _ => true

structure SpawnObserved (P : Payload) where
  spawn : ErasedSpawn P
  continuation : Except SpawnObservedError RegisteredAddress → P.Message
  restartContinuation : Option (RegisteredAddress → P.Message)
  terminalContinuation : Option (P.StopResult → MappedTerminal P)

structure SendSpawnObservedParts (P : Payload) where
  targetShard : ShardId
  spawn : ErasedSpawn P
  continuation : Except SpawnObservedError RegisteredAddress → P.Message

inductive ErasedEffect (P : Payload) where
  | noop
  | reply (message : P.Message)
  | reject (reason : CallRejectedReason)
  | send (send : ErasedSend P)
  | spawn (spawn : ErasedSpawn P)
  | spawnObserved (spawn : SpawnObserved P)
  | spawnObservedOn (parts : SendSpawnObservedParts P)
  | stop
  | fail
  | stopWith (result : P.StopResult)
  | restartChildren
  | stopChildren
  | io (call : ErasedCall P)
  | batch (effects : List (ErasedEffect P))
  | replyTo (slot : DeferredSlotId) (message : P.Message)
  | fact

inductive RemoteCallOutcome (P : Payload) where
  | replied (message : P.Message)
  | full
  | closed
  | rejected (reason : CallRejectedReason)

structure RemoteSpawnRequest (P : Payload) where
  requestId : CallId
  targetShard : ShardId
  owner : RegisteredAddress
  childOrdinal : Nat
  payload : ErasedSpawn P

structure RemoteSpawnReply where
  requestId : CallId
  requester : RegisteredAddress
  outcome : Except SpawnObservedError RegisteredAddress

structure RemoteSpawnCancel where
  requestId : CallId
  targetShard : ShardId
  owner : RegisteredAddress

/-- One child of a remote owner: the payload of a stop, a stopped notice or a
restart request. -/
structure RemoteChild where
  owner : RegisteredAddress
  child : RegisteredAddress
  childOrdinal : Nat

structure RemoteChildRestarted where
  owner : RegisteredAddress
  childOrdinal : Nat
  oldChild : RegisteredAddress
  outcome : Except RestartSkippedReason RegisteredAddress

inductive QueuedRemoteEnvelope (P : Payload) where
  | send (send : ErasedSend P) (callContext : Option MessageCallContext)
  | callReply (callId : CallId) (requester : RegisteredAddress) (outcome : RemoteCallOutcome P)
  | spawnRequest (request : RemoteSpawnRequest P)
  | spawnReply (reply : RemoteSpawnReply)
  | spawnCancel (cancel : RemoteSpawnCancel)
  | childStop (stop : RemoteChild)
  | childStopped (stopped : RemoteChild)
  | childRestart (restart : RemoteChild)
  | childRestarted (restarted : RemoteChildRestarted)

def QueuedRemoteEnvelope.targetShard {P : Payload} : QueuedRemoteEnvelope P → ShardId
  | .send outgoing _ => outgoing.targetShard
  | .callReply _ requester _ => requester.shard
  | .spawnRequest request => request.targetShard
  | .spawnReply reply => reply.requester.shard
  | .spawnCancel cancel => cancel.targetShard
  | .childStop stop => stop.child.shard
  | .childStopped stopped => stopped.owner.shard
  | .childRestart restart => restart.child.shard
  | .childRestarted restarted => restarted.owner.shard

end Tina
