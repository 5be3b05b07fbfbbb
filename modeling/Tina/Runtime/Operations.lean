import Tina.Runtime.Remote

/-!
What a host does with a runtime: it registers and supervises isolates, sends to them,
steps the runtime, hands it the envelopes of other shards, and shuts it down. Between two
of these operations other shards use the transport, the call-id counter and the call
handles that all shards share.
-/

namespace Tina

variable {h : Host}

/-- Every refusal at the runtime's boundary gives the message back. -/
inductive IngressSendError (M : Type) where
  | foreignSystem (expected actual : SystemIncarnation) (message : M)
  | full (message : M)
  | closed (message : M)

/-- The host's own send: an unknown or stale address is closed, another shard unwinds. -/
def trySend (address : RegisteredAddress) (message : h.Message) :
    RuntimeM h (Except (IngressSendError h.Message) Unit) := do
  let s ← get
  if address.system ≠ s.systemIncarnation then
    return .error (.foreignSystem s.systemIncarnation address.system message)
  else if address.shard ≠ s.shardId then throw .crossShardSend
  else
    match s.entryIndex address with
    | none => return .error (.closed message)
    | some index =>
      match ← enqueueEntryMessage index message none with
      | .ok () => return .ok ()
      | .error (.full message) => return .error (.full message)
      | .error (.closed message) => return .error (.closed message)

def notifySignal (name : String) : RuntimeM h Unit := do
  let s ← get
  let (completed, driver) := h.notifySignal s.driver name
  set { s with driver }
  completed.forM fun op => deliverCompletion op.callId op.result

def setDriverCompletionDrainBudget (budget : Nat) : RuntimeM h Unit :=
  modify fun s => { s with driverCompletionDrainBudget := max budget 1 }

def settleTerminalReservationsOnShutdown : RuntimeM h Unit :=
  disposeAllTerminalReservationsOnShutdown

/-- One thing that happens to a runtime from outside. -/
inductive Operation (h : Host) where
  | registerWithCapacity (isolate : h.Isolate) (mailboxCapacity : Nat)
  | registerWithCapacityAndBootstrap (isolate : h.Isolate) (mailboxCapacity : Nat)
      (bootstrap : h.Message)
  | registerWithCapacityUsing (mailboxCapacity : Nat)
      (construct : RegisteredAddress → Option h.Isolate)
  | trySupervise (parent : RegisteredAddress) (policy : RestartPolicy) (budget : RestartBudget)
  | trySend (address : RegisteredAddress) (message : h.Message)
  | step
  | harvest (envelope : QueuedRemoteEnvelope h)
  | notifySignal (name : String)
  | setDriverCompletionDrainBudget (budget : Nat)
  | setRemoteChildControlCapacity (capacity : Nat)
  | settleTerminalReservationsOnShutdown
  | cancelInFlightCallsForShutdown
  /-- Other shards used the transport and the call-id counter. -/
  | connect (net : h.Net) (next : Nat)
  /-- Another shard stamped or settled one of its call handles. -/
  | foreignHandle (handle : HandleId) (cell : CallHandleShared)

/-- Run an operation and drop what it answers. -/
def Operation.run : Operation h → RuntimeM h Unit
  | .registerWithCapacity isolate capacity => do
    let _ ← Tina.registerWithCapacity isolate capacity
  | .registerWithCapacityAndBootstrap isolate capacity bootstrap => do
    let _ ← Tina.registerWithCapacityAndBootstrap isolate capacity bootstrap
  | .registerWithCapacityUsing capacity construct => do
    let _ ← Tina.registerWithCapacityUsing capacity construct
  | .trySupervise parent policy budget => do
    let _ ← Tina.trySupervise parent policy budget
  | .trySend address message => do
    let _ ← Tina.trySend address message
  | .step => stepWithRemote
  | .harvest envelope => do
    let _ ← harvestRemoteEnvelope envelope
  | .notifySignal name => Tina.notifySignal name
  | .setDriverCompletionDrainBudget budget => Tina.setDriverCompletionDrainBudget budget
  | .setRemoteChildControlCapacity capacity =>
    modify fun s => { s with remoteChildControlCapacity := capacity }
  | .settleTerminalReservationsOnShutdown => Tina.settleTerminalReservationsOnShutdown
  | .cancelInFlightCallsForShutdown => Tina.cancelInFlightCallsForShutdown
  | .connect net next => modify fun s => { s with net, nextCallId := next }
  | .foreignHandle handle cell => modify fun s => { s with
      handles := fun id => if id = handle then cell else s.handles id }

/-- An envelope as a shard receives it from another one: its call context, if it has one,
is remote, and the children it reports are not on the receiving shard. -/
def QueuedRemoteEnvelope.comesFromAfar {P : Payload} (shard : ShardId) :
    QueuedRemoteEnvelope P → Bool
  | .send _ (some (.localCaller _)) => false
  | .spawnReply { outcome := .ok child, .. } => child.shard ≠ shard
  | .childRestarted { oldChild := old, outcome := .ok child, .. } =>
    old.shard ≠ shard && child.shard ≠ shard
  | .childRestarted { oldChild := old, outcome := .error _, .. } => old.shard ≠ shard
  | _ => true

/-- What the shards outside can do: they send from afar, take call ids in order, and write
no handle that a call of this shard is stamped on. -/
def Operation.Admissible (s : Runtime h) : Operation h → Prop
  | .harvest envelope => envelope.comesFromAfar s.shardId = true
  | .connect _ next => s.nextCallId ≤ next
  | .foreignHandle handle cell => (s.handles handle).shardId ≠ some s.shardId ∧
      cell.shardId ≠ some s.shardId ∧ cell.callId ≠ none
  | _ => True

instance Operation.decidableAdmissible (s : Runtime h) :
    (operation : Operation h) → Decidable (operation.Admissible s)
  | .harvest envelope => inferInstanceAs (Decidable (envelope.comesFromAfar s.shardId = true))
  | .connect _ next => inferInstanceAs (Decidable (s.nextCallId ≤ next))
  | .foreignHandle handle cell => inferInstanceAs (Decidable
      ((s.handles handle).shardId ≠ some s.shardId ∧ cell.shardId ≠ some s.shardId ∧
        cell.callId ≠ none))
  | .registerWithCapacity .. => isTrue trivial
  | .registerWithCapacityAndBootstrap .. => isTrue trivial
  | .registerWithCapacityUsing .. => isTrue trivial
  | .trySupervise .. => isTrue trivial
  | .trySend .. => isTrue trivial
  | .step => isTrue trivial
  | .notifySignal _ => isTrue trivial
  | .setDriverCompletionDrainBudget _ => isTrue trivial
  | .setRemoteChildControlCapacity _ => isTrue trivial
  | .settleTerminalReservationsOnShutdown => isTrue trivial
  | .cancelInFlightCallsForShutdown => isTrue trivial

/-- The states that a runtime can be in after its host has done something with it: any operations
in any order, each admissible where it is run. One that unwinds leads to no further state. -/
inductive Reachable : Runtime h → Prop where
  | new (system : SystemIncarnation) (shardId : ShardId) (shard : h.Shard) (driver : h.Driver)
      (net : h.Net) : Reachable (Runtime.new h system shardId shard driver net)
  | after {s t : Runtime h} (operation : Operation h) (hs : Reachable s)
      (hadmissible : operation.Admissible s) (hrun : operation.run s = .ok ((), t)) :
      Reachable t

/-- Run one operation after the other; `none` when one unwinds or cannot happen. -/
def runOperations : List (Operation h) → Runtime h → Option (Runtime h)
  | [], s => some s
  | operation :: rest, s =>
    if operation.Admissible s then
      match operation.run s with
      | .ok (_, t) => runOperations rest t
      | .error _ => none
    else none

theorem Reachable.runOperations {operations : List (Operation h)} {s t : Runtime h}
    (hs : Reachable s) (hrun : runOperations operations s = some t) : Reachable t := by
  induction operations generalizing s with
  | nil =>
    cases hrun
    exact hs
  | cons operation _ ih =>
  unfold Tina.runOperations at hrun
  split at hrun
  · rename_i hadmissible
    split at hrun
    · rename_i u hstep
      exact ih (.after operation hs hadmissible hstep) hrun
    · cases hrun
  · cases hrun

end Tina
