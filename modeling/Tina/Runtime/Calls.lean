import Tina.Lib.SwapRemove
import Tina.Runtime.Registration

/-!
How pending isolate calls end: completion, timeout, cancellation by the caller, the
owner's stop and shutdown. Every path removes the call from the table before anything
else can see it.
-/

namespace Tina

variable {h : Host}

def dispatchLocalSendWithContext (send : ErasedSend h) (callContext : Option MessageCallContext) :
    RuntimeM h (Except SendRejectedReason Unit) := do
  let s ← get
  if send.targetSystem ≠ s.systemIncarnation then
    return .error (.foreignSystem s.systemIncarnation send.targetSystem)
  else if send.targetShard ≠ s.shardId then throw .crossShardSend
  else
    match s.entryIndexes send.targetIsolate with
    | none => return .error .closed
    | some index =>
      let entry ← entryAt index
      if entry.generation ≠ send.targetGeneration then return .error .closed
      else
        match ← enqueueEntryMessage index send.message callContext with
        | .ok () => return .ok ()
        | .error (.full _) => return .error .full
        | .error (.closed _) => return .error .closed

def dispatchLocalSend (send : ErasedSend h) :
    RuntimeM h (Except SendRejectedReason Unit) :=
  dispatchLocalSendWithContext send none

/-- Offer an envelope to the transport, as `route_remote` does. -/
def routeRemote (envelope : QueuedRemoteEnvelope h) :
    RuntimeM h (Except SendRejectedReason Unit) := do
  let s ← get
  match h.route s.net s.shardId envelope with
  | .error panic => throw panic
  | .ok (.ok (), net) =>
    set { s with net }
    note (.routed envelope true)
    return .ok ()
  | .ok (.error reason, net) =>
    set { s with net }
    note (.routed envelope false)
    return .error reason

def removeIsolateCall (callId : CallId) :
    RuntimeM h (Option (PendingIsolateCall h)) := do
  let s ← get
  match s.callTable.removeIsolate callId with
  | none => return none
  | some (call, table) =>
    set { s with callTable := table }
    return some call

/-- Write a terminal state into the handle of a call, if the caller kept one. -/
def setHandleState (handle : Option HandleId) (state : CallHandleState) :
    RuntimeM h Unit := do
  match handle with
  | none => return ()
  | some handle =>
    modify fun s => { s with
      handles := fun id => if id = handle then { s.handles id with state }
        else s.handles id }
    note (.handleMoved handle state)

/-- Stamp a handle with its call id and shard; a second stamp unwinds. -/
def stampHandle (handle : Option HandleId) (callId : CallId) : RuntimeM h Unit := do
  match handle with
  | none => return ()
  | some handle =>
    let s ← get
    if (s.handles handle).callId ≠ none ∨ (s.handles handle).shardId ≠ none then
      throw .handleStampedTwice
    else
      set { s with handles := fun id => if id = handle then
        { s.handles id with callId := some callId, shardId := some s.shardId }
        else s.handles id }

def deliverIsolateCallOutcome (callId : CallId) (requester : RegisteredAddress)
    (outcome : CallOutcome h.Message) (translator : CallOutcome h.Message → h.Message)
    (continuationContext : Option MessageCallContext) : RuntimeM h Unit := do
  note (.outcomeDelivered callId outcome)
  match (← get).entryIndex requester with
  | none => return ()
  | some index =>
    let entry ← entryAt index
    if entry.stopped then return ()
    else
      note (.continued callId continuationContext)
      -- A full or closed mailbox drops the outcome: the trace says so, nothing retries.
      let _ ← enqueueEntryMessage index (translator outcome) continuationContext
      return ()

def completeIsolateCall (callId : CallId) (outcome : CallOutcome h.Message) :
    RuntimeM h Bool := do
  match ← removeIsolateCall callId with
  | none => return false
  | some pending =>
    setHandleState pending.handleShared .settled
    deliverIsolateCallOutcome callId pending.requester outcome pending.translator
      pending.continuationContext
    return true

def recordCancelledCall (callId : CallId) (cause : CancelCause) : RuntimeM h Unit :=
  modify fun s =>
    if s.cancelledCalls.length = CANCELLED_CALL_RING_CAPACITY then
      { s with
        cancelledCalls := s.cancelledCalls.tail ++ [(callId, cause)]
        cancelledCallCauseEvictions := s.cancelledCallCauseEvictions + 1 }
    else { s with cancelledCalls := s.cancelledCalls ++ [(callId, cause)] }

/-- Close the promoted slot of a local caller that no longer waits. -/
def closeDeferredSlotForCall (callId : CallId) : RuntimeM h Unit :=
  modify fun s =>
    match s.promotedSlots.findIdx? (fun slot =>
        slot.routing = .localCaller ∧ slot.callId = callId) with
    | none => s
    | some position => { s with promotedSlots := Lib.swapRemove s.promotedSlots position }

/-- One round of the timeout loop, for a call that is due. -/
def expireIsolateCall (callId : CallId) : RuntimeM h Unit := do
  match ← removeIsolateCall callId with
  | none => return ()
  | some entry =>
    setHandleState entry.handleShared .settled
    recordCancelledCall entry.callId .callerTimedOut
    closeDeferredSlotForCall entry.callId
    deliverIsolateCallOutcome entry.callId entry.requester .timeout entry.translator
      entry.continuationContext

/-- The loop looks the earliest deadline up again after every call it ends. -/
def expireDueCalls (now : Instant) : Nat → RuntimeM h Unit
  | 0 => throw .diverges
  | fuel + 1 => do
    match (← get).callTable.nextDueIsolate now with
    | none => return ()
    | some callId =>
      expireIsolateCall callId
      expireDueCalls now fuel

def harvestIsolateCallTimeouts (now : Instant) : RuntimeM h Unit := do
  expireDueCalls now ((← get).callTable.isolateDeadlines.size + 1)

/-- Every call that the stopping isolate waits for is removed and recorded first, and
only then are handles and slots closed. -/
def cancelPendingIsolateCallsForOwner (ownerIsolate : IsolateId)
    (ownerGeneration : AddressGeneration) : RuntimeM h Unit := do
  let s ← get
  let (owned, table) := s.callTable.takeIsolateCallsForOwner ownerIsolate ownerGeneration
  set { s with callTable := table }
  owned.forM (recordCancelledCall ·.callId .ownerStopped)
  owned.forM fun entry => do
    setHandleState entry.handleShared .cancelled
    closeDeferredSlotForCall entry.callId
    note (.callCancelled entry.callId .ownerStopped)

def cancelDriverCallsForRequester (requester : RegisteredAddress) : RuntimeM h Unit := do
  ((← get).callTable.driverCallIdsForRequester requester).forM fun callId => do
    let s ← get
    match s.callTable.removeDriver callId with
    | none => throw .unknownEntry
    | some (call, table) =>
      set { s with
        callTable := table
        driver := h.cancel s.driver call.head.callId
        pendingCompletions := s.pendingCompletions.filter fun op => op.callId ≠ callId }

/-- Shutdown: pending backend calls are dropped, pending isolate calls cancelled. -/
def cancelInFlightCallsForShutdown : RuntimeM h Unit := do
  let s ← get
  let (_, table) := s.callTable.drainDriver
  let (calls, table) := table.drainIsolate
  set { s with driver := h.cancelPending s.driver, pendingCompletions := [], callTable := table }
  calls.forM fun call => do
    setHandleState call.handleShared .cancelled
    recordCancelledCall call.callId .runtimeStopped
    note (.callCancelled call.callId .runtimeStopped)

/-- Settle the local caller of a message that is thrown away. `false`: the message is
only traced as abandoned, which is also what happens to a remote caller. -/
def closeDrainedLocalCallContext (message : DeliveredMessage h) :
    RuntimeM h Bool := do
  match message.callContext with
  | none => return false
  | some (.remoteCaller callId requester expected) =>
    note (.discarded (.remoteCaller callId requester expected) .drained)
    return false
  | some (.localCaller callId) =>
    let completed ← completeIsolateCall callId .closed
    note (.discarded (.localCaller callId) .drained)
    return completed

end Tina
