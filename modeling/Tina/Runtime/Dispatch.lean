import Tina.Runtime.Stopping

/-!
Runtime calls: how a handler's `Io` effect is dispatched, and how backend completions
come back. The context an `Io` effect is dispatched with travels with the call and is
put beside the continuation message when the call completes.
-/

namespace Tina

variable {h : Host}

def nextCallId : RuntimeM h CallId := do
  let s ← get
  set { s with nextCallId := s.nextCallId + 1 }
  return s.nextCallId

structure CallDispatchContext where
  callId : CallId
  requester : RegisteredAddress
  continuationContext : Option MessageCallContext

def deliverBackendCompletionAction (index : Nat) (head : DriverCallHead)
    (completion : ErasedRuntimeCallCompletion h) : RuntimeM h Unit := do
  match completion with
  | .message message =>
    note (.continued head.callId head.continuationContext)
    let _ ← enqueueCallContinuation index message head.continuationContext
    return ()
  | .noop => return ()
  | .stopRequester => stopEntry index head.requester.isolate .completionAction

/-- A completion for a call the table does not know is quarantined. -/
def deliverCompletion (callId : CallId) (result : h.CallOutput) : RuntimeM h Unit := do
  let s ← get
  match s.callTable.removeDriver callId with
  | none => return ()
  | some (call, table) =>
    set { s with callTable := table }
    match h.outputFailed result, call.translator result with
    | true, .stopRequester => return ()
    | true, .noop => return ()
    | _, completion =>
      match (← get).entryIndex call.head.requester with
      | none => return ()
      | some index =>
        let entry ← entryAt index
        if entry.stopped then return ()
        else deliverBackendCompletionAction index call.head completion

def cancelInFlightCallForResourceClose (callId : CallId) : RuntimeM h Unit :=
  modify fun s =>
    match s.callTable.removeDriver callId with
    | none => s
    | some (_, table) => { s with callTable := table }

/-- Drop the runtime state of the calls that a closing resource cancelled. -/
def purgeCancelledByClose : RuntimeM h Unit := do
  let s ← get
  let (cancelled, driver) := h.takeCancelledByClose s.driver
  set { s with driver }
  cancelled.forM fun callId => do
    modify fun s => { s with
      pendingCompletions := s.pendingCompletions.filter fun op => op.callId ≠ callId }
    cancelInFlightCallForResourceClose callId

def deliverCarriedCompletions : Nat → RuntimeM h Unit
  | 0 => return ()
  | budget + 1 => do
    let s ← get
    match s.pendingCompletions with
    | [] => return ()
    | op :: rest =>
      set { s with pendingCompletions := rest }
      deliverCompletion op.callId op.result
      deliverCarriedCompletions budget

/-- Harvest every ready completion, deliver at most a budget of them, carry the rest. -/
def advanceDriver (now : Instant) : RuntimeM h Unit := do
  let s ← get
  let (completed, driver) := h.advance s.driver now
  set { s with driver, pendingCompletions := s.pendingCompletions ++ completed }
  deliverCarriedCompletions (max s.driverCompletionDrainBudget 1)
  purgeCancelledByClose

def dispatchDriverCall (context : CallDispatchContext) (request : h.CallInput)
    (translator : h.CallOutput → ErasedRuntimeCallCompletion h) :
    RuntimeM h Unit := do
  let s ← get
  match s.callTable.insertDriver {
      head := { callId := context.callId, requester := context.requester,
                continuationContext := context.continuationContext }
      translator } with
  | .error panic => throw panic
  | .ok table =>
    set { s with callTable := table }
    let now ← clockNow
    let s ← get
    let (immediate, driver) := h.submit s.driver context.callId request now
    set { s with driver }
    match immediate with
    | none => purgeCancelledByClose
    | some op =>
      deliverCompletion op.callId op.result
      purgeCancelledByClose

def deliverObservedSendOutcome (callId : CallId) (requester : RegisteredAddress)
    (outcome : SendOutcome) (translator : SendOutcome → h.Message)
    (continuationContext : Option MessageCallContext) : RuntimeM h Unit := do
  match (← get).entryIndex requester with
  | none => return ()
  | some index =>
    let entry ← entryAt index
    if entry.stopped then return ()
    else
      note (.continued callId continuationContext)
      let _ ← enqueueEntryMessage index (translator outcome) continuationContext
      return ()

def dispatchObservedSend (context : CallDispatchContext) (send : ErasedSend h)
    (translator : SendOutcome → h.Message) : RuntimeM h Unit := do
  let s ← get
  if send.targetSystem ≠ s.systemIncarnation then
    deliverObservedSendOutcome context.callId context.requester
      (.foreignSystem s.systemIncarnation send.targetSystem) translator
      context.continuationContext
  else
    let delivery ←
      if send.targetShard = s.shardId then dispatchLocalSend send
      else routeRemote (.send send none)
    let outcome := match delivery with
      | .ok () => SendOutcome.accepted
      | .error reason => SendOutcome.fromRejected reason
    deliverObservedSendOutcome context.callId context.requester outcome translator
      context.continuationContext

def CallOutcome.fromRejected {M : Type} : SendRejectedReason → CallOutcome M
  | .foreignSystem expected actual => .rejected (.foreignSystem expected actual)
  | .full => .full
  | .closed => .closed

/-- A call that never became pending: its handle is stamped and settled at once. -/
def refuseIsolateCall (context : CallDispatchContext) (outcome : CallOutcome h.Message)
    (translator : CallOutcome h.Message → h.Message) (handleShared : Option HandleId) :
    RuntimeM h Unit := do
  stampHandle handleShared context.callId
  setHandleState handleShared .settled
  deliverIsolateCallOutcome context.callId context.requester outcome translator
    context.continuationContext

def dispatchIsolateCall (context : CallDispatchContext) (send : ErasedSend h)
    (timeout : Duration) (translator : CallOutcome h.Message → h.Message)
    (expectedReplyTypeId : TypeId) (handleShared : Option HandleId) :
    RuntimeM h Unit := do
  let s ← get
  if send.targetSystem ≠ s.systemIncarnation then
    refuseIsolateCall context (.rejected (.foreignSystem s.systemIncarnation send.targetSystem))
      translator handleShared
  else
    let delivery ←
      if send.targetShard = s.shardId then
        dispatchLocalSendWithContext send (some (.localCaller context.callId))
      else
        routeRemote (.send send
          (some (.remoteCaller context.callId context.requester expectedReplyTypeId)))
    match delivery with
    | .error reason =>
      refuseIsolateCall context (CallOutcome.fromRejected reason) translator handleShared
    | .ok () =>
      let s ← get
      set { s with nextIsolateCallOrdinal := s.nextIsolateCallOrdinal + 1 }
      stampHandle handleShared context.callId
      let now ← clockNow
      let t ← get
      match t.callTable.insertIsolate {
          callId := context.callId, requester := context.requester
          deadline := now + timeout, insertionOrder := s.nextIsolateCallOrdinal
          continuationContext := context.continuationContext, translator
          expectedReplyTypeId, handleShared } with
      | .error panic => throw panic
      | .ok table => set { t with callTable := table }

/-- What a cancel request finds in the handle it was given. -/
def cancelOutcome (handle : HandleId) : RuntimeM h CancelOutcome := do
  let s ← get
  let cell := s.handles handle
  match cell.state, cell.callId with
  | .settled, _ => return .alreadyCompleted
  | .cancelled, _ => return .alreadyCancelled
  | .pending, none => return .notAdmitted
  | .pending, some callId =>
    if cell.shardId ≠ some s.shardId then return .wrongShard
    else
      match ← removeIsolateCall callId with
      | none => return .alreadyCompleted
      | some _ =>
        setHandleState (some handle) .cancelled
        recordCancelledCall callId .callerCancelled
        closeDeferredSlotForCall callId
        note (.callCancelled callId .callerCancelled)
        return .cancelled

def dispatchCancelCall (context : CallDispatchContext) (handle : HandleId)
    (translator : CancelOutcome → h.Message) : RuntimeM h Unit := do
  let outcome ← cancelOutcome handle
  match (← get).entryIndex context.requester with
  | none => return ()
  | some index =>
    let entry ← entryAt index
    if entry.stopped then return ()
    else
      note (.continued context.callId context.continuationContext)
      let _ ← enqueueCallContinuation index (translator outcome)
        context.continuationContext
      return ()

def dispatchCall (call : ErasedCall h) (requester : RegisteredAddress)
    (continuationContext : Option MessageCallContext) : RuntimeM h Unit := do
  let callId ← nextCallId
  note (.callStarted callId continuationContext)
  let context : CallDispatchContext :=
    { callId := callId, requester := requester, continuationContext := continuationContext }
  match call with
  | .backend request translator => dispatchDriverCall context request translator
  | .observedSend send translator => dispatchObservedSend context send translator
  | .isolateCall send timeout translator expected handle =>
    dispatchIsolateCall context send timeout translator expected handle
  | .cancelCall handle translator => dispatchCancelCall context handle translator

end Tina
