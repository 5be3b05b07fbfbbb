import Tina.Runtime.Effects

/-!
One round of a shard runtime, and the harvest of envelopes that arrive from other
shards. A round first delivers completions and timeouts, then takes at most one message
from every entry, and only then runs the handlers.
-/

namespace Tina

variable {h : Host}

/-- The caller a handler sees, if the message is a call. -/
def Runtime.buildMessageCaller (s : Runtime h) (callContext : Option MessageCallContext)
    (isolateId : IsolateId) : Option MessageCaller :=
  match callContext with
  | none => none
  | some (.localCaller callId) =>
    match s.callTable.isolateExpectedReplyTypeId callId with
    | some expected => some { callId, capturingIsolate := isolateId
                              routing := .localCaller, expectedReplyTypeId := expected
                              isOpen := true }
    | none => some { callId, capturingIsolate := isolateId
                     routing := .localCaller, expectedReplyTypeId := 0, isOpen := false }
  | some (.remoteCaller callId requester expected) =>
    some { callId, capturingIsolate := isolateId
           routing := .remoteCaller requester, expectedReplyTypeId := expected
           isOpen := true }

/-- `MessageCaller::capture`: a slot id and a pending capture. -/
def registerCapture (caller : MessageCaller) : RuntimeM h Unit :=
  modify fun s => { s with
    nextSlotId := s.nextSlotId + 1
    pendingCaptures := s.pendingCaptures ++ [{
      slotId := s.nextSlotId, callId := caller.callId
      capturingIsolate := caller.capturingIsolate
      expectedReplyTypeId := caller.expectedReplyTypeId
      isOpen := caller.isOpen, routing := caller.routing }] }

/-- Run the handler of the entry at `index`: `handle_call` for a call message, `handle`
for any other. `none` when it panics. -/
def runHandler (index : Nat) (message : DeliveredMessage h) :
    RuntimeM h (Option (ErasedEffect h)) := do
  let entry ← entryAt index
  let caller := (← get).buildMessageCaller message.callContext entry.id
  let now ← clockNow
  let s ← get
  note (.turn entry.id message.callContext)
  let turn := match caller with
    | some caller =>
      h.handleCall entry.isolate message.message s.shard entry.id entry.generation caller now
    | none => h.handle entry.isolate message.message s.shard entry.id entry.generation now
  setEntry index { entry with isolate := turn.isolate }
  modify fun s => { s with shard := turn.shard }
  match caller with
  | some caller => if turn.captured then registerCapture caller
  | none => pure ()
  return turn.effect

def drainPendingCaptures : RuntimeM h (List DeferredSlotRecord) := do
  let s ← get
  set { s with pendingCaptures := [] }
  return s.pendingCaptures

def promoteCaptures : RuntimeM h Bool := do
  let captures ← drainPendingCaptures
  modify fun s => { s with promotedSlots := s.promotedSlots ++ captures }
  return !captures.isEmpty

/-- Give up what a panicking handler had captured. -/
def dropPendingDeferredCaptures : RuntimeM h Bool := do
  let captures ← drainPendingCaptures
  captures.forM fun capture => do
    let _ ← completeIsolateCall capture.callId .closed
    note (.discarded capture.callContext .capturePanicked)
  return !captures.isEmpty

def sweepDroppedDeferredSlots : RuntimeM h Unit := do
  let s ← get
  let dropped ← takePromotedSlots (h.slotDropped s.shard ·.slotId)
  dropped.forM dropPromotedDeferredSlot

/-- What follows a handler panic: the caller is answered, the isolate stops, and its
supervisor is told. -/
def finishPanickedTurn (index : Nat) (callContext : Option MessageCallContext) :
    RuntimeM h Unit := do
  let entry ← entryAt index
  let capturedAny ← dropPendingDeferredCaptures
  match callContext with
  | none => pure ()
  | some context =>
    if capturedAny then pure ()
    else
      rejectCallContext context .handlerPanicked
      note (.discarded context .panicked)
  cleanupRemoteChildrenForOwner entry.id
  stopEntry index entry.id .ownTurn
  let s ← get
  superviseFailedChild { system := s.systemIncarnation, shard := s.shardId,
                         isolate := entry.id, generation := entry.generation }

/-- What follows a handler that returned. The effect tree gets the call context only if
the handler did not capture it and the tree answers it; a context that is neither
captured nor answered is rejected first. -/
def finishTurn (index : Nat) (callContext : Option MessageCallContext)
    (effect : ErasedEffect h) : RuntimeM h Unit := do
  let capturedAny ← promoteCaptures
  note (.returned (if capturedAny then none else callContext) effect)
  let effectiveContext ←
    if capturedAny then pure none
    else if effect.consumesCallContext then pure callContext
    else
      match callContext with
      | none => pure none
      | some context =>
        rejectCallContext context .replyAbandoned
        pure none
  let _ ← executeEffect index effect effectiveContext
  return ()

/-- Deliver the message this round took from the entry at `index`. -/
def runTurn (index : Nat) : RuntimeM h Unit := do
  match ← takeRoundMessage index with
  | none => return ()
  | some message =>
    let entry ← entryAt index
    if entry.stopped then
      let _ ← closeDrainedLocalCallContext message
      return ()
    else
      match ← runHandler index message with
      | none => finishPanickedTurn index message.callContext
      | some effect => finishTurn index message.callContext effect

/-- Take at most one message from every live entry. -/
def collectRoundMessages : RuntimeM h Unit := do
  modify fun s => { s with roundMessages := [] }
  (List.range (← get).entries.length).forM fun index => do
    let entry ← entryAt index
    let message ←
      if entry.stopped || !entryHasPendingMessage entry then pure none
      else recvEntryMessage index
    modify fun s => { s with roundMessages := s.roundMessages ++ [message] }

def Runtime.canGcStoppedEntry (s : Runtime h) (entry : RegisteredEntry h) : Bool :=
  let address : RegisteredAddress :=
    { system := s.systemIncarnation, shard := s.shardId, isolate := entry.id,
      generation := entry.generation }
  entry.stopped && !s.childRecords.any (fun record =>
      (record.parent = entry.id ∧ record.remoteOwner = none) ∨ record.child = address) &&
    !s.supervisors.any (·.parent = address) &&
    !s.callTable.hasDriverCallForRequester address &&
    !s.callTable.hasIsolateCallForRequester address

/-- Positions as `rebuild_entry_indexes` writes them; a later entry wins. -/
def indexEntries (entries : List (RegisteredEntry h)) : IsolateId → Option Nat :=
  fun id => (List.range entries.length).reverse.find? fun index =>
    entries[index]?.any (·.id = id)

def gcStoppedEntries : RuntimeM h Unit :=
  modify fun s =>
    if s.hasStoppedEntries then
      let (removed, kept) := Lib.takeWhere s.canGcStoppedEntry s.entries
      { s with
        entries := kept
        hasStoppedEntries := kept.any (·.stopped)
        entryIndexes := if removed.isEmpty then s.entryIndexes else indexEntries kept }
    else s

def stepWithRemote : RuntimeM h Unit := do
  let now ← clockNow
  advanceDriver now
  harvestIsolateCallTimeouts now
  collectRoundMessages
  (List.range (← get).roundMessages.length).forM runTurn
  modify fun s => { s with roundMessages := [] }
  sweepDroppedDeferredSlots
  gcStoppedEntries

end Tina
