import Tina.Runtime.Calls

/-!
How an isolate stops. `stopEntryFull` is the one routine every stop goes through: it
closes the mailbox, settles the parent's terminal observation, releases what the isolate
held as a parent, prunes its child record, and gives up its deferred callers, its calls
and its queued messages.
-/

namespace Tina

variable {h : Host}

/-- Apply `f` to the child record at `index`; an index out of bounds unwinds. -/
def updateRecord (index : Nat) (f : ChildRecord h → ChildRecord h) :
    RuntimeM h Unit := do
  let s ← get
  match s.childRecords[index]? with
  | none => throw .indexOutOfBounds
  | some record => set (s.putRecord index (f record))

def recordAt (index : Nat) : RuntimeM h (ChildRecord h) := do
  match (← get).childRecords[index]? with
  | none => throw .indexOutOfBounds
  | some record => return record

/-- Set one future delivery slot of the parent's mailbox aside. -/
def tryReserveTerminalSlot (parent : IsolateId) :
    RuntimeM h (Except MailboxReservationError Unit) := do
  match (← get).entries.findIdx? (·.id = parent) with
  | none => return .error .closed
  | some index =>
    let entry ← entryAt index
    if entry.stopped then return .error .closed
    else
      match entry.mailbox.tryReserveSlot with
      | (.ok (), mailbox) =>
        setEntry index { entry with mailbox }
        note (.slotReserved entry.id)
        return .ok ()
      | (.error error, mailbox) =>
        setEntry index { entry with mailbox }
        return .error error

def releaseReservedSlot (index : Nat) : RuntimeM h Unit := do
  let entry ← entryAt index
  setEntry index { entry with mailbox := entry.mailbox.releaseReservedSlot }
  note (.slotReleased entry.id)

def releaseTerminalSlot (parent : IsolateId) : RuntimeM h Unit := do
  match (← get).entries.findIdx? (·.id = parent) with
  | none => return ()
  | some index => releaseReservedSlot index

/-- Hand a mapped terminal message to the parent: into the reserved slot if there is
one, as an ordinary local send otherwise. The reserved path pushes the mailbox
directly. -/
def deliverTerminal (parent : IsolateId) (hadReservation : Bool) (message : h.Message) :
    RuntimeM h Unit := do
  let s ← get
  match s.entryIndexes parent with
  | none => return ()
  | some parentIndex =>
    let entry ← entryAt parentIndex
    if entry.stopped then
      if hadReservation then releaseReservedSlot parentIndex else return ()
    else if hadReservation then
      match entry.mailbox.trySendReservedBoxed message with
      | (.ok (), mailbox) =>
        setEntry parentIndex { entry with mailbox }
        note (.terminalDelivered entry.id message)
      | (.error _, mailbox) =>
        setEntry parentIndex { entry with mailbox }
        note (.terminalLost entry.id message)
    else
      let _ ← dispatchLocalSend {
        targetSystem := s.systemIncarnation, targetShard := s.shardId
        targetIsolate := parent, targetGeneration := entry.generation
        message }
      return ()

/-- Settle a child's terminal observation, once for each incarnation. -/
def settleChildTerminalObservation (child : RegisteredAddress)
    (result : Option h.StopResult) : RuntimeM h Unit := do
  match (← get).childRecordIndexForTerminal child with
  | none => return ()
  | some recordIndex =>
    let record ← recordAt recordIndex
    let isCurrentIsolate := Runtime.sameIsolate child record.child
    let isPrevious := record.previousChild.any (Runtime.sameIsolate child)
    if record.terminalContinuation.isNone ∧ record.terminalSlotReserved = false then
      return ()
    else if isPrevious ∧ isCurrentIsolate = false then return ()
    else if record.terminalSettledGeneration = some child.generation then return ()
    else if isCurrentIsolate ∧ record.child.generation ≠ child.generation then return ()
    else if isCurrentIsolate = false then return ()
    else
      -- Marked as settled before anything is delivered.
      updateRecord recordIndex fun record => { record with
        terminalSettledGeneration := some child.generation, terminalSlotReserved := false }
      let release : RuntimeM h Unit :=
        if record.terminalSlotReserved then releaseTerminalSlot record.parent else return ()
      match record.terminalContinuation, result with
      | none, _ => release
      | some _, none => release
      | some mapper, some result =>
        match mapper result with
        | .mismatch => release
        | .panicked => release
        | .message message =>
          deliverTerminal record.parent record.terminalSlotReserved message

/-- Release a record's terminal reservation without delivering anything. -/
def disposeChildTerminalReservation (recordIndex : Nat) : RuntimeM h Unit := do
  let record ← recordAt recordIndex
  if record.terminalSlotReserved = false ∧ record.terminalContinuation.isNone then return ()
  else if record.terminalSettledGeneration = some record.child.generation then return ()
  else
    updateRecord recordIndex fun record => { record with
      terminalSettledGeneration := some record.child.generation
      terminalSlotReserved := false }
    if record.terminalSlotReserved then releaseTerminalSlot record.parent else return ()

/-- Whether a record still has a terminal observation to settle. -/
def ChildRecord.unsettledTerminal {P : Payload} (record : ChildRecord P) : Bool :=
  (record.terminalSlotReserved || record.terminalContinuation.isSome) &&
    record.terminalSettledGeneration ≠ some record.child.generation

/-- Positions of the records that `p` accepts. -/
def Runtime.recordIndexes (s : Runtime h) (p : ChildRecord h → Bool) : List Nat :=
  (List.range s.childRecords.length).filter fun index => s.childRecords[index]?.any p

def disposeParentTerminalReservations (parent : IsolateId) : RuntimeM h Unit := do
  ((← get).recordIndexes fun record =>
    record.parent = parent ∧ record.remoteOwner = none ∧ record.unsettledTerminal).forM
      disposeChildTerminalReservation

def disposeAllTerminalReservationsOnShutdown : RuntimeM h Unit := do
  ((← get).recordIndexes (·.unsettledTerminal)).forM
    disposeChildTerminalReservation

/-- Whether the record of a stopped child is kept: it can be restarted, or its parent is
supervised here. -/
def Runtime.keepsTerminalRecord (s : Runtime h) (record : ChildRecord h) : Bool :=
  record.restartRecipe.isSome || record.remoteRestartable ||
    s.supervisors.any (·.parent.isolate = record.parent)

def pruneTerminalChildRecords (stopped : RegisteredAddress) : RuntimeM h Unit :=
  modify fun s => { s with
    childRecords := (s.childRecords.map fun record =>
      if record.child = stopped then
        { record with
          terminal := true
          remoteRequestId := if s.keepsTerminalRecord record then record.remoteRequestId
            else none }
      else record).filter fun record =>
        record.child ≠ stopped || s.keepsTerminalRecord record }

/-- A captured caller as the context it was captured from. -/
def DeferredSlotRecord.callContext (slot : DeferredSlotRecord) : MessageCallContext :=
  match slot.routing with
  | .localCaller => .localCaller slot.callId
  | .remoteCaller requester => .remoteCaller slot.callId requester slot.expectedReplyTypeId

/-- Both routings are settled through this shard's own call table. -/
def dropPromotedDeferredSlot (slot : DeferredSlotRecord) : RuntimeM h Unit := do
  if slot.isOpen = false then return ()
  else
    let _ ← completeIsolateCall slot.callId .closed
    note (.discarded slot.callContext .slotDropped)

def takePromotedSlots (p : DeferredSlotRecord → Bool) :
    RuntimeM h (List DeferredSlotRecord) := do
  let s ← get
  let (taken, rest) := Lib.takeWhere p s.promotedSlots
  set { s with promotedSlots := rest }
  return taken

/-- Give up every message still queued at a stopped entry. -/
def drainStoppedEntry (index : Nat) : Nat → RuntimeM h Unit
  | 0 => throw .diverges
  | fuel + 1 => do
    match ← recvEntryMessage index with
    | none => return ()
    | some message =>
      let _ ← closeDrainedLocalCallContext message
      drainStoppedEntry index fuel

/-- Close the mailbox and mark the entry, with a record of what the isolate owned. -/
def markStopped (index : Nat) (path : StopPath) : RuntimeM h Unit := do
  let entry ← entryAt index
  setEntry index { entry with stopped := true, mailbox := entry.mailbox.close }
  modify fun s => { s with hasStoppedEntries := true }
  let s ← get
  note (.stopped entry.id path
    (((s.ownedRecords entry.id).filter (·.child.shard ≠ s.shardId)).map
      fun record => (record.child, record.childOrdinal))
    ((s.pendingRemoteSpawns.filter (·.requester.isolate = entry.id)).map
      (·.requestId)))

def closePrecollected (precollected : Option (DeliveredMessage h)) :
    RuntimeM h Unit := do
  match precollected with
  | none => return ()
  | some message =>
    let _ ← closeDrainedLocalCallContext message
    return ()

def stopEntryFull (index : Nat) (isolateId : IsolateId) (path : StopPath)
    (precollected : Option (DeliveredMessage h)) (result : Option h.StopResult) :
    RuntimeM h Unit := do
  let entry ← entryAt index
  let s ← get
  let address : RegisteredAddress :=
    { system := s.systemIncarnation, shard := s.shardId, isolate := isolateId,
      generation := entry.generation }
  if entry.stopped then
    closePrecollected precollected
    settleChildTerminalObservation address result
  else
    markStopped index path
    settleChildTerminalObservation address result
    disposeParentTerminalReservations isolateId
    pruneTerminalChildRecords address
    let slots ← takePromotedSlots (·.capturingIsolate = isolateId)
    slots.forM dropPromotedDeferredSlot
    cancelDriverCallsForRequester address
    cancelPendingIsolateCallsForOwner isolateId entry.generation
    closePrecollected precollected
    let entry ← entryAt index
    drainStoppedEntry index
      (entry.continuationOverflow.length + entry.mailbox.mailbox.queue.length + 1)

def stopEntry (index : Nat) (isolateId : IsolateId) (path : StopPath) : RuntimeM h Unit :=
  stopEntryFull index isolateId path none none

def stopEntryWithPrecollected (index : Nat) (isolateId : IsolateId) (path : StopPath)
    (precollected : Option (DeliveredMessage h)) : RuntimeM h Unit :=
  stopEntryFull index isolateId path precollected none

def stopEntryWithResult (index : Nat) (isolateId : IsolateId) (path : StopPath)
    (result : h.StopResult) : RuntimeM h Unit :=
  stopEntryFull index isolateId path none (some result)

/-- `round_messages.get_mut(index).and_then(Option::take)`. -/
def takeRoundMessage (index : Nat) : RuntimeM h (Option (DeliveredMessage h)) := do
  let s ← get
  set { s with roundMessages := s.roundMessages.set index none }
  return s.roundMessages[index]?.join

end Tina
