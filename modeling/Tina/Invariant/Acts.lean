import Tina.Lib.ListUpdate
import Tina.Runtime.Remote

/-!
What a runtime can do to its state, one act at a time. Every method of the model is a
sequence of these acts, so an invariant is proved once for each act and then holds after
every method. An act is as large as it must be for the invariants to hold on both sides
of it: a reserved slot appears together with the record that holds it, a pending call
disappears together with its outcome.
-/

namespace Tina

variable {h : Host} {P : Payload}

/-- The event ends the isolate call `callId`. -/
def Happening.Ends (callId : CallId) : Happening P → Prop
  | .outcomeDelivered ended _ => ended = callId
  | .callCancelled ended _ => ended = callId
  | _ => False

/-- The event writes a terminal state into `handle`. -/
def Happening.Moves (handle : HandleId) : Happening P → Prop
  | .handleMoved moved _ => moved = handle
  | _ => False

/-- The context that a runtime call was started with. -/
def Happening.startedContext : Happening P → Option (Option MessageCallContext)
  | .callStarted _ continuationContext => some continuationContext
  | _ => none

/-- What writing `state` into an optional handle leaves in the history. -/
def handleEvents (handle : Option HandleId) (state : CallHandleState) : List (Happening P) :=
  handle.toList.map fun handle => .handleMoved handle state

def outcomeEvents (callId : CallId) (handle : Option HandleId) (outcome : CallOutcome P.Message)
    : List (Happening P) :=
  handleEvents handle .settled ++ [.outcomeDelivered callId outcome]

def cancelEvents (cause : CancelCause) (call : PendingIsolateCall P) :
    List (Happening P) :=
  handleEvents call.handleShared .cancelled ++ [.callCancelled call.callId cause]

namespace Runtime

/-- The isolate call is in the call table. -/
def Pending (s : Runtime h) (callId : CallId) : Prop :=
  s.callTable.isolate[callId]? ≠ none

def Ended (s : Runtime h) (callId : CallId) : Prop :=
  ∃ happening ∈ s.history, happening.Ends callId

/-- A local call context belongs to a call that is pending or has ended. -/
def Known (s : Runtime h) (callContext : Option MessageCallContext) : Prop :=
  ∀ callId, callContext = some (.localCaller callId) → s.Pending callId ∨ s.Ended callId

/-- The contexts of all runtime calls started so far, in order. -/
def started (s : Runtime h) : List (Option MessageCallContext) :=
  s.history.filterMap Happening.startedContext

/-- A continuation may carry the context: a call was started with it. -/
def Carried (s : Runtime h) (callContext : Option MessageCallContext) : Prop :=
  s.Known callContext ∧ callContext ∈ s.started

/-- An address on this shard of this system. -/
def Local (s : Runtime h) (address : RegisteredAddress) : Prop :=
  address.system = s.systemIncarnation ∧ address.shard = s.shardId

def addressOf (s : Runtime h) (isolate : IsolateId) : RegisteredAddress where
  system := s.systemIncarnation
  shard := s.shardId
  isolate
  generation := 0

/-- No record has this address of a registered isolate as its child. -/
def FreshChild (s : Runtime h) (address : RegisteredAddress) : Prop :=
  s.Local address ∧ address.generation = 0 ∧ address.isolate < s.nextIsolateId ∧
    ∀ record ∈ s.childRecords, record.child ≠ address

def Live (s : Runtime h) (isolate : IsolateId) : Prop :=
  ∃ entry ∈ s.entries, entry.id = isolate ∧ entry.stopped = false

def logAll (s : Runtime h) (happenings : List (Happening h)) : Runtime h :=
  { s with history := s.history ++ happenings }

def pushRecord (s : Runtime h) (record : ChildRecord h) : Runtime h :=
  { s with childRecords := s.childRecords ++ [record] }

/-- A new entry at the end of the registry, under the next isolate id. -/
def register (s : Runtime h) (entry : RegisteredEntry h) : Runtime h :=
  { s with
    nextIsolateId := s.nextIsolateId + 1
    entries := s.entries ++ [entry]
    entryIndexes := fun id => if id = s.nextIsolateId then some s.entries.length
      else s.entryIndexes id }

def logOrdinal (s : Runtime h) (record : ChildRecord h) : Runtime h :=
  s.log (.ordinalAssigned record.parent record.childOrdinal (s.carriedOrdinals record.parent))

/-- The handle cells after the optional `handle` is stamped. -/
def stamp (s : Runtime h) (handle : Option HandleId) (callId : CallId) : Runtime h :=
  { s with handles := fun id => if some id = handle then
      { s.handles id with callId := some callId, shardId := some s.shardId }
    else s.handles id }

/-- The handle cells after `state` is written into each of `handles`. -/
def moveHandles (s : Runtime h) (handles : List HandleId) (state : CallHandleState) :
    Runtime h :=
  { s with handles := fun id => if id ∈ handles then { s.handles id with state }
    else s.handles id }

end Runtime

def RegisteredEntry.accept (entry : RegisteredEntry P) (message : P.Message)
    (callContext : Option MessageCallContext) : RegisteredEntry P :=
  { entry with
    mailbox := entry.mailbox.push message
    callContexts := entry.callContexts ++ [callContext] }

def RegisteredEntry.reserve (entry : RegisteredEntry P) : RegisteredEntry P :=
  { entry with mailbox := entry.mailbox.withReserved (entry.mailbox.mailbox.reserved + 1) }

def RegisteredEntry.release (entry : RegisteredEntry P) : RegisteredEntry P :=
  { entry with mailbox := entry.mailbox.withReserved (entry.mailbox.mailbox.reserved - 1) }

/-- The reserved path: the mailbox grows, the call contexts do not. -/
def RegisteredEntry.deliver (entry : RegisteredEntry P) (message : P.Message) :
    RegisteredEntry P :=
  { entry with mailbox :=
    (entry.mailbox.withReserved (entry.mailbox.mailbox.reserved - 1)).push message }

def RegisteredEntry.close (entry : RegisteredEntry P) : RegisteredEntry P :=
  { entry with stopped := true, mailbox := entry.mailbox.close }

/-- A record's observation of one incarnation is settled. -/
def ChildRecord.settle (record : ChildRecord P) (generation : AddressGeneration) :
    ChildRecord P :=
  { record with terminalSettledGeneration := some generation, terminalSlotReserved := false }

/-- The record holds a reserved slot of `parent`'s mailbox. -/
def ChildRecord.holds (parent : IsolateId) (record : ChildRecord P) : Bool :=
  record.terminalSlotReserved && (record.parent = parent)

/-- What happens to one entry's queues, and what it leaves in the history. -/
inductive EntryStep (known : Option MessageCallContext → Prop) :
    RegisteredEntry P → RegisteredEntry P → List (Happening P) → Prop where
  | quiet {entry entry'} (hid : entry'.id = entry.id)
      (hgeneration : entry'.generation = entry.generation)
      (hstopped : entry'.stopped = entry.stopped)
      (hmailbox : entry.mailbox.SameMailbox entry'.mailbox)
      (hcontexts : entry'.callContexts = entry.callContexts)
      (hoverflow : entry'.continuationOverflow = entry.continuationOverflow) :
      EntryStep known entry entry' []
  | accept {entry} (message : P.Message) (callContext : Option MessageCallContext)
      (hopen : entry.mailbox.IsOpen) (hroom : entry.mailbox.HasRoom) (hknown : known callContext) :
      EntryStep known entry (entry.accept message callContext)
        [.accepted entry.id message callContext]
  | park {entry} (delivered : DeliveredMessage P) (hknown : known delivered.callContext) :
      EntryStep known entry { entry with
        continuationOverflow := entry.continuationOverflow ++ [delivered] } []
  | unpark {entry} (delivered : DeliveredMessage P) (rest : List (DeliveredMessage P))
      (hoverflow : entry.continuationOverflow = delivered :: rest) :
      EntryStep known entry { entry with continuationOverflow := rest } []
  | receive {entry} (message : P.Message) (rest : List P.Message)
      (hqueue : entry.mailbox.mailbox.queue = message :: rest) :
      EntryStep known entry { entry with
        mailbox := entry.mailbox.withQueue rest, callContexts := entry.callContexts.tail }
        [.received entry.id ⟨message, entry.callContexts.head?.join⟩]

namespace Runtime

/-- The record at `index` is settled, and the slot it held goes with it: released, or
spent on a delivery to the live parent. -/
inductive Settle (index : Nat) : Runtime h → Runtime h → Prop where
  | unreserved {s record} (generation : AddressGeneration)
      (hrecord : s.childRecords[index]? = some record)
      (hheld : record.terminalSlotReserved = false) :
      Settle index s (s.putRecord index (record.settle generation))
  | released {s record position parent} (generation : AddressGeneration)
      (hrecord : s.childRecords[index]? = some record) (hheld : record.terminalSlotReserved = true)
      (hparent : s.entries[position]? = some parent) (hid : parent.id = record.parent) :
      Settle index s (((s.putRecord index (record.settle generation)).putEntry position
        parent.release).log (.slotReleased parent.id))
  | delivered {s record position parent} (generation : AddressGeneration) (message : h.Message)
      (hrecord : s.childRecords[index]? = some record) (hheld : record.terminalSlotReserved = true)
      (hparent : s.entries[position]? = some parent) (hid : parent.id = record.parent)
      (hlive : parent.stopped = false) :
      Settle index s (((s.putRecord index (record.settle generation)).putEntry position
        (parent.deliver message)).log (.terminalDelivered parent.id message))

/-- The children on other shards that `isolate` owns. -/
def remoteChildren (s : Runtime h) (isolate : IsolateId) :
    List (RegisteredAddress × Nat) :=
  ((s.ownedRecords isolate).filter (·.child.shard ≠ s.shardId)).map
    fun record => (record.child, record.childOrdinal)

/-- The spawn requests of `isolate` that are still waited for. -/
def spawnsOf (s : Runtime h) (isolate : IsolateId) : List (PendingRemoteSpawn h) :=
  s.pendingRemoteSpawns.filter (·.requester.isolate = isolate)

def stopEvent (s : Runtime h) (isolate : IsolateId) (path : StopPath) :
    Happening h :=
  .stopped isolate path (s.remoteChildren isolate) ((s.spawnsOf isolate).map (·.requestId))

/-- The entry at `index` after `markStopped`. -/
def mark (s : Runtime h) (index : Nat) (entry : RegisteredEntry h) (path : StopPath)
    : Runtime h :=
  ({ s.putEntry index entry.close with hasStoppedEntries := true }).log (s.stopEvent entry.id path)

/-- What the cleanup before an isolate's own stop leaves at the end of the history: it
offered a cancel for every request in flight and a stop for every remote child. -/
def Cleaned (s : Runtime h) (isolate : IsolateId) : Prop :=
  ∃ before cleanup, s.history = before ++ cleanup ∧
    (∀ happening ∈ cleanup, ∃ envelope taken, happening = .routed envelope taken ∧
      ((∃ cancel, envelope = .spawnCancel cancel ∧ cancel.owner.isolate = isolate) ∨
        (∃ stop, envelope = .childStop stop ∧ stop.owner.isolate = isolate))) ∧
    (∀ child ∈ s.remoteChildren isolate, ∃ taken, .routed (.childStop
      { owner := s.ownerAddress isolate, child := child.1, childOrdinal := child.2 })
        taken ∈ cleanup) ∧
    (∀ pending ∈ s.spawnsOf isolate, .routed (.spawnCancel
      { requestId := pending.requestId, targetShard := pending.targetShard
        owner := s.ownerAddress isolate }) false ∈ cleanup)

/-- The records as `pruneTerminalChildRecords` leaves them. -/
def prune (s : Runtime h) (stopped : RegisteredAddress) : Runtime h :=
  { s with
    childRecords := (s.childRecords.map fun record =>
      if record.child = stopped then
        { record with
          terminal := true
          remoteRequestId := if s.keepsTerminalRecord record then record.remoteRequestId
            else none }
      else record).filter fun record =>
        record.child ≠ stopped || s.keepsTerminalRecord record }

/-- A call that can be entered into the table: its id is allocated and unused, its
handle, if any, has no stamp yet. -/
def Openable (s : Runtime h) (callId : CallId) (handle : Option HandleId) : Prop :=
  callId < s.nextCallId ∧ ¬ s.Pending callId ∧ ¬ s.Ended callId ∧
    ∀ id, handle = some id → (s.handles id).callId = none ∧ (s.handles id).shardId = none

def openCall (s : Runtime h) (call : PendingIsolateCall h) : Runtime h :=
  { s.stamp call.handleShared call.callId with
    callTable := { s.callTable with
      isolate := s.callTable.isolate.insert call.callId call
      isolateDeadlines :=
        s.callTable.isolateDeadlines.insert (call.deadline, call.insertionOrder) call.callId } }

/-- The part of the state that the end of some calls changes. -/
def endCalls (s : Runtime h) (table : CallTable h) (ring : List (CallId × CancelCause))
    (evictions : Nat) (slots : List DeferredSlotRecord) (handles : List HandleId)
    (state : CallHandleState) (happenings : List (Happening h)) : Runtime h :=
  ({ s with
    callTable := table, cancelledCalls := ring, cancelledCallCauseEvictions := evictions
    promotedSlots := slots }.moveHandles handles state).logAll happenings

end Runtime

/-- The replacement of a record's child. -/
structure ChildRecord.Rebinds {P : Payload} (record record' : ChildRecord P) : Prop where
  parent : record'.parent = record.parent
  childOrdinal : record'.childOrdinal = record.childOrdinal
  remoteOwner : record'.remoteOwner = record.remoteOwner
  terminalContinuation : record'.terminalContinuation = record.terminalContinuation

/-- Which part of the runtime an act belongs to. -/
inductive Kind where
  | queue
  | turn
  | call
  | start
  | answer
  | returned
  | net
  | register
  | own
  | host
  | restart
  | restartHosted
  | restartRemote
  | settle
  | stop
  | prune (stopped : RegisteredAddress)
  | request
  | reply
  | tombstone
  | supervise
  | collect
  | connect
deriving DecidableEq

/-- An act on queues, the round, the clock or the backend. -/
def Kind.IsQueue (kind : Kind) : Prop := kind = .queue

/-- One act of a runtime. -/
inductive Act : Kind → Runtime h → Runtime h → Prop where
  | entry {s index entry entry' happenings} (hentry : s.entries[index]? = some entry)
      (hstep : EntryStep s.Known entry entry' happenings) :
      Act .queue s ((s.putEntry index entry').logAll happenings)
  | round {s} (messages : List (Option (DeliveredMessage h)))
      (hknown : ∀ message, some message ∈ messages → s.Known message.callContext) :
      Act .queue s { s with roundMessages := messages }
  | turn {s} (isolate : IsolateId) (callContext : Option MessageCallContext) :
      Act .turn s (s.log (.turn isolate callContext))
  | continued {s} (callId : CallId) (callContext : Option MessageCallContext)
      (hstarted : callContext ∈ s.started) : Act .queue s (s.log (.continued callId callContext))
  | shard {s} (shard : h.Shard) : Act .queue s { s with shard }
  | clock {s} (reads ordinal : Nat) :
      Act .queue s { s with clockReads := reads, nextIsolateCallOrdinal := ordinal }
  | backend {s} (driver : h.Driver) (completions : List (DriverCompletion h))
      (budget : Nat) :
      Act .queue s { s with
        driver, pendingCompletions := completions
        driverCompletionDrainBudget := budget }
  | allocated {s} : Act .call s { s with nextCallId := s.nextCallId + 1 }
  | started {s} (callId : CallId) (callContext : Option MessageCallContext) :
      Act .start s (s.log (.callStarted callId callContext))
  | answered {s} (callContext : MessageCallContext) :
      Act .answer s (s.log (.answered callContext))
  | returned {s} (holding : Option MessageCallContext) (effect : ErasedEffect h)
      : Act .returned s (s.log (.returned holding effect))
  | driverCalls {s} (driver : Std.TreeMap CallId (DriverCall h))
      (hcarried : ∀ (callId : CallId) (call : DriverCall h), driver[callId]? = some call →
        s.Carried call.head.continuationContext) :
      Act .call s { s with callTable := { s.callTable with driver } }
  | opened {s} (call : PendingIsolateCall h)
      (hopenable : s.Openable call.callId call.handleShared)
      (hcarried : s.Carried call.continuationContext) : Act .call s (s.openCall call)
  -- A local call becomes pending together with its message.
  | openedLocally {s index entry} (message : h.Message) (call : PendingIsolateCall h)
      (hopenable : s.Openable call.callId call.handleShared)
      (hcarried : s.Carried call.continuationContext) (hentry : s.entries[index]? = some entry)
      (hopen : entry.mailbox.IsOpen) (hroom : entry.mailbox.HasRoom) :
      Act .call s (((s.putEntry index (entry.accept message (some (.localCaller call.callId)))).log
          (.accepted entry.id message (some (.localCaller call.callId)))).openCall call)
  | refused {s} (callId : CallId) (handle : Option HandleId) (outcome : CallOutcome h.Message)
      (hopenable : s.Openable callId handle) :
      Act .call s (((s.stamp handle callId).moveHandles handle.toList .settled).logAll
        (outcomeEvents callId handle outcome))
  | completed {s} (call : PendingIsolateCall h) (table : CallTable h)
      (outcome : CallOutcome h.Message) (ring : List (CallId × CancelCause)) (evictions : Nat)
      (slots : List DeferredSlotRecord) (hcall : s.callTable.isolate[call.callId]? = some call)
      (hdriver : table.driver = s.callTable.driver)
      (htable : ∀ id : CallId, table.isolate[id]? =
        if id = call.callId then none else s.callTable.isolate[id]?)
      (hslots : ∀ slot ∈ slots, slot ∈ s.promotedSlots) :
      Act .call s (s.endCalls table ring evictions slots call.handleShared.toList .settled
        (outcomeEvents call.callId call.handleShared outcome))
  | cancelled {s} (calls : List (PendingIsolateCall h)) (table : CallTable h)
      (cause : CancelCause) (ring : List (CallId × CancelCause)) (evictions : Nat)
      (slots : List DeferredSlotRecord)
      (hcalls : ∀ call ∈ calls, s.callTable.isolate[call.callId]? = some call)
      (hnodup : (calls.map (·.callId)).Nodup)
      (hdriver : ∀ (callId : CallId) call, table.driver[callId]? = some call →
        s.callTable.driver[callId]? = some call)
      (htable : ∀ id : CallId, table.isolate[id]? =
        if id ∈ calls.map (·.callId) then none else s.callTable.isolate[id]?)
      (hslots : ∀ slot ∈ slots, slot ∈ s.promotedSlots) :
      Act .call s (s.endCalls table ring evictions slots (calls.filterMap (·.handleShared))
        .cancelled (calls.flatMap (cancelEvents cause)))
  -- A handle that is stamped on another shard moves there, never here.
  | foreignHandle {s} (handle : HandleId) (cell : CallHandleShared)
      (hbefore : (s.handles handle).shardId ≠ some s.shardId)
      (hafter : cell.shardId ≠ some s.shardId) (hstamped : cell.callId ≠ none) :
      Act .call s { s with handles := fun id => if id = handle then cell else s.handles id }
  | slots {s} (promoted pending : List DeferredSlotRecord) (nextSlotId : Nat)
      (hknown : ∀ slot ∈ promoted ++ pending, s.Known (some slot.callContext)) :
      Act .call s { s with promotedSlots := promoted, pendingCaptures := pending, nextSlotId }
  | discarded {s} (callContext : MessageCallContext) (cause : DiscardCause)
      (hlocal : ∀ callId, callContext = .localCaller callId → ¬ s.Pending callId ∧ s.Ended callId)
      (hremote : ∀ callId requester expected,
        callContext = .remoteCaller callId requester expected → cause = .panicked →
        ∃ reason taken, .routed (.callReply callId requester (.rejected reason)) taken ∈
          s.history) :
      Act .call s (s.log (.discarded callContext cause))
  | routed {s} (envelope : QueuedRemoteEnvelope h)
      (answer : Except SendRejectedReason Unit) (net : h.Net)
      (hrequest : ∀ request, envelope ≠ .spawnRequest request)
      (hroute : h.route s.net s.shardId envelope = .ok (answer, net)) :
      Act .net s ({ s with net }.log (.routed envelope answer.isOk))
  | registered {s} (capacity : Nat) (entry : RegisteredEntry h)
      (hid : entry.id = s.nextIsolateId) (hgeneration : entry.generation = 0)
      (hstopped : entry.stopped = false) (hmailbox : entry.mailbox = .new (.new capacity))
      (hcontexts : entry.callContexts = []) (hoverflow : entry.continuationOverflow = []) :
      Act .register s (s.register entry)
  | skipped {s} : Act .register s { s with nextIsolateId := s.nextIsolateId + 1 }
  | owned {s} (record : ChildRecord h) (howner : record.remoteOwner = none)
      (hheld : record.terminalSlotReserved = false) (hfresh : s.FreshChild record.child) :
      Act .own s ((s.logOrdinal record).pushRecord record)
  -- The parent's slot is reserved together with the record that holds it.
  | observed {s index parent} (record : ChildRecord h)
      (howner : record.remoteOwner = none) (hheld : record.terminalSlotReserved = true)
      (hcontinuation : record.terminalContinuation.isSome = true)
      (hsettled : record.terminalSettledGeneration = none) (hfresh : s.FreshChild record.child)
      (hlive : s.Live record.child.isolate) (hparent : s.entries[index]? = some parent)
      (hid : parent.id = record.parent) (hopen : parent.mailbox.IsOpen)
      (hroom : parent.mailbox.HasRoom) :
      Act .own s ((((s.putEntry index parent.reserve).log (.slotReserved parent.id)).logOrdinal
        record).pushRecord record)
  | hosted {s} (record : ChildRecord h) (howner : record.remoteOwner ≠ none)
      (hheld : record.terminalSlotReserved = false)
      (hcontinuation : record.terminalContinuation = none) (hfresh : s.FreshChild record.child)
      : Act .host s (s.pushRecord record)
  | restarted {s index record} (record' : ChildRecord h)
      (hrecord : s.childRecords[index]? = some record) (hrebinds : record.Rebinds record')
      (hbefore : record.terminalSlotReserved = false) (hheld : record'.terminalSlotReserved = false)
      (hfresh : s.FreshChild record'.child) :
      Act .restart s ((s.putRecord index record').log (.restartedHere record.remoteOwner))
  | restartedObserved {s index position record parent} (record' : ChildRecord h)
      (hrecord : s.childRecords[index]? = some record) (hrebinds : record.Rebinds record')
      (hbefore : record.terminalSlotReserved = false) (hheld : record'.terminalSlotReserved = true)
      (howner : record.remoteOwner = none)
      (hcontinuation : record.terminalContinuation.isSome = true)
      (hsettled : record'.terminalSettledGeneration = none) (hfresh : s.FreshChild record'.child)
      (hlive : s.Live record'.child.isolate) (hparent : s.entries[position]? = some parent)
      (hid : parent.id = record.parent) (hopen : parent.mailbox.IsOpen)
      (hroom : parent.mailbox.HasRoom) :
      Act .restart s ((((s.putEntry position parent.reserve).log
        (.slotReserved parent.id)).putRecord index record').log (.restartedHere record.remoteOwner))
  | restartedHosted {s index record} (record' : ChildRecord h)
      (hrecord : s.childRecords[index]? = some record) (hrebinds : record.Rebinds record')
      (howner : record.remoteOwner ≠ none)
      (hheld : record'.terminalSlotReserved = record.terminalSlotReserved)
      (hfresh : s.FreshChild record'.child) :
      Act .restartHosted s (s.putRecord index record')
  | restartedRemotely {s index record} (child : RegisteredAddress)
      (hrecord : s.childRecords[index]? = some record) (hbefore : ¬ s.Local record.child)
      (hafter : ¬ s.Local child) :
      Act .restartRemote s (s.putRecord index { record with child, terminal := false })
  -- A reservation that is given back because the spawn or restart failed.
  | unreserved {s : Runtime h} {index : Nat} {parent : RegisteredEntry h}
      (hparent : s.entries[index]? = some parent) :
      Act .settle s (s.logAll [.slotReserved parent.id, .slotReleased parent.id])
  | settled {s t index} (hsettle : Runtime.Settle index s t) :
      Act .settle s t
  -- Marked as stopped, with its parent's observation settled.
  | stopped {s t index entry} (path : StopPath) (hentry : s.entries[index]? = some entry)
      (hlive : entry.stopped = false) (hcleaned : path = .ownTurn → s.Cleaned entry.id)
      (hsettle : (t = s.mark index entry path ∧ ∀ record ∈ s.childRecords,
          record.terminalSlotReserved = true → record.child ≠ s.addressOf entry.id) ∨
        (∃ position record, s.childRecords[position]? = some record ∧
          record.child = s.addressOf entry.id ∧ record.remoteOwner = none ∧
          Runtime.Settle position (s.mark index entry path) t)) :
      Act .stop s t
  | pruned {s} (stopped : RegisteredAddress) (hlocal : s.Local stopped)
      (hstopped : ¬ s.Live stopped.isolate) : Act (.prune stopped) s (s.prune stopped)
  | requested {s} (pending : PendingRemoteSpawn h) (spawn : ErasedSpawn h)
      (net : h.Net) (hid : pending.requestId < s.nextCallId)
      (hfresh : ∀ request taken, .routed (.spawnRequest request) taken ∈ s.history →
        request.requestId ≠ pending.requestId)
      (hroute : h.route s.net s.shardId (.spawnRequest
        { requestId := pending.requestId, targetShard := pending.targetShard
          owner := pending.requester, childOrdinal := pending.childOrdinal
          payload := spawn }) = .ok (.ok (), net)) :
      Act .request s (({ s.log (.ordinalAssigned pending.requester.isolate
          pending.childOrdinal (s.carriedOrdinals pending.requester.isolate)) with
        pendingRemoteSpawns := s.pendingRemoteSpawns ++ [pending]
        net }).log (.routed (.spawnRequest
          { requestId := pending.requestId, targetShard := pending.targetShard
            owner := pending.requester, childOrdinal := pending.childOrdinal
            payload := spawn }) true))
  | requestRefused {s} (request : RemoteSpawnRequest h) (reason : SendRejectedReason)
      (net : h.Net) (hid : request.requestId < s.nextCallId)
      (hroute : h.route s.net s.shardId (.spawnRequest request) = .ok (.error reason, net)) :
      Act .request s (({ s.log (.ordinalAssigned request.owner.isolate request.childOrdinal
          (s.carriedOrdinals request.owner.isolate)) with
        net }).log (.routed (.spawnRequest request) false))
  | requestsCancelled {s} (keep : PendingRemoteSpawn h → Bool)
      (hcancelled : ∀ pending ∈ s.pendingRemoteSpawns, keep pending = false →
        ∃ cancel, .routed (.spawnCancel cancel) true ∈ s.history ∧
          cancel.requestId = pending.requestId) :
      Act .request s { s with pendingRemoteSpawns := s.pendingRemoteSpawns.filter keep }
  | replied {s : Runtime h} {position : Nat} {pending : PendingRemoteSpawn h}
      (hpending : s.pendingRemoteSpawns[position]? = some pending) :
      Act .reply s ({ s with pendingRemoteSpawns := s.pendingRemoteSpawns.eraseIdx position }.log
          (.spawnSettled pending.requestId))
  | adopted {s : Runtime h} {position : Nat} {pending : PendingRemoteSpawn h}
      (record : ChildRecord h)
      (hpending : s.pendingRemoteSpawns[position]? = some pending)
      (hparent : record.parent = pending.requester.isolate)
      (hordinal : record.childOrdinal = pending.childOrdinal) (howner : record.remoteOwner = none)
      (hheld : record.terminalSlotReserved = false) (hchild : ¬ s.Local record.child)
      (hfree : ∀ other ∈ s.ownedRecords record.parent, other.childOrdinal ≠ record.childOrdinal) :
      Act .reply s (({ s with pendingRemoteSpawns := s.pendingRemoteSpawns.eraseIdx position }.log
          (.spawnSettled pending.requestId)).pushRecord record)
  | tombstones {s} (tombstones : List CallId) (full capacity : Nat) :
      Act .tombstone s { s with
        remoteSpawnCancelTombstones := tombstones, remoteChildControlFull := full
        remoteChildControlCapacity := capacity }
  | supervised {s} (supervisors : List SupervisorRecord) :
      Act .supervise s { s with supervisors }
  | collected {s} (kept : List (RegisteredEntry h)) (indexes : IsolateId → Option Nat)
      (flag : Bool) (hkept : kept.Perm (s.entries.filter (!s.canGcStoppedEntry ·)))
      (hindexes : ∀ id index, indexes id = some index ↔
        ∃ entry, kept[index]? = some entry ∧ entry.id = id) :
      Act .collect s { s with entries := kept, entryIndexes := indexes, hasStoppedEntries := flag }
  -- Between two steps other shards use the transport and the shared call-id counter.
  | connected {s} (net : h.Net) (next : Nat) (hnext : s.nextCallId ≤ next) :
      Act .connect s { s with net, nextCallId := next }

end Tina
