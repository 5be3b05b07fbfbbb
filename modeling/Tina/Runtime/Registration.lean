import Tina.Runtime.State

/-!
Registration and the address book: how isolates enter the registry, how messages enter
and leave an entry's queues, and how child records are looked up and created.
-/

namespace Tina

variable {h : Host}

/-- Append to the record of what happened. -/
def note (happening : Happening h) : RuntimeM h Unit :=
  modify (·.log happening)

/-- `self.entries[index]`, with the bounds check that unwinds. -/
def entryAt (index : Nat) : RuntimeM h (RegisteredEntry h) := do
  match (← get).entries[index]? with
  | some entry => return entry
  | none => throw .indexOutOfBounds

def setEntry (index : Nat) (entry : RegisteredEntry h) : RuntimeM h Unit :=
  modify (·.putEntry index entry)

def clockNow : RuntimeM h Instant := do
  let s ← get
  set { s with clockReads := s.clockReads + 1 }
  return h.clock s.clockReads

namespace Runtime

def entryIndex (s : Runtime h) (address : RegisteredAddress) : Option Nat :=
  if address.system ≠ s.systemIncarnation ∨ address.shard ≠ s.shardId then none
  else
    match s.entryIndexes address.isolate with
    | none => none
    | some index =>
      match s.entries[index]? with
      | none => none
      | some entry => if entry.generation = address.generation then some index else none

def entryByIsolate (s : Runtime h) (isolate : IsolateId) :
    Option (RegisteredEntry h) :=
  s.entries.find? (·.id = isolate)

def childRecordIndexByChild (s : Runtime h) (child : RegisteredAddress) : Option Nat :=
  s.childRecords.findIdx? fun record => record.child = child ∧ record.remoteOwner = none

/-- Same isolate on the same shard of the same system, whatever the generation. -/
def sameIsolate (child address : RegisteredAddress) : Bool :=
  address.system = child.system ∧ address.shard = child.shard ∧ address.isolate = child.isolate

def childRecordIndexForTerminal (s : Runtime h) (child : RegisteredAddress) : Option Nat :=
  match s.childRecordIndexByChild child with
  | some index => some index
  | none => s.childRecords.findIdx? fun record =>
      record.remoteOwner = none ∧ (sameIsolate child record.child ∨
          record.previousChild.any (sameIsolate child) = true)

def supervisorIndex (s : Runtime h) (parent : IsolateId) : Option Nat :=
  s.supervisors.findIdx? (·.parent.isolate = parent)

/-- The records of the children that `parent` itself spawned. -/
def ownedRecords (s : Runtime h) (parent : IsolateId) : List (ChildRecord h) :=
  s.childRecords.filter fun record => record.parent = parent ∧ record.remoteOwner = none

end Runtime

def enqueueEntryMessage (index : Nat) (message : h.Message)
    (callContext : Option MessageCallContext) :
    RuntimeM h (Except (TrySendError h.Message) Unit) := do
  let entry ← entryAt index
  match entry.mailbox.trySendBoxed message with
  | (.ok (), mailbox) =>
    setEntry index { entry with mailbox, callContexts := entry.callContexts ++ [callContext] }
    note (.accepted entry.id message callContext)
    return .ok ()
  | (.error error, mailbox) =>
    setEntry index { entry with mailbox }
    return .error error

/-- Overflowed continuations drain first; a mailbox message is paired with the head of
the call-context queue. -/
def recvEntryMessage (index : Nat) : RuntimeM h (Option (DeliveredMessage h)) := do
  let entry ← entryAt index
  match entry.continuationOverflow with
  | delivered :: rest =>
    setEntry index { entry with continuationOverflow := rest }
    return some delivered
  | [] =>
    match entry.mailbox.recvBoxed with
    | none => return none
    | some (message, mailbox) =>
      let delivered := { message, callContext := entry.callContexts.head?.join }
      setEntry index { entry with mailbox, callContexts := entry.callContexts.tail }
      note (.received entry.id delivered)
      return some delivered

def entryHasPendingMessage (entry : RegisteredEntry h) : Bool :=
  !entry.continuationOverflow.isEmpty || !entry.mailbox.isEmpty

inductive ContinuationDelivery where
  | mailbox
  | overflow

/-- Deliver a runtime-call continuation: mailbox first, priority overflow when full. -/
def enqueueCallContinuation (index : Nat) (message : h.Message)
    (callContext : Option MessageCallContext) :
    RuntimeM h (Except (TrySendError h.Message) ContinuationDelivery) := do
  let entry ← entryAt index
  match entry.mailbox.trySendBoxed message with
  | (.ok (), mailbox) =>
    setEntry index { entry with mailbox, callContexts := entry.callContexts ++ [callContext] }
    note (.accepted entry.id message callContext)
    return .ok .mailbox
  | (.error (.full message), mailbox) =>
    setEntry index { entry with
      mailbox
      continuationOverflow := entry.continuationOverflow ++
        [{ message := message, callContext := callContext }] }
    return .ok .overflow
  | (.error (.closed message), mailbox) =>
    setEntry index { entry with mailbox }
    return .error (.closed message)

def enqueueBootstrapMessage (child : RegisteredAddress) (message : h.Message) :
    RuntimeM h Unit := do
  match (← get).entries.findIdx? (fun entry =>
      entry.id = child.isolate ∧ entry.generation = child.generation) with
  | none => throw .unknownEntry
  | some index =>
    match ← enqueueEntryMessage index message none with
    | .ok () => return ()
    | .error _ => throw .bootstrapRejected

/-- A fresh entry at the end of the registry. -/
def registerEntryWithId (isolate : h.Isolate) (parent : Option IsolateId)
    (mailbox : AnyMailboxAdapter h.Message) (isolateId : IsolateId) :
    RuntimeM h RegisteredAddress := do
  let s ← get
  let entry : RegisteredEntry h := {
    id := isolateId, generation := 0, parent, stopped := false
    mailbox, callContexts := [], continuationOverflow := []
    isolate }
  set { s with
    entries := s.entries ++ [entry]
    entryIndexes := fun id => if id = isolateId then some s.entries.length
      else s.entryIndexes id }
  return { system := s.systemIncarnation, shard := s.shardId,
           isolate := isolateId, generation := 0 }

def nextIsolateId : RuntimeM h IsolateId := do
  let s ← get
  set { s with nextIsolateId := s.nextIsolateId + 1 }
  return s.nextIsolateId

def registerEntry (isolate : h.Isolate) (parent : Option IsolateId)
    (mailbox : AnyMailboxAdapter h.Message) : RuntimeM h RegisteredAddress := do
  let isolateId ← nextIsolateId
  registerEntryWithId isolate parent mailbox isolateId

def registerWithCapacity (isolate : h.Isolate) (mailboxCapacity : Nat) :
    RuntimeM h RegisteredAddress :=
  registerEntry isolate none (.new (.new mailboxCapacity))

/-- The bootstrap message is put into the mailbox before the entry exists, its empty
call context after; a refused bootstrap has already used up the isolate id. -/
def registerWithCapacityAndBootstrap (isolate : h.Isolate) (mailboxCapacity : Nat)
    (bootstrap : h.Message) : RuntimeM h (Except (TrySendError h.Message) RegisteredAddress) := do
  let isolateId ← nextIsolateId
  match (DefaultMailbox.new mailboxCapacity).trySend bootstrap with
  | .error error => return .error error
  | .ok mailbox =>
    let address ← registerEntryWithId isolate none (.new mailbox) isolateId
    match (← get).entryIndexes address.isolate with
    | none => throw .unknownEntry
    | some index =>
      let entry ← entryAt index
      setEntry index { entry with callContexts := entry.callContexts ++ [none] }
      note (.accepted entry.id bootstrap none)
      return .ok address

/-- `construct` receives the address; a panic there leaks the id and unwinds. -/
def registerWithCapacityUsing (mailboxCapacity : Nat)
    (construct : RegisteredAddress → Option h.Isolate) : RuntimeM h RegisteredAddress := do
  let isolateId ← nextIsolateId
  let s ← get
  let address := { system := s.systemIncarnation, shard := s.shardId,
                   isolate := isolateId, generation := 0 }
  match construct address with
  | none => throw .factoryPanicked
  | some isolate => registerEntryWithId isolate none (.new (.new mailboxCapacity)) isolateId

/-- Configure `parent` as a supervisor; `false` when it is not registered here. -/
def trySupervise (parent : RegisteredAddress) (policy : RestartPolicy)
    (budget : RestartBudget) : RuntimeM h Bool := do
  let s ← get
  let registered := parent.system = s.systemIncarnation ∧ parent.shard = s.shardId ∧
    (s.entryByIsolate parent.isolate).any (·.generation = parent.generation)
  if registered then
    let record : SupervisorRecord :=
      { parent, policy, budgetState := budget.tracker }
    match s.supervisors.findIdx? (·.parent = parent) with
    | some index => set { s with supervisors := s.supervisors.set index record }
    | none => set { s with supervisors := s.supervisors ++ [record] }
    return true
  else return false

structure SpawnOutcome (P : Payload) where
  child : RegisteredAddress
  mailboxCapacity : Nat
  restartRecipe : Option (RestartRecipe P)
  restartContinuation : Option (RegisteredAddress → P.Message)
  terminalContinuation : Option (P.StopResult → MappedTerminal P)
  terminalSlotReserved : Bool
  bootstrapMessage : Option P.Message

def spawnIsolate (parent : IsolateId) (isolate : h.Isolate) (mailboxCapacity : Nat)
    (bootstrapMessage : Option h.Message) : RuntimeM h (SpawnOutcome h) := do
  if mailboxCapacity = 0 then throw .zeroMailboxCapacity
  else
    let child ← registerEntry isolate (some parent) (.new (.new mailboxCapacity))
    return {
      child, mailboxCapacity, restartRecipe := none
      restartContinuation := none, terminalContinuation := none
      terminalSlotReserved := false, bootstrapMessage }

/-- The ordinals that the children of `parent` carry, on record or requested. -/
def Runtime.carriedOrdinals (s : Runtime h) (parent : IsolateId) : List Nat :=
  (s.ownedRecords parent).map (·.childOrdinal) ++
    (s.pendingRemoteSpawns.filter (·.requester.isolate = parent)).map
      (·.childOrdinal)

def noteOrdinal (parent : IsolateId) (ordinal : Nat) : RuntimeM h Unit := do
  note (.ordinalAssigned parent ordinal ((← get).carriedOrdinals parent))

def pushChildRecord (record : ChildRecord h) : RuntimeM h Unit :=
  modify fun s => { s with childRecords := s.childRecords ++ [record] }

/-- The ordinal is the number of records the parent owns now. -/
def recordChild (parent : IsolateId) (outcome : SpawnOutcome h) :
    RuntimeM h Unit := do
  let s ← get
  noteOrdinal parent (s.ownedRecords parent).length
  pushChildRecord {
    parent, child := outcome.child
    childOrdinal := (s.ownedRecords parent).length
    mailboxCapacity := outcome.mailboxCapacity, restartRecipe := outcome.restartRecipe
    restartContinuation := outcome.restartContinuation
    terminalContinuation := outcome.terminalContinuation
    terminalSlotReserved := outcome.terminalSlotReserved
    terminalSettledGeneration := none, previousChild := none, remoteRequestId := none
    remoteOwner := none, remoteRestartable := false, terminal := false }

/-- An owner-side record for a child on another shard. Nothing is recorded when the
owner already has a record with that ordinal. -/
def recordRemoteChildOnOwner (parent : IsolateId) (child : RegisteredAddress)
    (childOrdinal mailboxCapacity : Nat) (remoteRestartable : Bool) : RuntimeM h Unit := do
  let s ← get
  if (s.ownedRecords parent).any (·.childOrdinal = childOrdinal) then
    return ()
  else pushChildRecord {
    parent, child, childOrdinal
    mailboxCapacity, restartRecipe := none, restartContinuation := none
    terminalContinuation := none, terminalSlotReserved := false
    terminalSettledGeneration := none, previousChild := none, remoteRequestId := none
    remoteOwner := none, remoteRestartable, terminal := false }

/-- Register a child for `spawn_observed(..).on_shard(..)`: an ordinary owned child when
the owner is on this shard, a hosted child otherwise. -/
def registerRemoteChild (isolate : h.Isolate) (mailboxCapacity : Nat)
    (bootstrapMessage : Option h.Message) (owner : RegisteredAddress) (childOrdinal : Nat)
    (remoteRequestId : Option CallId) (remoteOwner : Option RegisteredAddress)
    (restartRecipe : Option (RestartRecipe h)) :
    RuntimeM h RegisteredAddress := do
  let s ← get
  let isLocal := owner.shard = s.shardId
  let child ← registerEntry isolate (if isLocal then some owner.isolate else none)
    (.new (.new mailboxCapacity))
  if isLocal then noteOrdinal owner.isolate childOrdinal
  pushChildRecord {
    parent := owner.isolate, child, childOrdinal
    mailboxCapacity, restartRecipe
    restartContinuation := none, terminalContinuation := none
    terminalSlotReserved := false, terminalSettledGeneration := none
    previousChild := none
    remoteRequestId := if isLocal then none else remoteRequestId
    remoteOwner := if isLocal then none else remoteOwner
    remoteRestartable := false, terminal := false }
  match bootstrapMessage with
  | none => return child
  | some message =>
    enqueueBootstrapMessage child message
    return child

end Tina
