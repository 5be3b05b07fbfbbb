import Tina.Runtime.Dispatch

/-!
Spawning, restarting, stopping and supervising children, on this shard and on others.
-/

namespace Tina

variable {h : Host}

/-- Run a recipe's factories. `none` is the unwind that the callers catch. -/
def RestartRecipe.build {P : Payload} (recipe : RestartRecipe P) :
    Option (P.Isolate × Option P.Message) :=
  match recipe.factory, recipe.bootstrapFactory with
  | none, _ => none
  | some isolate, none => some (isolate, none)
  | some _, some none => none
  | some isolate, some (some message) => some (isolate, some message)

/-- `Spawn`: a panicking factory and a zero capacity both take the shard down. -/
def spawnChild (spawn : ErasedSpawn h) (parent : IsolateId) :
    RuntimeM h (SpawnOutcome h) := do
  match spawn with
  | .child isolate capacity bootstrap => spawnIsolate parent isolate capacity bootstrap
  | .restartable recipe =>
    match recipe.build with
    | none => throw .factoryPanicked
    | some (isolate, bootstrap) =>
      let outcome ← spawnIsolate parent isolate recipe.mailboxCapacity bootstrap
      return { outcome with restartRecipe := some recipe }

/-- `SpawnObserved`: the same two conditions are typed errors. -/
def trySpawnObserved (spawn : ErasedSpawn h) (parent : IsolateId) :
    RuntimeM h (Except SpawnObservedError (SpawnOutcome h)) := do
  if spawn.mailboxCapacity = 0 then return .error .zeroMailboxCapacity
  else
    match spawn with
    | .child isolate capacity bootstrap =>
      return .ok (← spawnIsolate parent isolate capacity bootstrap)
    | .restartable recipe =>
      match recipe.build with
      | none => return .error .factoryPanicked
      | some (isolate, bootstrap) =>
        let outcome ← spawnIsolate parent isolate recipe.mailboxCapacity bootstrap
        return .ok { outcome with restartRecipe := some recipe }

def reservationError : MailboxReservationError → SpawnObservedError
  | .full => .parentMailboxFull
  | .closed => .parentMailboxClosed
  | .unsupported => .parentMailboxReservationsUnsupported

/-- Reserve the parent's slot first, if the spawn observes the child's result, and give
it back when the spawn fails. Returns what was spawned and the parent's continuation. -/
def spawnObserved (spec : SpawnObserved h) (parent : IsolateId) :
    RuntimeM h (Option (SpawnOutcome h) × h.Message) := do
  let reservation : Except MailboxReservationError Bool ←
    if spec.terminalContinuation.isSome then do
      match ← tryReserveTerminalSlot parent with
      | .ok () => pure (.ok true)
      | .error error => pure (.error error)
    else pure (.ok false)
  match reservation with
  | .error error => return (none, spec.continuation (.error (reservationError error)))
  | .ok reserved =>
    match ← trySpawnObserved spec.spawn parent with
    | .ok outcome =>
      return (some { outcome with
        restartContinuation := spec.restartContinuation
        terminalContinuation := spec.terminalContinuation
        terminalSlotReserved := reserved },
        spec.continuation (.ok outcome.child))
    | .error error =>
      if reserved then releaseTerminalSlot parent
      return (none, spec.continuation (.error error))

/-- `spawn_remote`, on the shard that is to hold the child. -/
def spawnRemote (spawn : ErasedSpawn h) (owner : RegisteredAddress)
    (childOrdinal : Nat) (requestId : Option CallId) :
    RuntimeM h (Except SpawnObservedError RegisteredAddress) := do
  let s ← get
  let remoteOwner := if owner.shard ≠ s.shardId then some owner else none
  if spawn.mailboxCapacity = 0 then return .error .zeroMailboxCapacity
  else
    match spawn with
    | .child isolate capacity bootstrap =>
      return .ok (← registerRemoteChild isolate capacity bootstrap owner childOrdinal
        requestId remoteOwner none)
    | .restartable recipe =>
      match recipe.build with
      | none => return .error .factoryPanicked
      | some (isolate, bootstrap) =>
        return .ok (← registerRemoteChild isolate recipe.mailboxCapacity bootstrap owner
          childOrdinal requestId remoteOwner (some recipe))

/-- `create`: rebuild a child for `parent`; `none` when something unwinds. -/
def RestartRecipe.create (recipe : RestartRecipe h) (parent : IsolateId) :
    RuntimeM h (Option (SpawnOutcome h)) := do
  match recipe.build with
  | none => return none
  | some (isolate, bootstrap) =>
    if recipe.mailboxCapacity = 0 then return none
    else return some (← spawnIsolate parent isolate recipe.mailboxCapacity bootstrap)

def deliverObservedContinuation (owner : RegisteredAddress) (message : h.Message) :
    RuntimeM h Unit := do
  let s ← get
  if owner.system = s.systemIncarnation ∧ owner.shard = s.shardId then
    match s.entryIndex owner with
    | some index =>
      let _ ← enqueueCallContinuation index message none
      return ()
    | none => return ()
  else
    let _ ← dispatchLocalSend {
      targetSystem := owner.system, targetShard := owner.shard
      targetIsolate := owner.isolate, targetGeneration := owner.generation
      message }
    return ()

/-- Stop a child that is still running, with the message this round already took from
its queues. -/
def stopRunningChild (child : RegisteredAddress) (path : StopPath) : RuntimeM h Unit := do
  match (← get).entryIndex child with
  | none => return ()
  | some index =>
    let entry ← entryAt index
    if entry.stopped then return ()
    else
      let precollected ← takeRoundMessage index
      stopEntryWithPrecollected index child.isolate path precollected

/-- Replace the child of one record: stop it, reserve the parent's slot again if its
result is observed, build the replacement and rebind the record. -/
def restartChildRecord (parent : IsolateId) (recordIndex : Nat) : RuntimeM h Unit := do
  match (← get).entryByIsolate parent with
  | none => return ()
  | some parentEntry =>
    let record ← recordAt recordIndex
    match record.restartRecipe with
    | none => return ()
    | some recipe =>
      stopRunningChild record.child .restart
      let stopped ← recordAt recordIndex
      let reservation : Except MailboxReservationError Bool ←
        if stopped.terminalContinuation.isSome then do
          match ← tryReserveTerminalSlot parent with
          | .ok () => pure (.ok true)
          | .error error => pure (.error error)
        else pure (.ok false)
      match reservation with
      | .error _ => return ()
      | .ok reserved =>
        match ← recipe.create parent with
        | none => if reserved then releaseTerminalSlot parent
        | some outcome =>
          updateRecord recordIndex fun record => { record with
            previousChild := some record.child, child := outcome.child
            mailboxCapacity := outcome.mailboxCapacity, terminal := false
            terminalSlotReserved := reserved, terminalSettledGeneration := none
            restartRecipe := some recipe }
          note (.restartedHere record.remoteOwner)
          match outcome.bootstrapMessage with
          | none => pure ()
          | some message => enqueueBootstrapMessage outcome.child message
          match (← recordAt recordIndex).restartContinuation with
          | none => return ()
          | some continuation =>
            let s ← get
            deliverObservedContinuation
              { system := s.systemIncarnation, shard := s.shardId, isolate := parent,
                generation := parentEntry.generation }
              (continuation outcome.child)

/-- The address a remote shard knows `parent` by. -/
def Runtime.ownerAddress (s : Runtime h) (parent : IsolateId) : RegisteredAddress where
  system := s.systemIncarnation
  shard := s.shardId
  isolate := parent
  generation := ((s.entryByIsolate parent).map (·.generation)).getD 0

def requestRemoteChildRestart (parent : IsolateId) (child : RegisteredAddress)
    (childOrdinal : Nat) : RuntimeM h Unit := do
  let s ← get
  match s.entryByIsolate parent with
  | none => return ()
  | some _ =>
    let _ ← routeRemote (.childRestart
      { owner := s.ownerAddress parent, child, childOrdinal })
    return ()

/-- Restart every child that `parent` spawned; hosted records are not looked at. -/
def restartChildren (parent : IsolateId) : RuntimeM h Unit := do
  (List.range (← get).childRecords.length).forM fun recordIndex => do
    let s ← get
    let record ← recordAt recordIndex
    if record.parent = parent ∧ record.remoteOwner = none then
      if record.child.shard ≠ s.shardId then
        if record.remoteRestartable then
          requestRemoteChildRestart parent record.child record.childOrdinal
      else restartChildRecord parent recordIndex

def requestRemoteChildStop (parent : IsolateId) (child : RegisteredAddress)
    (childOrdinal : Nat) : RuntimeM h Unit := do
  let s ← get
  let _ ← routeRemote (.childStop
    { owner := s.ownerAddress parent, child, childOrdinal })
  return ()

def stopChildren (parent : IsolateId) : RuntimeM h Unit := do
  ((← get).ownedRecords parent).forM fun record => do
    if record.child.shard ≠ (← get).shardId then
      requestRemoteChildStop parent record.child record.childOrdinal
    else stopRunningChild record.child .stopChildren

/-- Records and requests in flight both count. -/
def Runtime.nextChildOrdinal (s : Runtime h) (parent : IsolateId) : Nat :=
  (s.ownedRecords parent).length +
    (s.pendingRemoteSpawns.filter (·.requester.isolate = parent)).length

/-- Offer a cancel for each request of `parent` in flight, and say which were taken. -/
def cancelRemoteSpawns (owner : RegisteredAddress) :
    List (CallId × ShardId) → RuntimeM h (List CallId)
  | [] => return []
  | (requestId, targetShard) :: rest => do
    let routed ← routeRemote (.spawnCancel
      { requestId := requestId, targetShard := targetShard, owner := owner })
    let cancelled ← cancelRemoteSpawns owner rest
    match routed with
    | .ok () => return requestId :: cancelled
    | .error _ => return cancelled

def cleanupRemoteChildrenForOwner (parent : IsolateId) : RuntimeM h Unit := do
  let s ← get
  let cancelled ← cancelRemoteSpawns (s.ownerAddress parent)
    ((s.pendingRemoteSpawns.filter (·.requester.isolate = parent)).map
      fun pending => (pending.requestId, pending.targetShard))
  modify fun s => { s with
    pendingRemoteSpawns := s.pendingRemoteSpawns.filter fun pending =>
      pending.requester.isolate ≠ parent ∨ pending.requestId ∉ cancelled }
  let s ← get
  ((s.ownedRecords parent).filter (·.child.shard ≠ s.shardId)).forM
    fun record => requestRemoteChildStop parent record.child record.childOrdinal

def superviseFailedChild (failedChild : RegisteredAddress) : RuntimeM h Unit := do
  let s ← get
  match s.childRecordIndexByChild failedChild with
  | none => return ()
  | some failedIndex =>
    let failed ← recordAt failedIndex
    match s.supervisorIndex failed.parent with
    | none => return ()
    | some supervisorIndex =>
      match s.supervisors[supervisorIndex]? with
      | none => throw .indexOutOfBounds
      | some supervisor =>
        if (s.entryByIsolate failed.parent).any (·.stopped) then return ()
        else
          let now ← clockNow
          match supervisor.budgetState.recordRestartAt now with
          | none => return ()
          | some budgetState =>
            modify fun s => { s with
              supervisors := s.supervisors.set supervisorIndex
                { supervisor with budgetState } }
            (List.range (← get).childRecords.length).forM fun recordIndex => do
              let record ← recordAt recordIndex
              -- Only the parent id is compared here.
              if record.parent = failed.parent ∧ supervisor.policy.restarts
                    (.fromOrdinals record.childOrdinal failed.childOrdinal) then
                restartChildRecord failed.parent recordIndex

end Tina
