import Tina.Runtime.Step

/-!
The harvest side of the transport: what a shard does with an envelope that another shard
sent it. Every harvest may answer with one envelope of its own.
-/

namespace Tina

variable {h : Host}

def remoteCallOutcomeEnvelope {P : Payload} (context : Option MessageCallContext)
    (outcome : RemoteCallOutcome P) : Option (QueuedRemoteEnvelope P) :=
  match context with
  | some (.remoteCaller callId requester _) => some (.callReply callId requester outcome)
  | _ => none

def harvestRemoteSend (send : ErasedSend h) (callContext : Option MessageCallContext) :
    RuntimeM h (Option (QueuedRemoteEnvelope h)) := do
  let s ← get
  if send.targetSystem ≠ s.systemIncarnation then
    return remoteCallOutcomeEnvelope callContext
      (.rejected (.foreignSystem s.systemIncarnation send.targetSystem))
  else
    match s.entryIndexes send.targetIsolate with
    | none => return remoteCallOutcomeEnvelope callContext .closed
    | some index =>
      let entry ← entryAt index
      if entry.generation ≠ send.targetGeneration then
        return remoteCallOutcomeEnvelope callContext .closed
      else
        match ← enqueueEntryMessage index send.message callContext with
        | .ok () => return none
        | .error (.full _) => return remoteCallOutcomeEnvelope callContext .full
        | .error (.closed _) => return remoteCallOutcomeEnvelope callContext .closed

def harvestRemoteCallReply (callId : CallId) (outcome : RemoteCallOutcome h) :
    RuntimeM h Unit := do
  let outcome := match outcome with
    | .replied message => CallOutcome.replied message
    | .full => .full
    | .closed => .closed
    | .rejected reason => .rejected reason
  let _ ← completeIsolateCall callId outcome
  return ()

/-- A request whose cancel arrived first is refused; its tombstone stays. -/
def harvestRemoteSpawnRequest (request : RemoteSpawnRequest h) :
    RuntimeM h (Option (QueuedRemoteEnvelope h)) := do
  let outcome ←
    if request.requestId ∈ (← get).remoteSpawnCancelTombstones then
      pure (.error .destinationUnavailable)
    else
      spawnRemote request.payload request.owner request.childOrdinal (some request.requestId)
  return some (.spawnReply
    { requestId := request.requestId, requester := request.owner, outcome })

/-- The owner's address comes from the pending record, never from the reply. -/
def harvestRemoteSpawnReply (reply : RemoteSpawnReply) :
    RuntimeM h (Option (QueuedRemoteEnvelope h)) := do
  let s ← get
  match s.pendingRemoteSpawns.findIdx? (fun pending =>
      pending.requestId = reply.requestId) with
  | none => return none
  | some position =>
    match s.pendingRemoteSpawns[position]? with
    | none => throw .indexOutOfBounds
    | some pending =>
      set { s with pendingRemoteSpawns := s.pendingRemoteSpawns.eraseIdx position }
      note (.spawnSettled reply.requestId)
      let requester := pending.requester
      match reply.outcome with
      | .error error =>
        deliverObservedContinuation requester (pending.continuation (.error error))
        return none
      | .ok child =>
        recordRemoteChildOnOwner requester.isolate child pending.childOrdinal
          pending.mailboxCapacity pending.remoteRestartable
        let ownerStopped := match (← get).entryByIsolate requester.isolate with
          | none => true
          | some entry => entry.generation ≠ requester.generation || entry.stopped
        if ownerStopped then
          return some (.childStop
            { owner := requester, child, childOrdinal := pending.childOrdinal })
        else
          deliverObservedContinuation requester (pending.continuation (.ok child))
          return none

/-- Remember a cancel, forgetting the oldest one when the memory is full. -/
def rememberRemoteSpawnCancel (requestId : CallId) : RuntimeM h Unit :=
  modify fun s =>
    if requestId ∈ s.remoteSpawnCancelTombstones then s
    else if s.remoteSpawnCancelTombstones.length = s.remoteChildControlCapacity then
      { s with
        remoteSpawnCancelTombstones := s.remoteSpawnCancelTombstones.tail ++ [requestId]
        remoteChildControlFull := s.remoteChildControlFull + 1 }
    else { s with remoteSpawnCancelTombstones := s.remoteSpawnCancelTombstones ++ [requestId] }

/-- Stop the child that an owner on another shard knows by its ordinal. -/
def stopRemoteOwnedChild (owner child : RegisteredAddress) (childOrdinal : Nat) :
    RuntimeM h (Option (QueuedRemoteEnvelope h)) := do
  let s ← get
  let currentChild := ((s.childRecords.find? fun record =>
    record.remoteOwner = some owner ∧ record.childOrdinal = childOrdinal).map (·.child)).getD child
  match s.entryIndex currentChild with
  | none => pure ()
  | some index =>
    let entry ← entryAt index
    if entry.stopped then pure ()
    else stopEntry index currentChild.isolate .remoteOwner
  return some (.childStopped
    { owner, child := currentChild, childOrdinal })

def harvestRemoteSpawnCancel (cancel : RemoteSpawnCancel) :
    RuntimeM h (Option (QueuedRemoteEnvelope h)) := do
  rememberRemoteSpawnCancel cancel.requestId
  match (← get).childRecords.find? (fun record =>
      record.remoteRequestId = some cancel.requestId) with
  | none => return none
  | some record => stopRemoteOwnedChild cancel.owner record.child record.childOrdinal

/-- Replace a hosted child at its owner's request. -/
def restartRemoteOwnedChild (owner child : RegisteredAddress) (childOrdinal : Nat) :
    RuntimeM h (Option (QueuedRemoteEnvelope h)) := do
  let answer (outcome : Except RestartSkippedReason RegisteredAddress) :
      QueuedRemoteEnvelope h :=
    .childRestarted { owner, childOrdinal, oldChild := child, outcome }
  let s ← get
  match s.childRecords.findIdx? (fun record =>
      record.remoteOwner = some owner ∧ record.childOrdinal = childOrdinal ∧
        record.child = child) with
  | none => return some (answer (.error .remoteNotRestartable))
  | some recordIndex =>
    match (← recordAt recordIndex).restartRecipe with
    | none => return some (answer (.error .remoteNotRestartable))
    | some recipe =>
      match s.entryIndex child with
      | none => pure ()
      | some index =>
        let entry ← entryAt index
        if entry.stopped then pure ()
        else stopEntry index child.isolate .remoteOwner
      if recipe.crossShard then
        match ← recipe.create owner.isolate with
        | none => return some (answer (.error .factoryPanicked))
        | some outcome =>
          -- A hosted child has no parent on this shard.
          let s ← get
          if owner.shard ≠ s.shardId then
            match s.entryIndex outcome.child with
            | none => pure ()
            | some index =>
              let entry ← entryAt index
              setEntry index { entry with parent := none }
          updateRecord recordIndex fun record => { record with
            child := outcome.child, mailboxCapacity := outcome.mailboxCapacity
            restartRecipe := some recipe, remoteRequestId := none
            remoteOwner := some owner, terminal := false }
          match outcome.bootstrapMessage with
          | none => pure ()
          | some message => enqueueBootstrapMessage outcome.child message
          return some (answer (.ok outcome.child))
      else return some (answer (.error .remoteNotRestartable))

def harvestRemoteChildRestarted (restarted : RemoteChildRestarted) : RuntimeM h Unit := do
  let s ← get
  match s.entryIndex restarted.owner with
  | none => return ()
  | some _ =>
    match s.childRecords.findIdx? (fun record =>
        record.parent = restarted.owner.isolate ∧ record.remoteOwner = none ∧
          record.childOrdinal = restarted.childOrdinal ∧
          record.child = restarted.oldChild) with
    | none => return ()
    | some recordIndex =>
      match restarted.outcome with
      | .error _ => return ()
      | .ok newChild =>
        updateRecord recordIndex fun record =>
          { record with child := newChild, terminal := false }

def harvestRemoteEnvelope (envelope : QueuedRemoteEnvelope h) :
    RuntimeM h (Option (QueuedRemoteEnvelope h)) := do
  match envelope with
  | .send send callContext => harvestRemoteSend send callContext
  | .callReply callId _ outcome =>
    harvestRemoteCallReply callId outcome
    return none
  | .spawnRequest request => harvestRemoteSpawnRequest request
  | .spawnReply reply => harvestRemoteSpawnReply reply
  | .spawnCancel cancel => harvestRemoteSpawnCancel cancel
  | .childStop stop => stopRemoteOwnedChild stop.owner stop.child stop.childOrdinal
  | .childStopped _ => return none
  | .childRestart restart =>
    restartRemoteOwnedChild restart.owner restart.child restart.childOrdinal
  | .childRestarted restarted =>
    harvestRemoteChildRestarted restarted
    return none

end Tina
