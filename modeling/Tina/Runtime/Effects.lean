import Tina.Runtime.Children

/-!
The effect interpreter. A handler returns a tree of effects; `Batch` runs its members in
order, hands the call context to each of them until one has consumed it, and ends early
when one stops the isolate.
-/

namespace Tina

variable {h : Host}

mutual

/-- Whether executing the effect answers the call context it is given. -/
def ErasedEffect.consumesCallContext {P : Payload} : ErasedEffect P → Bool
  | .reply _ => true
  | .reject _ => true
  | .batch effects => consumesCallContextIn effects
  | _ => false

def ErasedEffect.stopsBeforeConsumingCallContext {P : Payload} : ErasedEffect P → Bool
  | .stop => true
  | .fail => true
  | .stopWith _ => true
  | .batch effects => stopsBeforeConsumingCallContextIn effects
  | _ => false

def consumesCallContextIn {P : Payload} : List (ErasedEffect P) → Bool
  | [] => false
  | effect :: rest =>
    if effect.consumesCallContext then true
    else if effect.stopsBeforeConsumingCallContext then false
    else consumesCallContextIn rest

def stopsBeforeConsumingCallContextIn {P : Payload} : List (ErasedEffect P) → Bool
  | [] => false
  | effect :: rest =>
    if effect.consumesCallContext then false
    else if effect.stopsBeforeConsumingCallContext then true
    else stopsBeforeConsumingCallContextIn rest

end

/-- Answer a caller with a rejection: through the call table when it is local, through
the transport when it is remote. -/
def rejectCallContext (context : MessageCallContext) (reason : CallRejectedReason) :
    RuntimeM h Unit := do
  match context with
  | .localCaller callId =>
    let _ ← completeIsolateCall callId (.rejected reason)
    return ()
  | .remoteCaller callId requester _ =>
    let _ ← routeRemote (.callReply callId requester (.rejected reason))
    return ()

def executeReply (context : MessageCallContext) (reply : h.Message) : RuntimeM h Unit := do
  match context with
  | .localCaller callId =>
    let _ ← completeIsolateCall callId (.replied reply)
    return ()
  | .remoteCaller callId requester _ =>
    let _ ← routeRemote (.callReply callId requester (.replied reply))
    return ()

/-- Reply through a captured slot; a payload of the wrong type closes the slot. -/
def executeReplyTo (slotId : DeferredSlotId) (message : h.Message) : RuntimeM h Unit := do
  let s ← get
  match s.promotedSlots.findIdx? (·.slotId = slotId) with
  | none => return ()
  | some position =>
    match s.promotedSlots[position]? with
    | none => throw .indexOutOfBounds
    | some slot =>
      set { s with promotedSlots := Lib.swapRemove s.promotedSlots position }
      if h.typeId message ≠ slot.expectedReplyTypeId then return ()
      else
        match slot.routing with
        | .localCaller =>
          let _ ← completeIsolateCall slot.callId (.replied message)
          return ()
        | .remoteCaller requester =>
          let _ ← routeRemote (.callReply slot.callId requester (.replied message))
          return ()

def executeSend (send : ErasedSend h) : RuntimeM h Unit := do
  let s ← get
  if send.targetSystem ≠ s.systemIncarnation then return ()
  else if send.targetShard = s.shardId then
    let _ ← dispatchLocalSend send
    return ()
  else
    let _ ← routeRemote (.send send none)
    return ()

def executeSpawn (isolateId : IsolateId) (spawn : ErasedSpawn h) :
    RuntimeM h Unit := do
  let outcome ← spawnChild spawn isolateId
  recordChild isolateId outcome
  match outcome.bootstrapMessage with
  | none => return ()
  | some message => enqueueBootstrapMessage outcome.child message

def executeSpawnObserved (index : Nat) (isolateId : IsolateId)
    (spec : SpawnObserved h) : RuntimeM h Unit := do
  let (spawned, continuation) ← spawnObserved spec isolateId
  match spawned with
  | none => pure ()
  | some outcome =>
    recordChild isolateId outcome
    match outcome.bootstrapMessage with
    | none => pure ()
    | some message => enqueueBootstrapMessage outcome.child message
  let _ ← enqueueCallContinuation index continuation none
  return ()

def executeSpawnObservedOn (owner : RegisteredAddress)
    (parts : SendSpawnObservedParts h) : RuntimeM h Unit := do
  let s ← get
  if parts.targetShard = s.shardId then
    let outcome ← spawnRemote parts.spawn owner (s.nextChildOrdinal owner.isolate) none
    deliverObservedContinuation owner (parts.continuation outcome)
  else
    let requestId ← nextCallId
    let childOrdinal := (← get).nextChildOrdinal owner.isolate
    noteOrdinal owner.isolate childOrdinal
    let s ← get
    let pending : PendingRemoteSpawn h :=
      { requestId, requester := owner, targetShard := parts.targetShard
        childOrdinal, mailboxCapacity := parts.spawn.mailboxCapacity
        remoteRestartable := parts.spawn.remoteRestartable
        continuation := parts.continuation }
    set { s with pendingRemoteSpawns := s.pendingRemoteSpawns ++ [pending] }
    match ← routeRemote (.spawnRequest
        { requestId, targetShard := parts.targetShard, owner
          childOrdinal, payload := parts.spawn }) with
    | .ok () => return ()
    | .error _ =>
      let s ← get
      match s.pendingRemoteSpawns.findIdx? (·.requestId = requestId) with
      | none => return ()
      | some position =>
        set { s with pendingRemoteSpawns := s.pendingRemoteSpawns.eraseIdx position }
        deliverObservedContinuation owner (parts.continuation (.error .destinationUnavailable))

mutual

/-- Execute one effect for the isolate at `index`; `true` when it stopped the isolate. -/
def executeEffect (index : Nat) : ErasedEffect h → Option MessageCallContext → RuntimeM h Bool
  | .stop, _ => do
    let entry ← entryAt index
    cleanupRemoteChildrenForOwner entry.id
    stopEntry index entry.id .ownTurn
    return true
  | .fail, _ => do
    let entry ← entryAt index
    cleanupRemoteChildrenForOwner entry.id
    stopEntry index entry.id .ownTurn
    let s ← get
    superviseFailedChild { system := s.systemIncarnation, shard := s.shardId,
                           isolate := entry.id, generation := entry.generation }
    return true
  | .stopWith result, _ => do
    let entry ← entryAt index
    cleanupRemoteChildrenForOwner entry.id
    stopEntryWithResult index entry.id .ownTurn result
    return true
  | .send send, _ => do
    let _ ← entryAt index
    executeSend send
    return false
  | .spawn spawn, _ => do
    let entry ← entryAt index
    executeSpawn entry.id spawn
    return false
  | .spawnObserved spec, _ => do
    let entry ← entryAt index
    executeSpawnObserved index entry.id spec
    return false
  | .spawnObservedOn parts, _ => do
    let entry ← entryAt index
    let s ← get
    executeSpawnObservedOn { system := s.systemIncarnation, shard := s.shardId,
                             isolate := entry.id, generation := entry.generation } parts
    return false
  | .restartChildren, _ => do
    let entry ← entryAt index
    restartChildren entry.id
    return false
  | .stopChildren, _ => do
    let entry ← entryAt index
    stopChildren entry.id
    return false
  | .io call, callContext => do
    let entry ← entryAt index
    let s ← get
    dispatchCall call { system := s.systemIncarnation, shard := s.shardId,
                        isolate := entry.id, generation := entry.generation } callContext
    return false
  | .noop, _ => do
    let _ ← entryAt index
    return false
  | .reply reply, callContext => do
    let _ ← entryAt index
    match callContext with
    | none => return false
    | some context =>
      note (.answered context)
      executeReply context reply
      return false
  | .reject reason, callContext => do
    let _ ← entryAt index
    match callContext with
    | none => return false
    | some context =>
      note (.answered context)
      rejectCallContext context reason
      return false
  | .batch effects, callContext => do
    let _ ← entryAt index
    executeBatch index effects callContext
  | .replyTo slot message, _ => do
    let _ ← entryAt index
    executeReplyTo slot message
    return false
  | .fact, _ => do
    let _ ← entryAt index
    return false

def executeBatch (index : Nat) : List (ErasedEffect h) → Option MessageCallContext → RuntimeM h Bool
  | [], _ => return false
  | effect :: rest, batchContext => do
    let stopped ← executeEffect index effect batchContext
    let remaining := if effect.consumesCallContext then none else batchContext
    if stopped then return true else executeBatch index rest remaining

end

end Tina
