import Mathlib.Tactic.Common
import Tina.Runtime.Types

/-!
The single owner of in-flight call bookkeeping. Backend calls and isolate calls share
the call-id space; isolate calls are also indexed by deadline, with the insertion order
as tie breaker.
-/

namespace Tina

/-- Ways the runtime itself unwinds; nothing runs on the shard afterwards. -/
inductive Panic where
  | duplicateCallId
  | indexOutOfBounds
  | unknownEntry
  | handleStampedTwice
  | zeroMailboxCapacity
  | bootstrapRejected
  | crossShardSend
  | factoryPanicked
  /-- Not an unwind: a loop that would never end. -/
  | diverges

structure DriverCallHead where
  callId : CallId
  requester : RegisteredAddress
  continuationContext : Option MessageCallContext

structure DriverCall (P : Payload) where
  head : DriverCallHead
  translator : P.CallOutput → ErasedRuntimeCallCompletion P

structure PendingIsolateCall (P : Payload) where
  callId : CallId
  requester : RegisteredAddress
  deadline : Instant
  insertionOrder : Nat
  continuationContext : Option MessageCallContext
  translator : CallOutcome P.Message → P.Message
  expectedReplyTypeId : TypeId
  handleShared : Option HandleId

/-- Deadlines first, insertion order among equal deadlines. -/
def deadlineOrder : Instant × Nat → Instant × Nat → Ordering :=
  compareLex (compareOn (·.1)) (compareOn (·.2))

structure CallTable (P : Payload) where
  driver : Std.TreeMap CallId (DriverCall P)
  isolate : Std.TreeMap CallId (PendingIsolateCall P)
  isolateDeadlines : Std.TreeMap (Instant × Nat) CallId deadlineOrder

namespace CallTable

variable {P : Payload}

def new : CallTable P where
  driver := ∅
  isolate := ∅
  isolateDeadlines := ∅

def insertDriver (table : CallTable P) (call : DriverCall P) :
    Except Panic (CallTable P) :=
  if table.driver.contains call.head.callId then .error .duplicateCallId
  else .ok { table with driver := table.driver.insert call.head.callId call }

def removeDriver (table : CallTable P) (callId : CallId) :
    Option (DriverCall P × CallTable P) :=
  match table.driver[callId]? with
  | none => none
  | some call => some (call, { table with driver := table.driver.erase callId })

def driverCallIdsForRequester (table : CallTable P) (requester : RegisteredAddress) :
    List CallId :=
  (table.driver.toList.filter (·.2.head.requester = requester)).map (·.1)

def hasDriverCallForRequester (table : CallTable P) (requester : RegisteredAddress) : Bool :=
  table.driver.toList.any (·.2.head.requester = requester)

def drainDriver (table : CallTable P) : List (DriverCall P) × CallTable P :=
  (table.driver.toList.map (·.2), { table with driver := ∅ })

/-- The deadline index is written before the duplicate check, which then unwinds. -/
def insertIsolate (table : CallTable P) (call : PendingIsolateCall P) :
    Except Panic (CallTable P) :=
  if table.isolate.contains call.callId then .error .duplicateCallId
  else .ok
    { table with
      isolate := table.isolate.insert call.callId call
      isolateDeadlines :=
        table.isolateDeadlines.insert (call.deadline, call.insertionOrder) call.callId }

def removeIsolate (table : CallTable P) (callId : CallId) :
    Option (PendingIsolateCall P × CallTable P) :=
  match table.isolate[callId]? with
  | none => none
  | some call => some (call, { table with
        isolate := table.isolate.erase callId
        isolateDeadlines :=
          table.isolateDeadlines.erase (call.deadline, call.insertionOrder) })

def nextDueIsolate (table : CallTable P) (now : Instant) : Option CallId :=
  match table.isolateDeadlines.toList.head? with
  | none => none
  | some ((deadline, _), callId) => if deadline ≤ now then some callId else none

def isolateCallIdsForOwner (table : CallTable P) (ownerIsolate : IsolateId)
    (ownerGeneration : AddressGeneration) : List CallId :=
  (table.isolate.toList.filter fun entry =>
    entry.2.requester.isolate = ownerIsolate ∧
      entry.2.requester.generation = ownerGeneration).map (·.1)

/-- Remove the calls of `ids` one after the other, in that order. -/
def takeIsolateCalls (table : CallTable P) : List CallId → List (PendingIsolateCall P) × CallTable P
  | [] => ([], table)
  | callId :: rest =>
    match table.removeIsolate callId with
    | none => table.takeIsolateCalls rest
    | some (call, table) =>
      let (calls, table) := table.takeIsolateCalls rest
      (call :: calls, table)

def takeIsolateCallsForOwner (table : CallTable P) (ownerIsolate : IsolateId)
    (ownerGeneration : AddressGeneration) : List (PendingIsolateCall P) × CallTable P :=
  table.takeIsolateCalls (table.isolateCallIdsForOwner ownerIsolate ownerGeneration)

def isolateExpectedReplyTypeId (table : CallTable P) (callId : CallId) : Option TypeId :=
  table.isolate[callId]?.map (·.expectedReplyTypeId)

def hasIsolateCallForRequester (table : CallTable P) (requester : RegisteredAddress) : Bool :=
  table.isolate.toList.any (·.2.requester = requester)

def drainIsolate (table : CallTable P) : List (PendingIsolateCall P) × CallTable P :=
  (table.isolate.toList.map (·.2), { table with isolate := ∅, isolateDeadlines := ∅ })

end CallTable

end Tina
