import Mathlib.Data.Finset.Card
import Tina.Http.Types
import Tina.Rpc.Framing

/-!
The server's end of one connection. It routes the requests that it reads and writes back what the
router answers. The addresses of the router and of the watcher are opaque to it.
-/

namespace Tina.Rpc

open Http (CallError)

/-- Durations are milliseconds. -/
structure ConnectionConfig where
  maxFrameSize : Nat
  maxInFlight : Nat
  idleTimeout : Nat
  readChunk : Nat
  writeQueueCap : Nat
  serviceCallTimeout : Nat

def ConnectionConfig.default : ConnectionConfig where
  maxFrameSize := 1024 * 1024
  maxInFlight := 64
  idleTimeout := 30000
  readChunk := 8 * 1024
  writeQueueCap := 256
  serviceCallTimeout := 5000

structure RouterRequest where
  requestId : UInt64
  service : String
  method : String
  payload : List UInt8

inductive RouterReply where
  | ok (payload : List UInt8)
  | unknownService
  | unknownMethod
  | decode
  | internal
  | full

inductive BadPeerReason where
  | decode (error : DecodeError)
  | unexpectedKind (kind : FrameKind)
  | writeQueueOverflow

inductive CloseReason where
  | peerClosed
  | badPeer (reason : BadPeerReason)
  | idle
  | shutdown
  | ioError (error : CallError)
  | localEncodeFailed

inductive ConnectionMsg where
  | begin
  | read (result : Except CallError (List UInt8))
  | wrote (result : Except CallError Nat)
  | streamClosed (result : Except CallError Unit)
  | routed (requestId : UInt64) (service method : String) (outcome : CallOutcome RouterReply)
  | idleTick (snapshot : UInt64)
  | shutdown

inductive DrainError where
  | badPeer (reason : BadPeerReason)
  | localEncode

structure Connection (A : Type) where
  stream : StreamId
  router : A
  watcher : Option A
  config : ConnectionConfig
  inbound : List UInt8
  inFlight : Nat
  inFlightIds : Finset UInt64
  writeQueue : List (List UInt8)
  writeInFlight : Option (List UInt8)
  activitySeq : UInt64
  closing : Option CloseReason
  closeDispatched : Bool
  readsDone : Bool
  began : Bool

namespace Connection

/-- `refused` and `resolved` are notes: the reply in them has been put into the write queue. -/
inductive Effect (A : Type) where
  | route (router : A) (request : RouterRequest) (timeout : Nat)
  | read (stream : StreamId) (maxLen : Nat)
  | write (stream : StreamId) (bytes : List UInt8)
  | closeStream (stream : StreamId)
  | idleArm (snapshot : UInt64) (after : Nat)
  | send (watcher : A) (reason : CloseReason)
  | stop
  | refused (request : RouterRequest) (reply : Frame)
  | resolved (requestId : UInt64) (service method : String) (outcome : CallOutcome RouterReply)
      (reply : Option Frame)

variable {A : Type}

/-- A zero chunk is refused by a debug assertion only. -/
def new (stream : StreamId) (router : A) (watcher : Option A) (config : ConnectionConfig) :
    Connection A where
  stream
  router
  watcher
  config
  inbound := []
  inFlight := 0
  inFlightIds := ∅
  writeQueue := []
  writeInFlight := none
  activitySeq := 0
  closing := none
  closeDispatched := false
  readsDone := false
  began := false

def frameLimits (conn : Connection A) : FrameLimits :=
  ⟨conn.config.maxFrameSize⟩

def readEffect (conn : Connection A) : Effect A :=
  .read conn.stream (max conn.config.readChunk 1)

def idleArmEffect (conn : Connection A) : Effect A :=
  .idleArm conn.activitySeq conn.config.idleTimeout

def beginClose (conn : Connection A) (reason : CloseReason) : Connection A × List (Effect A) :=
  if conn.closing.isSome || conn.closeDispatched then (conn, [])
  else
    ({ conn with
        closing := some reason
        closeDispatched := true
        readsDone := true
        inFlight := 0
        inFlightIds := ∅
        writeQueue := []
        writeInFlight := none },
      [.closeStream conn.stream])

def finalizeClose (conn : Connection A) : Connection A × List (Effect A) :=
  let reason := conn.closing.getD .peerClosed
  let closed := { conn with closing := none }
  match conn.watcher with
  | some watcher => (closed, [.send watcher reason, .stop])
  | none => (closed, [.stop])

def enqueueWrite (conn : Connection A) (bytes : List UInt8) : Except BadPeerReason (Connection A) :=
  if conn.config.writeQueueCap ≤ conn.writeQueue.length then .error .writeQueueOverflow
  else .ok { conn with writeQueue := conn.writeQueue ++ [bytes] }

def maybeStartWrite (conn : Connection A) : Connection A × List (Effect A) :=
  if conn.writeInFlight.isSome then (conn, [])
  else
    match conn.writeQueue with
    | [] => (conn, [])
    | bytes :: writeQueue =>
      ({ conn with writeQueue, writeInFlight := some bytes }, [.write conn.stream bytes])

def encodeFrame (conn : Connection A) (frame : Frame) : Option (List UInt8) :=
  match encode frame conn.frameLimits with
  | .ok bytes => some bytes
  | .error _ => none

def encodeInternalError (conn : Connection A) (requestId : UInt64) (service method : String) :
    Option (List UInt8) :=
  conn.encodeFrame (.ofError requestId service method .internal [])

def requestOf (frame : Frame) : RouterRequest :=
  ⟨frame.requestId, frame.service, frame.method, frame.payload⟩

def routeRequest (conn : Connection A) (frame : Frame) : Connection A × Effect A :=
  ({ conn with
      inFlight := conn.inFlight + 1
      inFlightIds := insert frame.requestId conn.inFlightIds },
    .route conn.router (requestOf frame) conn.config.serviceCallTimeout)

/-- An error frame in the place of a route. -/
def refuseRequest (conn : Connection A) (frame : Frame) (code : FrameError) (payload : List UInt8) :
    Except DrainError (Connection A × Effect A) :=
  let reply := Frame.ofError frame.requestId frame.service frame.method code payload
  match conn.encodeFrame reply with
  | none => .error .localEncode
  | some bytes =>
    match conn.enqueueWrite bytes with
    | .error reason => .error (.badPeer reason)
    | .ok queued => .ok (queued, .refused (requestOf frame) reply)

def duplicateText : List UInt8 :=
  asBytes "duplicate request_id"

/-- A frame off the wire. -/
def takeFrame (conn : Connection A) (frame : Frame) : Except DrainError (Connection A × Effect A) :=
  match frame.kind with
  | .request =>
    if frame.requestId ∈ conn.inFlightIds then conn.refuseRequest frame .protocol duplicateText
    else if conn.config.maxInFlight ≤ conn.inFlight then conn.refuseRequest frame .full []
    else .ok (conn.routeRequest frame)
  | .reply | .error => .error (.badPeer (.unexpectedKind frame.kind))

/-- The loop stops when the buffer has no whole frame left; the fuel is the length of the buffer. -/
def drainInbound : Nat → Connection A → List (Effect A) →
    Connection A × Except DrainError (List (Effect A))
  | 0, conn, emitted => (conn, .ok emitted)
  | fuel + 1, conn, emitted =>
    match cutFrame conn.frameLimits conn.inbound with
    | .short => (conn, .ok emitted)
    | .badLength error => (conn, .error (.badPeer (.decode error)))
    | .whole result rest =>
      let conn := { conn with inbound := rest }
      match result with
      | .error error => (conn, .error (.badPeer (.decode error)))
      | .ok frame =>
        match conn.takeFrame frame with
        | .error error => (conn, .error error)
        | .ok (conn, effect) => drainInbound fuel conn (emitted ++ [effect])

/-- The bytes of a read join the buffer. -/
def extendInbound (conn : Connection A) (bytes : List UInt8) : Connection A :=
  { conn with activitySeq := conn.activitySeq + 1, inbound := conn.inbound ++ bytes }

/-- The next read, unless reading is over. -/
def nextRead (conn : Connection A) : List (Effect A) :=
  if conn.readsDone then [] else [conn.readEffect]

/-- The end of a read, after the loop. -/
def finishRead (conn : Connection A) :
    Except DrainError (List (Effect A)) → Connection A × List (Effect A)
  | .error (.badPeer reason) => conn.beginClose (.badPeer reason)
  | .error .localEncode => conn.beginClose .localEncodeFailed
  | .ok effects =>
    let (conn, write) := conn.maybeStartWrite
    (conn, effects ++ write ++ conn.nextRead)

def onRead (conn : Connection A) (result : Except CallError (List UInt8)) :
    Connection A × List (Effect A) :=
  if conn.closing.isSome || conn.closeDispatched then (conn, [])
  else
    match result with
    | .error error => conn.beginClose (.ioError error)
    | .ok bytes =>
      if bytes.isEmpty then conn.beginClose .peerClosed
      else
        let conn := conn.extendInbound bytes
        let (conn, drained) := conn.drainInbound (conn.inbound.length + 1) []
        conn.finishRead drained

def onWrote (conn : Connection A) (result : Except CallError Nat) :
    Connection A × List (Effect A) :=
  if conn.closeDispatched then (conn, [])
  else
    match result with
    | .error error => conn.beginClose (.ioError error)
    | .ok count =>
      let attempted := conn.writeInFlight.getD []
      let conn := { conn with writeInFlight := none }
      if attempted.length < count then conn.beginClose (.ioError .io)
      else if attempted.isEmpty = false ∧ count = 0 then conn.beginClose (.ioError .io)
      else
        let conn := if 0 < count then { conn with activitySeq := conn.activitySeq + 1 } else conn
        let conn :=
          if count < attempted.length then
            { conn with writeQueue := attempted.drop count :: conn.writeQueue }
          else conn
        conn.maybeStartWrite

/-- What the client is told; nothing about a timeout. -/
def frameToSend (requestId : UInt64) (service method : String) :
    CallOutcome RouterReply → Option Frame
  | .replied (.ok payload) => some (.reply requestId service method payload)
  | .replied .unknownService => some (.ofError requestId service method .unknownService [])
  | .replied .unknownMethod => some (.ofError requestId service method .unknownMethod [])
  | .replied .decode => some (.ofError requestId service method .decode [])
  | .replied .internal => some (.ofError requestId service method .internal [])
  | .replied .full => some (.ofError requestId service method .full [])
  | .full => some (.ofError requestId service method .full [])
  | .closed => some (.ofError requestId service method .internal [])
  | .rejected _ => some (.ofError requestId service method .internal [])
  | .timeout => none

/-- The frame if it fits, or else an internal error, if that fits. -/
def fittingFrame (conn : Connection A) (frame : Frame) : Option (Frame × List UInt8) :=
  match conn.encodeFrame frame with
  | some bytes => some (frame, bytes)
  | none =>
    (conn.encodeInternalError frame.requestId frame.service frame.method).map fun bytes =>
      (.ofError frame.requestId frame.service frame.method .internal [], bytes)

def onRouted (conn : Connection A) (requestId : UInt64) (service method : String)
    (outcome : CallOutcome RouterReply) : Connection A × List (Effect A) :=
  if conn.closing.isSome || conn.closeDispatched then (conn, [])
  else
    let conn :=
      { conn with inFlight := conn.inFlight - 1, inFlightIds := conn.inFlightIds.erase requestId }
    match frameToSend requestId service method outcome with
    | none => (conn, [.resolved requestId service method outcome none])
    | some frame =>
      match conn.fittingFrame frame with
      | none => conn.beginClose .localEncodeFailed
      | some (reply, bytes) =>
        match conn.enqueueWrite bytes with
        | .error reason => conn.beginClose (.badPeer reason)
        | .ok conn =>
          let (conn, write) := conn.maybeStartWrite
          (conn, .resolved requestId service method outcome (some reply) :: write)

def onIdleTick (conn : Connection A) (snapshot : UInt64) : Connection A × List (Effect A) :=
  if conn.closing.isSome || conn.closeDispatched then (conn, [])
  else if snapshot = conn.activitySeq then conn.beginClose .idle
  else (conn, [conn.idleArmEffect])

def onBegin (conn : Connection A) : Connection A × List (Effect A) :=
  if conn.closing.isSome || conn.closeDispatched || conn.began then (conn, [])
  else
    let conn := { conn with began := true }
    (conn, [conn.readEffect, conn.idleArmEffect])

def handle (conn : Connection A) : ConnectionMsg → Connection A × List (Effect A)
  | .begin => conn.onBegin
  | .read result => conn.onRead result
  | .wrote result => conn.onWrote result
  | .streamClosed _ => conn.finalizeClose
  | .routed requestId service method outcome => conn.onRouted requestId service method outcome
  | .idleTick snapshot => conn.onIdleTick snapshot
  | .shutdown => conn.beginClose .shutdown

end Connection

end Tina.Rpc
