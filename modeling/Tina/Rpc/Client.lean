import Mathlib.Data.List.AList
import Tina.Connect.Attempts
import Tina.Rpc.Framing

/-!
The client of one outbound connection. The addresses that the callers want their results at are
opaque to it.
-/

namespace Tina.Rpc

open Connect (SocketAddr)
open Http (CallError)

/-- Durations are milliseconds. -/
structure ClientConfig where
  maxFrameSize : Nat
  maxInFlight : Nat
  idleTimeout : Nat
  readChunk : Nat
  writeQueueCap : Nat

def ClientConfig.default : ClientConfig where
  maxFrameSize := 1024 * 1024
  maxInFlight := 64
  idleTimeout := 30000
  readChunk := 8 * 1024
  writeQueueCap := 256

inductive ClientResult where
  | ok (payload : List UInt8)
  | serverError (code : FrameError)
  | timeout
  | connectionClosed
  | idle
  | full
  | localEncodeFailed
  | ioError (error : CallError)

structure ClientRequest (A : Type) where
  service : String
  method : String
  payload : List UInt8
  deadline : Nat
  correlator : UInt64
  replyTo : A

inductive ClientMsg (A : Type) where
  | begin
  | connected (result : Except CallError StreamId)
  | request (req : ClientRequest A)
  | read (result : Except CallError (List UInt8))
  | wrote (result : Except CallError Nat)
  | streamClosed (result : Except CallError Unit)
  | deadlineFired (requestId : UInt64)
  | idleTick (snapshot : UInt64)
  | shutdown

inductive ClientStream where
  | established (stream : StreamId)
  | pending (addr : SocketAddr)

structure InFlight (A : Type) where
  correlator : UInt64
  replyTo : A

/-- The in-flight map of the source is a hash map: the order of the entries here is one of those in
which it may be drained. An entry of the write queue without an id is the tail of a partial
write. -/
structure Client (A : Type) where
  stream : Option StreamId
  pendingConnect : Option SocketAddr
  connectDispatched : Bool
  config : ClientConfig
  inbound : List UInt8
  inFlight : AList fun _ : UInt64 => InFlight A
  nextRequestId : UInt64
  writeQueue : List (Option UInt64 × List UInt8)
  writeInFlight : Option (List UInt8)
  activitySeq : UInt64
  closing : Option ClientResult
  closeDispatched : Bool
  readsDone : Bool
  readStarted : Bool

namespace Client

inductive Effect (A : Type) where
  | notify (replyTo : A) (correlator : UInt64) (result : ClientResult)
  | connect (addr : SocketAddr)
  | read (stream : StreamId) (maxLen : Nat)
  | write (stream : StreamId) (bytes : List UInt8)
  | closeStream (stream : StreamId)
  | idleArm (snapshot : UInt64) (after : Nat)
  | deadlineArm (requestId : UInt64) (after : Nat)
  | stop

variable {A : Type}

def new (stream : ClientStream) (config : ClientConfig) : Client A where
  stream := match stream with
    | .established stream => some stream
    | .pending _ => none
  pendingConnect := match stream with
    | .established _ => none
    | .pending addr => some addr
  connectDispatched := false
  config
  inbound := []
  inFlight := ∅
  nextRequestId := 1
  writeQueue := []
  writeInFlight := none
  activitySeq := 0
  closing := none
  closeDispatched := false
  readsDone := false
  readStarted := false

def frameLimits (client : Client A) : FrameLimits :=
  ⟨client.config.maxFrameSize⟩

/-- `none` is the panic when there is no stream. -/
def readEffect (client : Client A) : Option (Effect A) :=
  client.stream.map fun stream => .read stream (max client.config.readChunk 1)

def idleArmEffect (client : Client A) : Effect A :=
  .idleArm client.activitySeq client.config.idleTimeout

def isClosing (client : Client A) : Bool :=
  client.closing.isSome || client.closeDispatched

def maybeStartWrite (client : Client A) : Client A × List (Effect A) :=
  if client.writeInFlight.isSome then (client, [])
  else
    match client.stream, client.writeQueue with
    | some stream, (_, bytes) :: writeQueue =>
      ({ client with writeQueue, writeInFlight := some bytes }, [.write stream bytes])
    | _, _ => (client, [])

def notify (entry : InFlight A) (result : ClientResult) : Effect A :=
  .notify entry.replyTo entry.correlator result

/-- The id after this one; zero is skipped. -/
def bumpRequestId (client : Client A) : Client A :=
  let next := client.nextRequestId + 1
  { client with nextRequestId := if next = 0 then 1 else next }

/-- Try so many ids. -/
def probeRequestId : Nat → Client A → Client A × Option UInt64
  | 0, client => (client, none)
  | tries + 1, client =>
    let candidate := client.nextRequestId
    let client := client.bumpRequestId
    if candidate ∈ client.inFlight then probeRequestId tries client else (client, some candidate)

/-- `usize::MAX`. -/
def USIZE_MAX : Nat := 2 ^ 64 - 1

def allocateRequestId (client : Client A) : Client A × Option UInt64 :=
  let limit := min (client.config.maxInFlight + 1) USIZE_MAX
  probeRequestId (limit + 1) client

def beginClose (client : Client A) (reason : ClientResult) : Client A × List (Effect A) :=
  if client.closeDispatched then (client, [])
  else
    let notices := client.inFlight.entries.map (notify ·.2 reason)
    let closed :=
      { client with
        inFlight := ∅
        closing := some reason
        closeDispatched := true
        readsDone := true
        writeQueue := []
        writeInFlight := none }
    match client.stream with
    | some stream => (closed, notices ++ [.closeStream stream])
    | none => (closed, notices ++ [.stop])

def finalizeClose (client : Client A) : Client A × List (Effect A) :=
  ({ client with closing := none }, [.stop])

def onBegin (client : Client A) : Option (Client A × List (Effect A)) :=
  if client.isClosing || client.readStarted || client.connectDispatched then some (client, [])
  else if client.stream.isSome then
    let client := { client with readStarted := true }
    client.readEffect.map fun read => (client, [read, client.idleArmEffect])
  else
    match client.pendingConnect with
    | none => some (client.beginClose (.ioError .invalidResource))
    | some addr => some ({ client with connectDispatched := true }, [.connect addr])

def onConnected (client : Client A) (result : Except CallError StreamId) :
    Option (Client A × List (Effect A)) :=
  if client.isClosing then some (client, [])
  else
    match result with
    | .ok stream =>
      let client := { client with stream := some stream, readStarted := true }
      client.readEffect.map fun read =>
        let (written, effects) := client.maybeStartWrite
        (written, [read, client.idleArmEffect] ++ effects)
    | .error error => some (client.beginClose (.ioError error))

/-- A request that has a place and an id. -/
def dispatchRequest (client : Client A) (req : ClientRequest A) (requestId : UInt64) :
    Client A × List (Effect A) :=
  let frame := Frame.request requestId req.service req.method req.payload
  match encode frame client.frameLimits with
  | .error _ => (client, [.notify req.replyTo req.correlator .localEncodeFailed])
  | .ok bytes =>
    if client.config.writeQueueCap ≤ client.writeQueue.length then
      let (closed, effects) := client.beginClose (.ioError .io)
      (closed, .notify req.replyTo req.correlator (.ioError .io) :: effects)
    else
      let (written, effects) := maybeStartWrite
        { client with
          inFlight := client.inFlight.insert requestId ⟨req.correlator, req.replyTo⟩
          writeQueue := client.writeQueue ++ [(some requestId, bytes)] }
      (written, effects ++ [.deadlineArm requestId req.deadline])

def onRequest (client : Client A) (req : ClientRequest A) : Client A × List (Effect A) :=
  if client.isClosing then (client, [.notify req.replyTo req.correlator .connectionClosed])
  else if client.config.maxInFlight ≤ client.inFlight.keys.length then
    (client, [.notify req.replyTo req.correlator .full])
  else
    match client.allocateRequestId with
    | (client, none) => (client, [.notify req.replyTo req.correlator .full])
    | (client, some requestId) => client.dispatchRequest req requestId

/-- The entry with this id, and the client without it. -/
def takeInFlight (client : Client A) (requestId : UInt64) : Option (InFlight A × Client A) :=
  (client.inFlight.lookup requestId).map fun entry =>
    (entry, { client with inFlight := client.inFlight.erase requestId })

/-- What an answer of the server means to the caller. -/
def serverResult (frame : Frame) : ClientResult :=
  match frame.kind with
  | .reply => .ok frame.payload
  | .error | .request => .serverError (frame.error.getD .internal)

/-- The loop stops when the buffer has no whole frame left; the fuel is the length of the buffer. An
error drops the effects of the frames before it. -/
def drainInbound : Nat → Client A → List (Effect A) →
    Client A × Except DecodeError (List (Effect A))
  | 0, client, effects => (client, .ok effects)
  | fuel + 1, client, effects =>
    match cutFrame client.frameLimits client.inbound with
    | .short => (client, .ok effects)
    | .badLength error => (client, .error error)
    | .whole result rest =>
      let client := { client with inbound := rest }
      match result with
      | .error error => (client, .error error)
      | .ok frame =>
        if frame.kind = .request then (client, .error (.unknownKind 0))
        else
          match client.takeInFlight frame.requestId with
          | none => drainInbound fuel client effects
          | some (entry, client) =>
            drainInbound fuel client (effects ++ [notify entry (serverResult frame)])

def onRead (client : Client A) (result : Except CallError (List UInt8)) :
    Option (Client A × List (Effect A)) :=
  if client.isClosing then some (client, [])
  else
    match result with
    | .error error => some (client.beginClose (.ioError error))
    | .ok bytes =>
      if bytes.isEmpty then some (client.beginClose .connectionClosed)
      else
        let client :=
          { client with activitySeq := client.activitySeq + 1, inbound := client.inbound ++ bytes }
        match client.drainInbound (client.inbound.length + 1) [] with
        | (client, .error _) => some (client.beginClose .connectionClosed)
        | (client, .ok effects) =>
          if client.readsDone then some (client, effects)
          else client.readEffect.map fun read => (client, effects ++ [read])

def onWrote (client : Client A) (result : Except CallError Nat) : Client A × List (Effect A) :=
  if client.closeDispatched then (client, [])
  else
    match result with
    | .error error => client.beginClose (.ioError error)
    | .ok count =>
      let attempted := client.writeInFlight.getD []
      let client := { client with writeInFlight := none }
      if attempted.length < count then client.beginClose (.ioError .io)
      else if attempted.isEmpty = false ∧ count = 0 then client.beginClose (.ioError .io)
      else
        let client :=
          if 0 < count then { client with activitySeq := client.activitySeq + 1 } else client
        let client :=
          if count < attempted.length then
            { client with writeQueue := (none, attempted.drop count) :: client.writeQueue }
          else client
        client.maybeStartWrite

def onDeadline (client : Client A) (requestId : UInt64) : Client A × List (Effect A) :=
  if client.isClosing then (client, [])
  else
    match client.takeInFlight requestId with
    | some (entry, client) =>
      ({ client with writeQueue := client.writeQueue.filter fun queued =>
        queued.1 ≠ some requestId }, [notify entry .timeout])
    | none => (client, [])

def onIdle (client : Client A) (snapshot : UInt64) : Client A × List (Effect A) :=
  if client.isClosing then (client, [])
  else if snapshot = client.activitySeq then client.beginClose .idle
  else (client, [client.idleArmEffect])

def onStreamClosed (client : Client A) (_result : Except CallError Unit) :
    Client A × List (Effect A) :=
  client.finalizeClose

def onShutdown (client : Client A) : Client A × List (Effect A) :=
  client.beginClose .connectionClosed

/-- `none` is a panic. -/
def handle (client : Client A) : ClientMsg A → Option (Client A × List (Effect A))
  | .begin => client.onBegin
  | .connected result => client.onConnected result
  | .request req => some (client.onRequest req)
  | .read result => client.onRead result
  | .wrote result => some (client.onWrote result)
  | .streamClosed result => some (client.onStreamClosed result)
  | .deadlineFired requestId => some (client.onDeadline requestId)
  | .idleTick snapshot => some (client.onIdle snapshot)
  | .shutdown => some client.onShutdown

end Client

end Tina.Rpc
