import Tina.Http.Connection
import Tina.Lib.Runs

/-!
A connection with its socket, its service and its peer monitor: what the runtime has been asked
for, what has come back and waits to be handled, and every order in which that may happen.

A read takes its bytes from the stream when it completes and not when its reply is handled, so the
bytes of a reply that is still on its way stand in `arrived`.
-/

namespace Tina.Http

inductive Reader where
  | head
  | body
  | monitor
deriving DecidableEq

/-- A reply to a read; no bytes are the end of the stream. -/
abbrev ReadReply := Except CallError Bytes

def ReadReply.bytes : ReadReply → Bytes
  | .ok bytes => bytes
  | .error _ => []

inductive ServiceWork where
  | idle
  | spawning
  | called
  | admitting
deriving DecidableEq

structure Link where
  conn : HttpConnection
  /-- The read that the lane of the stream holds. -/
  reading : Option (Reader × Nat)
  /-- Replies to reads that the connection has not handled. -/
  arrived : List (Reader × ReadReply)
  service : ServiceWork
  /-- The reply to a spawn that the connection has not handled. -/
  spawned : Option Bool
  /-- A monitor that has not asked for its byte. -/
  monitorBegins : Bool
  writing : Option Bytes
  writingClose : Option Bytes
  pulling : Bool
  closing : Bool
  stopped : Bool
  /-- Everything read from the stream. -/
  received : Bytes
  /-- The requests handed to the service. -/
  dispatched : List HttpRequest

namespace Link

/-- The lane holds one read; another is refused. -/
def read (link : Link) (reader : Reader) (want : Nat) : Link :=
  if link.reading.isNone then { link with reading := some (reader, want) }
  else { link with arrived := link.arrived ++ [(reader, .error .resourceBusy)] }

/-- Timers, replies to pulls and cancelled sources bear on nothing here. -/
def perform (link : Link) : Effect → Link
  | .readMore => link.read .head READ_CHUNK
  | .readBody want => link.read .body want
  | .callService request =>
    { link with service := .called, dispatched := link.dispatched ++ [request] }
  | .admitEvent request =>
    { link with service := .admitting, dispatched := link.dispatched ++ [request] }
  | .spawnMonitor => { link with service := .spawning }
  | .write bytes => { link with writing := some bytes }
  | .writeClose bytes => { link with writingClose := some bytes }
  | .pullChunk _ => { link with pulling := true }
  | .close => { link with closing := true }
  | .stop => { link with stopped := true }
  | .sleep _ _ | .cancelSource _ | .replyTo _ | .reply _ | .reject _ | .webSocket => link

/-- The state after a turn and the effects it returned. -/
def after (link : Link) (turn : Turn) : Link :=
  turn.2.foldl perform { link with conn := turn.1 }

def start (conn : HttpConnection) : Link :=
  { conn
    reading := none
    arrived := []
    service := .idle
    spawned := none
    monitorBegins := false
    writing := none
    writingClose := none
    pulling := false
    closing := false
    stopped := false
    received := []
    dispatched := [] : Link }.after conn.start

end Link

/-- What may happen next. Timers fire at any time and with any generation. -/
inductive Move where
  | bytesArrive (bytes : Bytes)
  | readEnds
  | readFails (error : CallError)
  | monitorSpawns (spawned : Bool)
  | monitorReads
  | spawnHandled
  | readHandled (index : Nat)
  | headerDeadline (generation : Nat)
  | serviceReturns (outcome : CallOutcome HttpResponse)
  | eventAdmitted (outcome : SendOutcome)
  | wrote (written : Nat)
  | writeFails (error : CallError)
  | wroteClose (written : Nat) (closed : Bool)
  | writeCloseFails (error : CallError)
  | chunkReturns (outcome : CallOutcome ResponseChunkReply)
  | bodyNextCalled
  | bodyNextSent
  | closed

/-- The message a handled read becomes. -/
def readMessage : Reader × ReadReply → HttpConnectionMsg
  | (.head, reply) => .read reply
  | (.body, reply) => .bodyChunkRead reply
  | (.monitor, .ok (byte :: bytes)) => .servicePeerMonitorEnded (.readAhead (byte :: bytes))
  | (.monitor, _) => .servicePeerMonitorEnded .disconnected

namespace Link

/-- The read in the lane is answered. -/
def answer (link : Link) (reply : ReadReply) : Option Link :=
  link.reading.map fun (reader, _) =>
    { link with
      reading := none
      arrived := link.arrived ++ [(reader, reply)]
      received := link.received ++ reply.bytes }

/-- One move, or `none` when it cannot happen. -/
def step (crates : Crates) (link : Link) (charged : Charges × Move) : Option Link :=
  let handles (link : Link) (message : HttpConnectionMsg) : Link :=
    link.after (link.conn.handle crates charged.1 message)
  if link.stopped then none
  else
    match charged.2 with
    | .bytesArrive bytes =>
      if bytes ≠ [] ∧ link.reading.any (bytes.length ≤ ·.2) then link.answer (.ok bytes) else none
    | .readEnds => link.answer (.ok [])
    | .readFails error => link.answer (.error error)
    | .monitorSpawns spawned =>
      if link.service = .spawning ∧ link.spawned = none then
        some { link with spawned := some spawned, monitorBegins := spawned }
      else none
    | .monitorReads =>
      if link.monitorBegins then some ({ link with monitorBegins := false }.read .monitor 1)
      else none
    | .spawnHandled =>
      link.spawned.map fun spawned =>
        handles { link with spawned := none, service := .idle } (.serviceMonitorSpawned spawned)
    | .readHandled index =>
      link.arrived[index]?.map fun arrival =>
        handles { link with arrived := link.arrived.eraseIdx index } (readMessage arrival)
    | .headerDeadline generation => some (handles link (.headerDeadline generation))
    | .serviceReturns outcome =>
      if link.service = .called then
        some (handles { link with service := .idle } (.serviceReturned outcome))
      else none
    | .eventAdmitted outcome =>
      if link.service = .admitting then
        some (handles { link with service := .idle } (.eventAdmitted outcome))
      else none
    | .wrote written =>
      link.writing.bind fun bytes =>
        if written ≤ bytes.length then
          some (handles { link with writing := none } (.wrote (.ok (bytes, written))))
        else none
    | .writeFails error =>
      link.writing.map fun _ => handles { link with writing := none } (.wrote (.error error))
    | .wroteClose written closed =>
      link.writingClose.bind fun bytes =>
        if written ≤ bytes.length then
          -- a whole write that closed the stream stops the isolate without a message
          if written = bytes.length && closed then
            some { link with writingClose := none, stopped := true }
          else
            some (handles { link with writingClose := none }
              (.wroteClose (.ok (bytes, written, closed))))
        else none
    | .writeCloseFails error =>
      link.writingClose.map fun _ =>
        handles { link with writingClose := none } (.wroteClose (.error error))
    | .chunkReturns outcome =>
      if link.pulling then some (handles { link with pulling := false } (.streamChunk outcome))
      else none
    | .bodyNextCalled => some (link.after (link.conn.handleCall .requestBodyNext))
    | .bodyNextSent => some (handles link .requestBodyNext)
    | .closed => if link.closing then some (handles link .closed) else none

end Link

/-- A run of a connection in which every step meets `p`. -/
abbrev LinkRun (crates : Crates) (p : Link → Charges × Move → Prop) (conn : HttpConnection) :=
  Lib.Run (Link.step crates) p (Link.start conn)

end Tina.Http
