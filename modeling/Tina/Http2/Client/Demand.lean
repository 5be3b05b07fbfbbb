import Mathlib.Algebra.Order.Floor.Div
import Tina.Http2.Client.Link

/-!
How many frames one message can put into the outbound queue of a client connection: a bound that is
read off the message and the connection it finds, before anything is handled. Only an admission
looks at the capacity of the queue. DATA frames, window updates and the answers to the frames of the
server are pushed as they come, so the room that they need has to be there beforehand.
-/

namespace Tina.Http2.Client

open Http (Bytes)

/-- The length of a full DATA frame, at the least: the server may settle on a larger frame size, but
not on a smaller one. -/
def Http2ClientLimits.unit (limits : Http2ClientLimits) : Nat :=
  min limits.maxFrameSize minMaxFrameSize

namespace ActiveClientStream

variable (unit : Nat) (stream : ActiveClientStream)

/-- The DATA frames that the window of a stream lets out. -/
def sendable : Nat :=
  min stream.outboundRemaining stream.sendWindow.toNat ⌈/⌉ unit

/-- The DATA frames of the rest of a body, had they all the window they need. -/
def unsentFrames : Nat :=
  stream.outboundRemaining ⌈/⌉ unit

/-- The body has gone out, but not its end. -/
def endPending : Bool :=
  stream.requestComplete && !stream.hasOutbound && !stream.requestEndSent

end ActiveClientStream

namespace Http2ClientConnection

variable (conn : Http2ClientConnection)

/-- A number of each stream, summed up over the table. -/
def total (f : ActiveClientStream → Nat) : Nat :=
  (conn.streams.map f).sum

def sendable : Nat :=
  conn.total (·.sendable conn.limits.unit)

def unsentFrames : Nat :=
  conn.total (·.unsentFrames conn.limits.unit)

def pendingEnds : Nat :=
  conn.total (·.endPending.toNat)

end Http2ClientConnection

/-- What a message can have the client queue. -/
structure Demand where
  /-- Frames other than DATA, and ends of bodies. -/
  replies : Nat := 0
  /-- The DATA frames of the bodies that come with the message. -/
  body : Nat := 0
  /-- The DATA frames that the message brings window for. -/
  fresh : Nat := 0
  /-- How often the message has the bodies flushed. -/
  flushes : Nat := 0

instance : Add Demand where
  add d e := ⟨d.replies + e.replies, d.body + e.body, d.fresh + e.fresh, d.flushes + e.flushes⟩

section

variable (d e : Demand)

@[simp] theorem Demand.replies_add : (d + e).replies = d.replies + e.replies := rfl
@[simp] theorem Demand.body_add : (d + e).body = d.body + e.body := rfl
@[simp] theorem Demand.fresh_add : (d + e).fresh = d.fresh + e.fresh := rfl
@[simp] theorem Demand.flushes_add : (d + e).flushes = d.flushes + e.flushes := rfl

end

/-- The frames of a demand on a connection. A flush sends what the stream windows let out. One frame
of each flush may be cut short by the connection window, and so not count for the window of its
stream; and each flush may send the ends that were pending. -/
def Demand.frames (conn : Http2ClientConnection) (d : Demand) : Nat :=
  d.replies + d.fresh + d.flushes * (min (conn.unsentFrames + d.body) 1 + conn.pendingEnds) +
    if d.flushes = 0 then 0 else conn.sendable

def Demand.sum (demands : List Demand) : Demand :=
  demands.foldr (· + ·) {}

section

variable (conn : Http2ClientConnection)

/-- A request that is admitted: HEADERS, and what the initial window lets out of its body. -/
def bodyDemand (length : Nat) : Demand where
  replies := 1
  body := length ⌈/⌉ conn.limits.unit
  fresh := min length conn.peerInitialStreamWindow.toNat ⌈/⌉ conn.limits.unit
  flushes := 1

def submitDemand (req : Http2ClientRequest) : Demand :=
  bodyDemand conn req.body.length

def grpcUnaryDemand (req : Http2ClientGrpcUnaryRequest) : Demand :=
  bodyDemand conn req.body.intoOutbound.remaining

/-- The body of a streaming request is pulled by later turns. -/
def streamingDemand : Demand where
  replies := 1

def openStreamDemand (req : Http2ClientStreamCall) : Demand :=
  match req.body with
  | .buffered bytes => bodyDemand conn bytes.length
  | .stream _ => bodyDemand conn 0

/-- All requests that wait for the connection. -/
def queuedDemand : Demand :=
  .sum (conn.queuedSubmits.map (submitDemand conn ·.1)) +
    .sum (conn.queuedGrpcUnary.map (grpcUnaryDemand conn ·.1)) +
    .sum (conn.queuedStreaming.map fun _ => streamingDemand) +
    .sum (conn.queuedOpen.map (openStreamDemand conn ·.1))

/-- Before the connection is up a request waits, and when the queue is full it is refused. -/
def admittedDemand (d : Demand) : Demand :=
  if conn.stream.isNone || conn.limits.connectionOutboundQueueCapacity ≤
    conn.writeQueue.length then {}
  else d

def ClientCall.demand : ClientCall → Demand
  | .submit req => admittedDemand conn (submitDemand conn req)
  | .submitGrpcUnary req => admittedDemand conn (grpcUnaryDemand conn req)
  | .submitStreaming _ => admittedDemand conn streamingDemand
  | .openStream req => admittedDemand conn (openStreamDemand conn req)
  | .responseNext _ => { replies := 1 }
  | .report | .unsupported => {}

end

/-- One frame of the server. DATA may return padding and be refused or credited; SETTINGS is
acknowledged, and each new initial window may open the windows of all streams. -/
def frameDemand (unit unsent : Nat) (frame : Frame) : Demand :=
  if frame.ty = frameData then { replies := 2 }
  else if frame.ty = frameSettings then
    let windows := (settingsEntries frame.payload).countP fun entry =>
      entry.1 = settingsInitialWindowSize
    { replies := 1, fresh := windows * unsent, flushes := windows }
  else if frame.ty = frameHeaders || frame.ty = framePing then { replies := 1 }
  else if frame.ty = frameWindowUpdate then
    { fresh := if frame.streamId = 0 then 0 else low31 frame.payload ⌈/⌉ unit, flushes := 1 }
  else {}

/-- The frames of the read buffer, one after the other, and the GOAWAY or the connection credit that
closes a read. -/
def readDemand (unsent : Nat) : Nat → Http2ClientConnection → Demand
  | 0, _ => { replies := 1 }
  | fuel + 1, conn =>
    match takeFrame conn with
    | .ok (some (frame, rest)) =>
      frameDemand conn.limits.unit unsent frame +
        readDemand unsent fuel { conn with readBuf := rest }
    | _ => { replies := 1 }

/-- What a message can cause on a connection. -/
def Move.demand (conn : Http2ClientConnection) : Move → Demand
  | .stop | .cancel _ | .responseIdleTimeout _ => { replies := 1 }
  | .call message => message.demand conn
  | .connected (some _) | .tlsConnected (.ok _) => queuedDemand conn
  | .read (some bytes) =>
    readDemand conn.unsentFrames (conn.readBuf ++ bytes).length
      (readingTurn { conn := conn } bytes).conn
  | .requestChunk _ (.replied (.chunk bytes)) =>
    { body := bytes.length ⌈/⌉ conn.limits.unit
      fresh := bytes.length ⌈/⌉ conn.limits.unit
      flushes := 1 }
  | .requestChunk _ (.replied _) => { replies := 1, flushes := 1 }
  | .requestChunk _ _ => { replies := 1 }
  | .start | .wrongLane | .connected none | .tlsConnected (.error _) | .read none | .wrote _
  | .closed => {}

end Tina.Http2.Client
