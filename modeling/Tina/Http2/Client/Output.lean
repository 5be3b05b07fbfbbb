import Tina.Http2.Client.Types
import Tina.Lib.SwapRemove

/-!
What a turn of the client isolate is made of: its effects, the outbound queue, the flush of request
bodies under the two send windows, and the pump that keeps reads and writes going.
-/

namespace Tina.Http2.Client

open Http (Bytes)
open Lib

inductive Http2CloseReason where
  | endStream
  | goAway
  | localCloseOnly
  | remoteCloseOnly
deriving DecidableEq

inductive ProtocolFact where
  | http2StreamOpened (streamId : Nat)
  | http2StreamReset (streamId : Nat) (outbound : Bool) (reason : Http2ResetReason)
  | http2StreamClosed (streamId : Nat) (reason : Http2CloseReason)
  | grpcFinalStatusReceived (streamId : Nat) (status : GrpcStatusCode)
deriving DecidableEq

/-- The effects of a turn. The last group are no effects of the source: they note, in their place
among the effects, what the turn queued and what it took over from its callers and its peer. -/
inductive Effect where
  | reply (waiter : Waiter) (reply : Http2ClientReply)
  | reject (waiter : Waiter) (reason : CallRejectedReason)
  | connect
  | write (bytes : Bytes)
  | read
  | close
  | stop
  /-- `call(source, Next)`; the answer comes back for the stream. -/
  | nextChunk (streamId : Nat) (source : RegisteredAddress)
  /-- `call(source, Cancel)` for the source of a stream. -/
  | cancelSource (streamId : Nat) (source : RegisteredAddress)
  /-- The idle timer of a streamed response. -/
  | sleep (streamId : Nat)
  | fact (fact : ProtocolFact)
  /-- A frame was handed to the outbound queue; `waiting` is how many were waiting in `write_queue`
  when it was pushed there, and `none` when it joined the pending write. -/
  | queued (frame : Frame) (waiting : Option Nat)
  /-- Bytes of the request body of a stream became known. -/
  | body (streamId : Nat) (bytes : Bytes)
  /-- The request body of a stream is known to its end. -/
  | bodyEnd (streamId : Nat)
  /-- A streaming source was attached to a stream. -/
  | attached (streamId : Nat) (source : RegisteredAddress)
  /-- A WINDOW_UPDATE was taken over, for an open stream or, with id zero, for the connection. -/
  | credited (streamId increment : Nat)
  | initialWindow (value : Nat)
  | maxFrameSize (value : Nat)
deriving DecidableEq

structure Turn where
  conn : Http2ClientConnection
  effects : List Effect := []

namespace Turn

def push (turn : Turn) (effect : Effect) : Turn :=
  { turn with effects := turn.effects ++ [effect] }

def count (turn : Turn) (update : Http2ClientReport → Http2ClientReport) : Turn :=
  { turn with conn := { turn.conn with report := update turn.conn.report } }

def setStream (turn : Turn) (idx : Nat) (stream : ActiveClientStream) : Turn :=
  { turn with conn := { turn.conn with streams := turn.conn.streams.set idx stream } }

/-- `swap_remove_stream_at`, without the stream that it returns. -/
def swapRemoveStreamAt (turn : Turn) (idx : Nat) : Turn :=
  { turn with conn := { turn.conn with streams := swapRemove turn.conn.streams idx } }

end Turn

/-- The slot of a stream and the stream in it. -/
def findStream (conn : Http2ClientConnection) (streamId : Nat) :
    Option (Nat × ActiveClientStream) :=
  (conn.streams.findIdx? (·.id = streamId)).bind fun idx =>
    conn.streams[idx]?.map fun stream => (idx, stream)

/-- `enqueue_frame`, and `enqueue_bytes` on the bytes of the frame. -/
def enqueueFrame (turn : Turn) (frame : Frame) : Turn :=
  let conn := turn.conn
  let bytes := frame.encode
  let pushed : Turn :=
    { conn := { conn with writeQueue := conn.writeQueue ++ [bytes] }
      effects := turn.effects ++ [.queued frame (some conn.writeQueue.length)] }
  if conn.writeInFlight then pushed
  else if conn.pendingWrite.isEmpty then
    { conn := { conn with pendingWrite := bytes }, effects := turn.effects ++ [.queued frame none] }
  else if conn.writeQueue.isEmpty &&
      conn.pendingWrite.length + bytes.length ≤ conn.peerMaxFrameSize then
    { conn := { conn with pendingWrite := conn.pendingWrite ++ bytes }
      effects := turn.effects ++ [.queued frame none] }
  else pushed

/-- Join queued writes as long as they fit a frame of the peer. -/
def coalesce (maxFrameSize : Nat) (next : Bytes) : List Bytes → Bytes × List Bytes
  | [] => (next, [])
  | more :: rest =>
    if next.length + more.length ≤ maxFrameSize then coalesce maxFrameSize (next ++ more) rest
    else (next, more :: rest)

def promoteQueuedWrite (conn : Http2ClientConnection) : Http2ClientConnection :=
  if !conn.pendingWrite.isEmpty then conn
  else
    match conn.writeQueue with
    | [] => conn
    | next :: rest =>
      let (pending, queue) := coalesce conn.peerMaxFrameSize next rest
      { conn with pendingWrite := pending, writeQueue := queue }

def fullDuplex (conn : Http2ClientConnection) : Bool :=
  match conn.stream with
  | some (.tcp _) => true
  | _ => false

def closeNow (turn : Turn) : Turn :=
  if turn.conn.stream.isNone then turn.push .stop else turn.push .close

/-- Write what is pending; with nothing left, a closing connection closes. -/
def writePending (turn : Turn) : Turn :=
  let conn := turn.conn
  if conn.stream.isNone then turn
  else if conn.pendingWrite.isEmpty then
    if conn.closingAfterWrite then closeNow turn else turn
  else
    { turn with conn := { conn with writeInFlight := true, pendingWrite := [] } }.push
      (.write conn.pendingWrite)

def writeMore (turn : Turn) : Turn :=
  if turn.conn.writeInFlight then turn
  else if turn.conn.pendingWrite.isEmpty then
    writePending { turn with conn := promoteQueuedWrite turn.conn }
  else writePending turn

def readMore (turn : Turn) : Turn :=
  if turn.conn.stream.isNone then turn
  else { turn with conn := { turn.conn with readInFlight := true } }.push .read

/-- The last lines of `pump_io`. -/
def armRead (fullDuplex hasOutbound : Bool) (turn : Turn) : Turn :=
  if !turn.conn.closingAfterWrite && !turn.conn.readInFlight &&
      (fullDuplex || (!turn.conn.writeInFlight && !hasOutbound)) then readMore turn
  else turn

def pumpIo (turn : Turn) : Turn :=
  let conn := turn.conn
  if conn.stream.isNone then turn
  else
    let duplex := fullDuplex conn
    let hasOutbound := !conn.pendingWrite.isEmpty || !conn.writeQueue.isEmpty
    if hasOutbound && !conn.writeInFlight && (duplex || !conn.readInFlight) then
      let turn := writeMore turn
      if duplex then armRead duplex hasOutbound turn else turn
    else if conn.closingAfterWrite && !hasOutbound && !conn.writeInFlight then closeNow turn
    else armRead duplex hasOutbound turn

/-- How many bytes of a stream may go into one frame. -/
def flushCredit (maxChunk : Nat) (conn : Http2ClientConnection) (stream : ActiveClientStream) :
    Nat :=
  min (min (min stream.sendWindow conn.sendWindow) (asI32 maxChunk)).toNat stream.outboundRemaining

/-- END_STREAM goes out with the last bytes of a body that is known to its end. -/
def lastChunk (stream : ActiveClientStream) (credit : Nat) : Bool :=
  credit = stream.outboundRemaining && stream.requestComplete

/-- The stream once its next `credit` bytes are framed. -/
def chargedStream (stream : ActiveClientStream) (credit : Nat) : ActiveClientStream :=
  { stream with
    outboundBody := stream.outboundBody.advance credit
    requestEndSent := stream.requestEndSent || lastChunk stream credit
    sendWindow := stream.sendWindow - credit }

/-- Take `credit` bytes off the body of a stream and off both windows. -/
def chargeStream (turn : Turn) (idx : Nat) (stream : ActiveClientStream) (credit : Nat) : Turn :=
  let turn := turn.setStream idx (chargedStream stream credit)
  { turn with conn := { turn.conn with sendWindow := turn.conn.sendWindow - credit } }

def sendChunk (turn : Turn) (idx : Nat) (stream : ActiveClientStream) (credit : Nat) : Turn :=
  enqueueFrame (chargeStream turn idx stream credit)
    (dataFrame stream.id (lastChunk stream credit) (stream.outboundBody.slice credit))

/-- One stream of one round: at most one DATA frame. The flag says whether one was sent. -/
def flushStreamAt (maxChunk : Nat) (turn : Turn) (idx : Nat) : Turn × Bool :=
  if turn.conn.sendWindow ≤ 0 then (turn, false)
  else
    match turn.conn.streams[idx]? with
    | none => (turn, false)
    | some stream =>
      if !stream.hasOutbound then (turn, false)
      else if stream.sendWindow ≤ 0 then
        (turn.count fun report => { report with flowControlParks := report.flowControlParks + 1 },
          false)
      else if flushCredit maxChunk turn.conn stream = 0 then (turn, false)
      else (sendChunk turn idx stream (flushCredit maxChunk turn.conn stream), true)

/-- One round over the streams. -/
def flushRound (maxChunk : Nat) (turn : Turn) : List Nat → Turn × Bool
  | [] => (turn, false)
  | idx :: rest =>
    let (turn, sent) := flushStreamAt maxChunk turn idx
    let (turn, more) := flushRound maxChunk turn rest
    (turn, sent || more)

/-- Rounds as long as they make progress. Each of them takes at least one byte from the connection
window, so the window is fuel enough. -/
def flushRounds (maxChunk : Nat) : Nat → Turn → Turn
  | 0, turn => turn
  | fuel + 1, turn =>
    if turn.conn.sendWindow ≤ 0 then turn
    else
      let (turn, progressed) := flushRound maxChunk turn (List.range turn.conn.streams.length)
      if progressed then flushRounds maxChunk fuel turn else turn

/-- The streams that have sent their whole body but not its end. -/
def pendingEnd (conn : Http2ClientConnection) : List Nat :=
  (conn.streams.filter fun stream =>
    stream.requestComplete && !stream.hasOutbound && !stream.requestEndSent).map (·.id)

def endStream (turn : Turn) (streamId : Nat) : Turn :=
  let turn :=
    match findStream turn.conn streamId with
    | none => turn
    | some (idx, stream) => turn.setStream idx { stream with requestEndSent := true }
  enqueueFrame turn (dataFrame streamId true [])

def flushOutboundData (turn : Turn) : Turn :=
  let maxChunk := min turn.conn.limits.maxFrameSize turn.conn.peerMaxFrameSize
  let turn := if 0 < maxChunk then flushRounds maxChunk turn.conn.sendWindow.toNat turn else turn
  (pendingEnd turn.conn).foldl endStream turn

/-- Pull from one stream's source when nothing of its body is left to send. -/
def pumpRequestPull (turn : Turn) (idx : Nat) : Turn :=
  match turn.conn.streams[idx]? with
  | none => turn
  | some stream =>
    match stream.requestSource with
    | none => turn
    | some source =>
      if stream.requestComplete || stream.requestPullInFlight || stream.hasOutbound then turn
      else
        (turn.setStream idx { stream with requestPullInFlight := true }).push
          (.nextChunk stream.id source)

def pumpRequestPulls (turn : Turn) : Turn :=
  (List.range turn.conn.streams.length).foldl pumpRequestPull turn

def cancelRequestSource (turn : Turn) (stream : ActiveClientStream) : Turn :=
  match stream.requestSource with
  | none => turn
  | some source => turn.push (.cancelSource stream.id source)

end Tina.Http2.Client
