import Tina.Http2.Client.Input
import Tina.Lib.Runs

/-!
The client isolate among its callers, its sources and its transport. A move is one message that the
isolate handles; the answers of the runtime come only to operations that are outstanding, and the
history keeps every effect in order.
-/

namespace Tina.Http2.Client

open Http (Bytes ResponseChunkReply)
section

variable (crates : Crates)

def handleResponseIdleTimeout (turn : Turn) (streamId : Nat) : Turn :=
  match findStream turn.conn streamId with
  | none => turn
  | some (idx, stream) =>
    if !stream.responseStreamed || !stream.responseHeadSent || stream.responsePull.isSome then turn
    else if stream.responseEof then pumpIo (completeStreamingStream crates turn idx)
    else pumpIo (resetLocally turn idx stream streamId)

/-- A second `Begin` before the connect has completed connects again. -/
def beginConnect (turn : Turn) : Turn :=
  if turn.conn.prefaceSent || turn.conn.stream.isSome then turn else turn.push .connect

def wrongLaneMessage (turn : Turn) : Turn :=
  turn.count fun report => { report with wrongLaneMessages := report.wrongLaneMessages + 1 }

/-- The preface, the initial SETTINGS and the extra connection credit. -/
def connectionPreface (limits : Http2ClientLimits) : Bytes :=
  let settings :=
    setting settingsInitialWindowSize limits.initialStreamWindow.toNat ++
      setting settingsMaxFrameSize limits.maxFrameSize ++ setting settingsEnablePush 0
  let extra := limits.initialConnectionWindow - defaultWindow
  clientPreface ++ (Frame.mk frameSettings 0 0 settings).encode ++
    (if 0 < extra then (windowUpdateFrame 0 extra.toNat).encode else [])

/-- The connection is up: its queues are taken out and the preface is pending. -/
def raise (conn : Http2ClientConnection) (stream : ClientStream) : Http2ClientConnection :=
  { clearQueued conn with
    stream := some stream
    prefaceSent := true
    pendingWrite := connectionPreface conn.limits }

/-- Admit what waited in the queues of `conn`. -/
def admitQueued (conn : Http2ClientConnection) (turn : Turn) : Turn :=
  let turn := conn.queuedSubmits.foldl (fun turn entry =>
    admitStream crates turn entry.1 entry.2) turn
  let turn := conn.queuedGrpcUnary.foldl (fun turn entry =>
    admitGrpcUnaryStream turn entry.1 entry.2) turn
  let turn := conn.queuedStreaming.foldl (fun turn entry =>
    admitStreamingStream crates turn entry.1 entry.2) turn
  conn.queuedOpen.foldl (fun turn entry => admitOpenStream crates turn entry.1 entry.2) turn

def handleConnected (turn : Turn) (stream : ClientStream) : Turn :=
  pumpIo (admitQueued crates turn.conn { turn with conn := raise turn.conn stream })

def handleTlsConnected (turn : Turn) (stream : Nat) (selectedAlpn : Option Bytes) : Turn :=
  let wantsH2 :=
    match turn.conn.target with
    | .tls _ alpnH2 => alpnH2
    | .h2c _ => false
  if wantsH2 && selectedAlpn ≠ some [104, 50] then closeWith turn .tlsAlpnMismatch
  else handleConnected crates turn (.tls stream)

/-- Before the connection is up, a request waits in its queue, or is refused when they are full. -/
def queueOrAdmit (turn : Turn) (waiter : Waiter)
    (queue : Http2ClientConnection → Http2ClientConnection) (start : Turn → Turn) : Turn :=
  if turn.conn.stream.isNone then
    if turn.conn.limits.preConnectSubmitCapacity ≤ (queuedWaiters turn.conn).length then
      (turn.count countAdmissionFull).push (.reply waiter (.outcome 0 .full))
    else { turn with conn := queue turn.conn }
  else pumpIo (start turn)

def handleSubmit (turn : Turn) (req : Http2ClientRequest) (waiter : Waiter) : Turn :=
  queueOrAdmit turn waiter
    (fun conn => { conn with queuedSubmits := conn.queuedSubmits ++ [(req, waiter)] })
    (admitStream crates · req waiter)

def handleSubmitGrpcUnary (turn : Turn) (req : Http2ClientGrpcUnaryRequest) (waiter : Waiter) :
    Turn :=
  queueOrAdmit turn waiter
    (fun conn => { conn with queuedGrpcUnary := conn.queuedGrpcUnary ++ [(req, waiter)] })
    (admitGrpcUnaryStream · req waiter)

def handleSubmitStreaming (turn : Turn) (req : Http2ClientStreamingRequest) (waiter : Waiter) :
    Turn :=
  queueOrAdmit turn waiter
    (fun conn => { conn with queuedStreaming := conn.queuedStreaming ++ [(req, waiter)] })
    (admitStreamingStream crates · req waiter)

def handleOpenStream (turn : Turn) (req : Http2ClientStreamCall) (waiter : Waiter) : Turn :=
  queueOrAdmit turn waiter
    (fun conn => { conn with queuedOpen := conn.queuedOpen ++ [(req, waiter)] })
    (admitOpenStream crates · req waiter)

/-- The stream whose source has answered. -/
def answeredStream (stream : ActiveClientStream) : ActiveClientStream :=
  { stream with requestPullInFlight := false }

def resumeUpload (turn : Turn) : Turn :=
  pumpIo (pumpRequestPulls (flushOutboundData turn))

/-- The answer of a request source: more of the body, its end, or a failure. -/
def handleRequestChunk (turn : Turn) (streamId : Nat) (outcome : CallOutcome ResponseChunkReply) :
    Turn :=
  match findStream turn.conn streamId with
  | none => turn
  | some (idx, stream) =>
    match outcome with
    | .replied (.chunk bytes) =>
      resumeUpload ((turn.setStream idx { answeredStream stream with
        outboundBody := stream.outboundBody.append bytes }).push (.body streamId bytes))
    | .replied _ =>
      resumeUpload ((turn.setStream idx { answeredStream stream with
        requestComplete := true }).push (.bodyEnd streamId))
    | _ =>
      let turn := enqueueFrame (turn.setStream idx (answeredStream stream))
        (rstStreamFrame streamId errCancel)
      pumpIo (failStream turn idx .localCancel .localCloseOnly)

def handleResponseNext (turn : Turn) (streamId : Nat) (waiter : Waiter) : Turn :=
  match findStream turn.conn streamId with
  | none => turn.push (.reply waiter (.responseChunk streamId .closed))
  | some (idx, stream) =>
    if !stream.responseStreamed || stream.responsePull.isSome then
      turn.push (.reject waiter .unsupportedMessage)
    else
      pumpIo (deliverToParkedPull crates
        (turn.setStream idx { stream with responsePull := some waiter }) idx)

def handleCancel (turn : Turn) (streamId : Nat) : Turn :=
  match findStream turn.conn streamId with
  | none => turn
  | some (idx, stream) =>
    pumpIo (resetLocally turn idx stream streamId)

def handleWrote (turn : Turn) (bytes : Bytes) (written : Nat) : Turn :=
  let rest := bytes.drop (min written bytes.length)
  let conn := { turn.conn with writeInFlight := false, pendingWrite := rest }
  pumpIo { turn with conn := if rest.isEmpty then promoteQueuedWrite conn else conn }

end

/-- The messages that come with a reply slot. -/
inductive ClientCall where
  | submit (req : Http2ClientRequest)
  | submitGrpcUnary (req : Http2ClientGrpcUnaryRequest)
  | submitStreaming (req : Http2ClientStreamingRequest)
  | openStream (req : Http2ClientStreamCall)
  | responseNext (streamId : Nat)
  | report
  | unsupported

/-- `handle_call`. -/
def handleCall (crates : Crates) (turn : Turn) (waiter : Waiter) : ClientCall → Turn
  | .submit req => handleSubmit crates turn req waiter
  | .submitGrpcUnary req => handleSubmitGrpcUnary turn req waiter
  | .submitStreaming req => handleSubmitStreaming crates turn req waiter
  | .openStream req => handleOpenStream crates turn req waiter
  | .responseNext streamId => handleResponseNext crates turn streamId waiter
  | .report => turn.push (.reply waiter (.report turn.conn.report))
  | .unsupported => turn.push (.reject waiter .unsupportedMessage)

/-- One message for the isolate. Failures of the transport carry no data that is read, but for the
ALPN mismatch of a TLS connect. -/
inductive Move where
  | start
  | stop
  | cancel (streamId : Nat)
  /-- A message with a reply slot was sent without one. -/
  | wrongLane
  | call (call : ClientCall)
  | connected (stream : Option Nat)
  | tlsConnected (result : Except Bool (Nat × Option Bytes))
  /-- What a read returned; `none` for an error. -/
  | read (bytes : Option Bytes)
  /-- How much of a write was taken; `none` for an error. -/
  | wrote (written : Option Nat)
  | closed
  | requestChunk (streamId : Nat) (outcome : CallOutcome ResponseChunkReply)
  | responseIdleTimeout (streamId : Nat)

structure Link where
  conn : Http2ClientConnection
  connects : Nat := 0
  reads : Nat := 0
  writes : List Bytes := []
  closes : Nat := 0
  /-- The streams whose sources have been asked for a chunk. -/
  pulls : List Nat := []
  /-- The streams with an idle timer. -/
  timers : List Nat := []
  nextWaiter : Waiter := 0
  stopped : Bool := false
  history : List Effect := []

namespace Link

def initial (target : Http2Target) (limits : Http2ClientLimits) : Link where
  conn := .initial target limits

/-- Start what an effect asks for. -/
def perform (link : Link) : Effect → Link
  | .connect => { link with connects := link.connects + 1 }
  | .read => { link with reads := link.reads + 1 }
  | .write bytes => { link with writes := link.writes ++ [bytes] }
  | .close => { link with closes := link.closes + 1 }
  | .stop => { link with stopped := true }
  | .nextChunk streamId _ => { link with pulls := link.pulls ++ [streamId] }
  | .sleep streamId => { link with timers := link.timers ++ [streamId] }
  | _ => link

/-- Take over a finished turn. -/
def finish (link : Link) (turn : Turn) : Link :=
  { turn.effects.foldl perform link with
    conn := turn.conn
    history := link.history ++ turn.effects }

/-- Handle one message, if it can arrive. -/
def step (crates : Crates) (link : Link) (move : Move) : Option Link :=
  let turn : Turn := { conn := link.conn }
  if link.stopped then none
  else
    match move with
    | .start => some (link.finish (beginConnect turn))
    | .stop => some (link.finish (beginGoawayShutdown turn))
    | .cancel streamId => some (link.finish (handleCancel turn streamId))
    | .wrongLane => some (link.finish (wrongLaneMessage turn))
    | .call call =>
      some ({ link with nextWaiter := link.nextWaiter + 1 }.finish
        (handleCall crates turn link.nextWaiter call))
    | .connected stream =>
      if link.connects = 0 || link.conn.target.isTls then none
      else
        some ({ link with connects := link.connects - 1 }.finish (match stream with
          | some stream => handleConnected crates turn (.tcp stream)
          | none => closeWith turn .closed))
    | .tlsConnected result =>
      if link.connects = 0 || !link.conn.target.isTls then none
      else
        some ({ link with connects := link.connects - 1 }.finish (match result with
          | .ok (stream, alpn) => handleTlsConnected crates turn stream alpn
          | .error alpnMismatch =>
            closeWith turn (if alpnMismatch then .tlsAlpnMismatch else .closed)))
    | .read bytes =>
      if link.reads = 0 then none
      else
        some ({ link with reads := link.reads - 1 }.finish (match bytes with
          | some bytes => handleRead crates turn bytes
          | none => closeWith turn .closed))
    | .wrote written =>
      match link.writes with
      | [] => none
      | bytes :: rest =>
        some ({ link with writes := rest }.finish (match written with
          | some written => handleWrote turn bytes written
          | none => closeWith turn .closed))
    | .closed =>
      if link.closes = 0 then none
      else some ({ link with closes := link.closes - 1 }.finish (turn.push .stop))
    | .requestChunk streamId outcome =>
      if link.pulls.contains streamId then
        some ({ link with pulls := link.pulls.erase streamId }.finish
          (handleRequestChunk turn streamId outcome))
      else none
    | .responseIdleTimeout streamId =>
      if link.timers.contains streamId then
        some ({ link with timers := link.timers.erase streamId }.finish
          (handleResponseIdleTimeout crates turn streamId))
      else none

end Link

end Tina.Http2.Client
