import Tina.Http2.Client.Output

/-!
The life of a client stream: the four admission paths, the pulls of a streamed response, and the
ways a stream ends.
-/

namespace Tina.Http2.Client

open ActiveClientStream

open Http (Bytes StatusCode)

section

variable (crates : Crates)

/-- The names that a request does not forward. -/
def unforwardedHeaders : List Text :=
  ["connection", "transfer-encoding", "upgrade", "host", "keep-alive"].map String.toList

def scheme (target : Http2Target) : Text :=
  if target.isTls then "https".toList else "http".toList

def encodeRequestHeader (header : Text × Text) : Bytes :=
  if header.1.head? = some ':' || unforwardedHeaders.contains header.1 then []
  else
    match crates.toStr header.2 with
    | none => []
    | some value => encodeLiteralHeader header.1 value

def encodeRequestHeaderBlock (target : Http2Target) (method path : Text) (headers : HeaderMap) :
    Bytes :=
  encodeLiteralHeader methodName method ++ encodeLiteralHeader schemeName (scheme target) ++
    encodeLiteralHeader pathName path ++
    encodeLiteralHeader authorityName target.authority ++
    headers.flatMap (encodeRequestHeader crates)

def encodeRequestHeaders (target : Http2Target) (req : Http2ClientRequest) : Bytes :=
  encodeRequestHeaderBlock crates target req.method req.path req.headers

def encodeGrpcUnaryRequestHeaderBlock (target : Http2Target) (path : Text) : Bytes :=
  encodeLiteralHeader methodName "POST".toList ++ encodeLiteralHeader schemeName (scheme target) ++
    encodeLiteralHeader pathName path ++
    encodeLiteralHeader authorityName target.authority ++
    encodeLiteralHeader contentTypeName "application/grpc+proto".toList ++
    encodeLiteralHeader teName "trailers".toList

end

section

def countAdmissionFull (report : Http2ClientReport) : Http2ClientReport :=
  { report with admissionFull := report.admissionFull + 1 }

/-- Why a request is not admitted, and how it is counted. The buffered paths count a full outbound
queue by itself (`queueCounted`), the streaming ones with the rest. -/
def refusal (conn : Http2ClientConnection) (queueCounted : Bool) (block : Bytes) :
    Option (Http2ClientOutcome × (Http2ClientReport → Http2ClientReport)) :=
  if conn.goawayReceived || conn.closingAfterWrite then some (.closed, countAdmissionFull)
  else if conn.streamIdExhausted then
    some (.protocolError .streamIdExhausted, countAdmissionFull)
  else if conn.limits.maxConcurrentStreams ≤ conn.streams.length then
    some (.full, countAdmissionFull)
  else if conn.peerMaxConcurrentStreams.any (· ≤ conn.streams.length) then
    some (.full, countAdmissionFull)
  else if conn.limits.connectionOutboundQueueCapacity ≤ conn.writeQueue.length then
    some (.full, if queueCounted then
        fun report => { report with outboundQueueFull := report.outboundQueueFull + 1 }
      else countAdmissionFull)
  else if conn.peerMaxFrameSize < block.length then
    some (.protocolError .outboundHeadersTooLarge,
      fun report => { report with requestTooLarge := report.requestTooLarge + 1 })
  else none

/-- Take the next stream id: `checked_add(2)` on a `u32`. -/
def takeStreamId (conn : Http2ClientConnection) : Http2ClientConnection :=
  if conn.nextStreamId + 2 < 2 ^ 32 then { conn with nextStreamId := conn.nextStreamId + 2 }
  else { conn with streamIdExhausted := true }

/-- What is known of the request body when a stream is opened. -/
def openingNotes (stream : ActiveClientStream) : List Effect :=
  match stream.requestSource with
  | some source => [.attached stream.id source]
  | none => [.body stream.id stream.outboundBody.unsent, .bodyEnd stream.id]

/-- Send HEADERS for a new stream and put it into the table. -/
def openStream (turn : Turn) (block : Bytes) (stream : ActiveClientStream) : Turn :=
  let turn : Turn :=
    { conn := takeStreamId turn.conn, effects := turn.effects ++ openingNotes stream }
  let turn := enqueueFrame turn (headersFrame stream.id stream.requestEndSent block)
  let turn := turn.count fun report => { report with openedStreams := report.openedStreams + 1 }
  let turn := turn.push (.fact (.http2StreamOpened stream.id))
  { turn with conn := { turn.conn with streams := turn.conn.streams ++ [stream] } }

/-- The body of the four admission paths. -/
def admission (queueCounted : Bool) (block : Bytes) (turn : Turn) (waiter : Waiter)
    (stream : ActiveClientStream) (start : Turn → Turn) : Turn :=
  match refusal turn.conn queueCounted block with
  | some (outcome, update) => (turn.count update).push (.reply waiter (.outcome 0 outcome))
  | none => start (openStream turn block stream)

variable (crates : Crates)

def admitStream (turn : Turn) (req : Http2ClientRequest) (waiter : Waiter) : Turn :=
  let conn := turn.conn
  admission true (encodeRequestHeaders crates conn.target req) turn waiter
    { new conn.nextStreamId conn.limits.initialStreamWindow
        conn.peerInitialStreamWindow waiter (.owned req.body 0) with
      requestEndSent := req.body.isEmpty }
    flushOutboundData

def admitGrpcUnaryStream (turn : Turn) (req : Http2ClientGrpcUnaryRequest) (waiter : Waiter) :
    Turn :=
  let conn := turn.conn
  admission true (encodeGrpcUnaryRequestHeaderBlock conn.target req.path) turn waiter
    { new conn.nextStreamId conn.limits.initialStreamWindow
        conn.peerInitialStreamWindow waiter req.body.intoOutbound with
      requestEndSent := req.body.isEmpty
      grpcUnary := true }
    flushOutboundData

def admitStreamingStream (turn : Turn) (req : Http2ClientStreamingRequest) (waiter : Waiter) :
    Turn :=
  let conn := turn.conn
  admission false (encodeRequestHeaderBlock crates conn.target req.method req.path req.headers) turn
    waiter
    (.newStreaming conn.nextStreamId conn.limits.initialStreamWindow conn.peerInitialStreamWindow
      waiter req.source)
    pumpRequestPulls

def admitOpenStream (turn : Turn) (req : Http2ClientStreamCall) (waiter : Waiter) : Turn :=
  let conn := turn.conn
  let stream : ActiveClientStream :=
    match req.body with
    | .buffered bytes =>
      { new conn.nextStreamId conn.limits.initialStreamWindow
          conn.peerInitialStreamWindow waiter (.owned bytes 0) with
        requestEndSent := bytes.isEmpty }
    | .stream source =>
      .newStreaming conn.nextStreamId conn.limits.initialStreamWindow conn.peerInitialStreamWindow
        waiter source
  admission false (encodeRequestHeaderBlock crates conn.target req.method req.path req.headers) turn
    waiter { stream with responseStreamed := true }
    fun turn => pumpRequestPulls (flushOutboundData turn)

end

section

def responseChunkFromOutcome : Http2ClientOutcome → Http2ResponseChunk
  | .reset reason => .reset reason
  | .protocolError error => .protocolError error
  | _ => .closed

/-- Answer a caller, if there is one. -/
def replyTo (turn : Turn) (waiter : Option Waiter) (reply : Http2ClientReply) : Turn :=
  match waiter with
  | none => turn
  | some waiter => turn.push (.reply waiter reply)

/-- The waiter of a stream is told, or else its parked pull: never both. -/
def settleStreamTerminal (turn : Turn) (stream : ActiveClientStream)
    (outcome : Http2ClientOutcome) : Turn :=
  match stream.waiter with
  | some waiter => turn.push (.reply waiter (.outcome stream.id outcome))
  | none =>
    replyTo turn stream.responsePull (.responseChunk stream.id (responseChunkFromOutcome outcome))

def countClosed (report : Http2ClientReport) : Http2ClientReport :=
  { report with closedStreams := report.closedStreams + 1 }

def failStream (turn : Turn) (idx : Nat) (outcome : Http2ClientOutcome)
    (closeReason : Http2CloseReason) : Turn :=
  match turn.conn.streams[idx]? with
  | none => turn
  | some stream =>
    let turn := turn.swapRemoveStreamAt idx
    let turn := cancelRequestSource turn stream
    let turn := turn.count countClosed
    let turn := turn.push (.fact (.http2StreamClosed stream.id closeReason))
    settleStreamTerminal turn stream outcome

def countCancelled (report : Http2ClientReport) : Http2ClientReport :=
  { report with
    locallyCancelled := report.locallyCancelled + 1
    closedStreams := report.closedStreams + 1 }

/-- The tail of a local cancel and of an idle timeout: the stream is reset from this side. -/
def resetLocally (turn : Turn) (idx : Nat) (stream : ActiveClientStream) (streamId : Nat) : Turn :=
  let turn := turn.swapRemoveStreamAt idx
  let turn := cancelRequestSource turn stream
  let turn := enqueueFrame turn (rstStreamFrame streamId errCancel)
  let turn := turn.count countCancelled
  let turn := turn.push (.fact (.http2StreamReset streamId true .cancel))
  settleStreamTerminal turn stream .localCancel

variable (crates : Crates)

def pushFinalStatus (turn : Turn) (streamId : Nat) (status : Option GrpcStatusCode) : Turn :=
  match status with
  | none => turn
  | some status => turn.push (.fact (.grpcFinalStatusReceived streamId status))

/-- The final status of a stream whose headers were stored. -/
def publicFinalStatus (stream : ActiveClientStream) : Option GrpcStatusCode :=
  (grpcStatusFromHeaders crates stream.responseTrailers).or
    (grpcStatusFromHeaders crates stream.responseHeaders)

/-- The end of a streamed response: its source is not told. -/
def completeStreamingStream (turn : Turn) (idx : Nat) : Turn :=
  match turn.conn.streams[idx]? with
  | none => turn
  | some stream =>
    if stream.responseContentLength.any (· ≠ stream.responseBodyReceived) then
      let turn := enqueueFrame turn (rstStreamFrame stream.id errProtocolError)
      failStream turn idx (.protocolError .contentLengthMismatch) .localCloseOnly
    else
      let turn := turn.swapRemoveStreamAt idx
      let turn := turn.count countClosed
      let turn := pushFinalStatus turn stream.id (publicFinalStatus crates stream)
      let turn := turn.push (.fact (.http2StreamClosed stream.id .endStream))
      replyTo turn stream.responsePull (.responseChunk stream.id (.finish stream.responseTrailers))

/-- A stream whose pull has got the next chunk. -/
def deliveredStream (stream : ActiveClientStream) (bytes : Bytes) (rest : List Bytes) :
    ActiveClientStream :=
  { stream with
    responseChunks := rest
    responsePull := none
    recvWindow := satAddI32 stream.recvWindow (asI32 bytes.length) }

def deliverToParkedPull (turn : Turn) (idx : Nat) : Turn :=
  match turn.conn.streams[idx]? with
  | none => turn
  | some stream =>
    match stream.responsePull with
    | none => turn
    | some pull =>
      match stream.responseChunks with
      | bytes :: rest =>
        let turn := turn.setStream idx (deliveredStream stream bytes rest)
        let turn := enqueueFrame turn (windowUpdateFrame stream.id bytes.length)
        (turn.push (.reply pull (.responseChunk stream.id (.data bytes)))).push (.sleep stream.id)
      | [] => if stream.responseEof then completeStreamingStream crates turn idx else turn

/-- The outcome of a buffered response. -/
def completedOutcome (stream : ActiveClientStream) : Http2ClientOutcome :=
  match stream.responseStatus with
  | none => .protocolError .invalidPseudoHeaders
  | some status =>
    if stream.grpcUnary then
      .grpcUnaryReplied status stream.grpcStatus stream.grpcMessage stream.responseBody
    else
      .replied ⟨status, stream.responseHeaders, stream.responseBody, stream.responseTrailers⟩

def completeStream (turn : Turn) (idx : Nat) : Turn :=
  match turn.conn.streams[idx]? with
  | none => turn
  | some stream =>
    let turn := turn.swapRemoveStreamAt idx
    let turn := cancelRequestSource turn stream
    let turn := turn.count countClosed
    let turn := turn.push (.fact (.http2StreamClosed stream.id .endStream))
    let turn := pushFinalStatus turn stream.id
      (if stream.grpcUnary then stream.grpcStatus.map GrpcStatusCode.fromU16
       else publicFinalStatus crates stream)
    replyTo turn stream.waiter (.outcome stream.id (completedOutcome stream))

/-- The head of a streamed response goes to the caller that opened it. -/
def sendResponseHead (turn : Turn) (idx : Nat) : Turn :=
  match turn.conn.streams[idx]? with
  | none => turn
  | some stream =>
    let status := stream.responseStatus.getD 200
    let turn := turn.setStream idx { stream with responseHeadSent := true, waiter := none }
    let turn := replyTo turn stream.waiter
      (.outcome stream.id (.responseStreaming status stream.responseHeaders))
    turn.push (.sleep stream.id)

end

/-- Every stream of the table is cancelled at its source and told the outcome. -/
def settleStreams (turn : Turn) (outcome : Http2ClientOutcome) : Turn :=
  let streams := turn.conn.streams
  let turn := { turn with conn := { turn.conn with streams := [] } }
  streams.foldl
    (fun turn stream => settleStreamTerminal (cancelRequestSource turn stream) stream outcome) turn

/-- The waiters of the requests that were queued before the connection was up. -/
def queuedWaiters (conn : Http2ClientConnection) : List Waiter :=
  conn.queuedSubmits.map (·.2) ++ conn.queuedGrpcUnary.map (·.2) ++
    conn.queuedStreaming.map (·.2) ++ conn.queuedOpen.map (·.2)

def clearQueued (conn : Http2ClientConnection) : Http2ClientConnection :=
  { conn with queuedSubmits := [], queuedGrpcUnary := [], queuedStreaming := [], queuedOpen := [] }

def settleQueued (turn : Turn) (outcome : Http2ClientOutcome) : Turn :=
  let waiters := queuedWaiters turn.conn
  let turn := { turn with conn := clearQueued turn.conn }
  waiters.foldl (fun turn waiter => turn.push (.reply waiter (.outcome 0 outcome))) turn

def failAll (turn : Turn) (outcome : Http2ClientOutcome) : Turn :=
  (settleStreams (settleQueued turn outcome) outcome).push .stop

def closeWith (turn : Turn) (outcome : Http2ClientOutcome) : Turn :=
  closeNow (settleQueued (settleStreams turn outcome) outcome)

def errorCode : Http2ProtocolError → Nat
  | .frameTooLarge _ _ => errFrameSizeError
  | .flowControl => errFlowControlError
  | .windowOverflow => errFlowControlError
  | .settingsUnsupported => errSettingsError
  | _ => errProtocolError

def protocolError (turn : Turn) (error : Http2ProtocolError) : Turn :=
  let turn := turn.count fun report => { report with protocolErrors := report.protocolErrors + 1 }
  let turn := enqueueFrame turn (goawayFrame turn.conn.nextStreamId (errorCode error))
  let turn := settleStreams turn (.protocolError error)
  pumpIo { turn with conn := { turn.conn with closingAfterWrite := true } }

def beginGoawayShutdown (turn : Turn) : Turn :=
  if turn.conn.stream.isNone then failAll turn .closed
  else
    let turn := enqueueFrame turn (goawayFrame turn.conn.nextStreamId errNoError)
    pumpIo { turn with conn := { turn.conn with closingAfterWrite := true } }

end Tina.Http2.Client
