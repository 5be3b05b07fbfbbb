import Tina.Http.Parse

/-!
`HttpConnection`, the isolate that owns one HTTP/1 stream. Its handlers are functions of the state
that return the new state and the effects in the order the source batches them.

Left out: the identity the isolate captures, the scratch buffer, the counters that body metrics only
record, and everything a WebSocket session does after the upgrade.
-/

namespace Tina.Http

def READ_CHUNK : Nat := 4096

def COALESCE_BUFFERED_RESPONSE_BODY_LIMIT : Nat := READ_CHUNK

inductive HttpTransport where
  | tcp
  | tls
deriving DecidableEq

inductive ServiceDelivery where
  | call
  | admission

inductive HttpPeerMonitorOutcome where
  | disconnected
  | readAhead (bytes : Bytes)

inductive Effect where
  /-- A read of `READ_CHUNK` bytes whose reply is `Read`. -/
  | readMore
  /-- A read whose reply is `BodyChunkRead`. -/
  | readBody (want : Nat)
  | sleep (deadline : Duration) (generation : Nat)
  | callService (request : HttpRequest)
  | admitEvent (request : HttpRequest)
  | spawnMonitor
  | write (bytes : Bytes)
  | writeClose (bytes : Bytes)
  | pullChunk (source : RegisteredAddress)
  | cancelSource (source : RegisteredAddress)
  /-- Answer the call whose context the connection has captured. -/
  | replyTo (reply : RequestChunkReply)
  | reply (reply : RequestChunkReply)
  | reject (reason : CallRejectedReason)
  | close
  | stop
  /-- The message goes to the WebSocket session. -/
  | webSocket

structure HttpConnection where
  transport : HttpTransport
  delivery : ServiceDelivery
  limits : HttpLimits
  /-- Body metrics are configured. -/
  metrics : Bool
  metricsRequestCharge : Nat
  metricsResponseCharge : Nat
  readBuf : Bytes
  parsedHead : Option HttpRequestHead
  headLen : Nat
  pendingResponse : Bytes
  pendingBufferedBody : Option Bytes
  /-- The connection was upgraded. -/
  websocket : Bool
  streamSource : Option RegisteredAddress
  streamBytesRemaining : Nat
  streamChunked : Bool
  inboundTotal : Nat
  inboundReceived : Nat
  inboundDelivered : Nat
  inboundBuffer : Bytes
  inboundChunkSize : Nat
  chunkedDecoder : Option ChunkedDecoder
  chunkedRawBuffer : Bytes
  inboundChunked : Bool
  willClose : Bool
  requestGeneration : Nat
  headDeadlineArmed : Bool
  bodyEofReplied : Bool
  /-- The caller of a pull is captured. -/
  pendingRequestBodyReply : Bool
  /-- The address of a monitor is known. -/
  serviceMonitor : Bool
  pendingServiceMessage : Option HttpRequest
  serviceReadAhead : Bytes
  waitingForMonitorAfterResponse : Bool
  serviceMonitorTerminalSeen : Bool
  servicePeerMonitorEnabled : Bool

/-- What the shared body counters answer to the first and to the second charge of a turn. -/
structure Charges where
  first : Bool
  second : Bool

abbrev Turn := HttpConnection × List Effect

namespace HttpConnection

def withDeliveryAndMetrics (transport : HttpTransport) (delivery : ServiceDelivery)
    (limits : HttpLimits) (metrics servicePeerMonitorEnabled : Bool) : HttpConnection where
  transport
  delivery
  limits
  metrics
  metricsRequestCharge := 0
  metricsResponseCharge := 0
  readBuf := []
  parsedHead := none
  headLen := 0
  pendingResponse := []
  pendingBufferedBody := none
  websocket := false
  streamSource := none
  streamBytesRemaining := 0
  streamChunked := false
  inboundTotal := 0
  inboundReceived := 0
  inboundDelivered := 0
  inboundBuffer := []
  inboundChunkSize := 0
  chunkedDecoder := none
  chunkedRawBuffer := []
  inboundChunked := false
  willClose := false
  requestGeneration := 0
  headDeadlineArmed := true
  bodyEofReplied := false
  pendingRequestBodyReply := false
  serviceMonitor := false
  pendingServiceMessage := none
  serviceReadAhead := []
  waitingForMonitorAfterResponse := false
  serviceMonitorTerminalSeen := false
  servicePeerMonitorEnabled

variable (conn : HttpConnection)

/-- `none` when the shared counters refuse the charge. -/
def chargeRequest (admitted : Bool) (n : Nat) : Option HttpConnection :=
  if n = 0 || !conn.metrics then some conn
  else if admitted then some { conn with metricsRequestCharge := conn.metricsRequestCharge + n }
  else none

def releaseRequest (n : Nat) : HttpConnection :=
  { conn with metricsRequestCharge := conn.metricsRequestCharge - n }

def releaseRequestAll : HttpConnection :=
  { conn with metricsRequestCharge := 0 }

def chargeResponse (admitted : Bool) (n : Nat) : Option HttpConnection :=
  if n = 0 || !conn.metrics then some conn
  else if admitted then some { conn with metricsResponseCharge := conn.metricsResponseCharge + n }
  else none

def releaseResponse (n : Nat) : HttpConnection :=
  { conn with metricsResponseCharge := conn.metricsResponseCharge - n }

def releaseResponseAll : HttpConnection :=
  { conn with metricsResponseCharge := 0 }

def cancelStreamSource : Turn :=
  ({ conn with streamSource := none }, conn.streamSource.toList.map .cancelSource)

def beginClose : Turn :=
  let (conn, cancel) := conn.releaseRequestAll.releaseResponseAll.cancelStreamSource
  (conn, cancel ++ [.close])

/-- Tell the source of a streamed response and close. -/
def abandon : Turn :=
  let (conn, cancel) := conn.cancelStreamSource
  let (conn, close) := conn.beginClose
  (conn, cancel ++ close)

/-- The connection still owes the wire body bytes. -/
def hasPendingBody : Bool :=
  0 < conn.metricsResponseCharge || conn.pendingBufferedBody.isSome ||
    conn.streamSource.isSome && (conn.streamChunked || 0 < conn.streamBytesRemaining)

def writePending : Turn :=
  ({ conn with pendingResponse := [] }, [.write conn.pendingResponse])

/-- Over TLS there is no write that also closes. -/
def writePendingClose : Turn :=
  match conn.transport with
  | .tcp => ({ conn with pendingResponse := [] }, [.writeClose conn.pendingResponse])
  | .tls => conn.writePending

/-- The response bytes of a body that is in memory: sent with the head when it is short, else
queued behind it. -/
def queueBuffered (headBytes body : Bytes) : HttpConnection :=
  if !conn.metrics && body.length ≤ COALESCE_BUFFERED_RESPONSE_BODY_LIMIT then
    { conn with pendingResponse := headBytes ++ body }
  else if body ≠ [] then
    { conn with pendingResponse := headBytes, pendingBufferedBody := some body }
  else { conn with pendingResponse := headBytes }

def startBuffered (headBytes body : Bytes) : Turn :=
  let conn := conn.queueBuffered headBytes body
  if conn.willClose && conn.transport = .tcp && conn.pendingBufferedBody.isNone then
    conn.writePendingClose
  else conn.writePending

def startWriting (crates : Crates) (response : HttpResponse) : Turn :=
  let connectionClose := response.body ≠ .webSocket && conn.willClose
  let headBytes := crates.encodeResponseHead response connectionClose
  match response.body with
  | .buffered body => conn.startBuffered headBytes body
  | .shared body => conn.startBuffered headBytes body
  | .stream contentLength source =>
    { conn with
      pendingResponse := headBytes
      streamSource := some source
      streamBytesRemaining := contentLength
      streamChunked := false : HttpConnection }.writePending
  | .chunkedStream source =>
    { conn with
      pendingResponse := headBytes
      streamSource := some source
      streamBytesRemaining := 0
      streamChunked := true : HttpConnection }.writePending
  | .webSocket =>
    { conn with pendingResponse := headBytes, websocket := true : HttpConnection }.writePending

def sendParseError (crates : Crates) (error : RequestParseError) : Turn :=
  { conn with willClose := true : HttpConnection }.startWriting crates (.withStatus error.status)

/-- The body of a request with this head is streamed to the service. -/
def streams (limits : HttpLimits) (head : HttpRequestHead) : Bool :=
  limits.inboundStreamChunkSize.isSome && (0 < head.contentLength || head.chunked)

/-- Hand the request to the service, with a monitor of the peer where one is wanted. -/
def deliver (request : HttpRequest) (requestStreamsBody : Bool) : Turn :=
  match conn.delivery with
  | .call =>
    if !conn.servicePeerMonitorEnabled || conn.willClose || requestStreamsBody ||
        conn.serviceReadAhead ≠ [] || conn.transport = .tls then
      (conn, [.callService request])
    else
      ({ conn with pendingServiceMessage := some request, serviceMonitorTerminalSeen := false },
        [.spawnMonitor])
  | .admission => (conn, [.admitEvent request])

/-- The chunked branch of `dispatch_to_service`: decode what came with the head. -/
def dispatchChunked (crates : Crates) (charges : Charges) (head : HttpRequestHead)
    (chunkSize : Nat) : Turn :=
  let raw := conn.readBuf.drop conn.headLen
  let (progress, consumed, decoded, decoder) :=
    (ChunkedDecoder.new conn.limits.maxBodyBytes).feedAll raw []
  let conn := { conn with
    readBuf := []
    chunkedRawBuffer := raw.drop consumed
    inboundTotal := 0
    inboundReceived := consumed
    inboundDelivered := 0
    inboundBuffer := decoded
    inboundChunkSize := Nat.max chunkSize 1 }
  match conn.chargeRequest charges.second decoded.length with
  | none =>
    { conn with
      inboundBuffer := []
      chunkedRawBuffer := []
      chunkedDecoder := none : HttpConnection }.sendParseError crates .bodyTooLarge
  | some conn =>
    let conn := { conn with chunkedDecoder := some decoder, inboundChunked := true }
    match progress with
    | .failed _ =>
      { conn with willClose := true : HttpConnection }.startWriting crates
        (.withStatus RequestParseError.malformedChunkedBody.status)
    | .complete | .needMore =>
      conn.deliver (head.intoStreamingRequest ⟨conn.inboundTotal, head.chunked⟩) true

/-- The branch for a streamed body of known length: what came with the head is kept up to the
end of the body. -/
def dispatchSized (crates : Crates) (charges : Charges) (head : HttpRequestHead)
    (chunkSize : Nat) : Turn :=
  let buf := (conn.readBuf.take (conn.headLen + head.contentLength)).drop conn.headLen
  let conn := { conn with
    readBuf := []
    inboundTotal := head.contentLength
    inboundReceived := buf.length
    inboundDelivered := 0
    inboundBuffer := buf
    inboundChunkSize := Nat.max chunkSize 1 }
  match conn.chargeRequest charges.second buf.length with
  | none => { conn with inboundBuffer := [] : HttpConnection }.sendParseError crates .bodyTooLarge
  | some conn =>
    conn.deliver (head.intoStreamingRequest ⟨conn.inboundTotal, head.chunked⟩) true

/-- The buffered branch: bytes behind the body are read ahead for the next request. -/
def dispatchBuffered (head : HttpRequestHead) : Turn :=
  let bodyEnd := conn.headLen + head.contentLength
  let conn' := { conn with
    readBuf := []
    serviceReadAhead := conn.serviceReadAhead ++ conn.readBuf.drop bodyEnd }
  conn'.deliver (head.intoRequest ((conn.readBuf.take bodyEnd).drop conn.headLen)) false

def dispatchToService (crates : Crates) (charges : Charges) (head : HttpRequestHead) : Turn :=
  let conn := { conn with
    parsedHead := none
    willClose := conn.limits.keepaliveIdleTimeout.isNone || head.connectionClose
    metricsRequestCharge := 0 }
  match conn.limits.inboundStreamChunkSize with
  | none => conn.dispatchBuffered head
  | some chunkSize =>
    if head.chunked then conn.dispatchChunked crates charges head chunkSize
    else if 0 < head.contentLength then conn.dispatchSized crates charges head chunkSize
    else conn.dispatchBuffered head

def maybeDispatchOrReadMore (crates : Crates) (charges : Charges) (head : HttpRequestHead) :
    Turn :=
  if streams conn.limits head then conn.dispatchToService crates charges head
  else if conn.readBuf.length < conn.headLen + head.contentLength then (conn, [.readMore])
  else conn.dispatchToService crates charges head

/-- Bytes for the head: parse what has come. -/
def parseBuffer (crates : Crates) (charges : Charges) : Turn :=
  match crates.parseRequestHead conn.limits conn.readBuf with
  | .needMore => (conn, [.readMore])
  | .complete head headLen =>
    let conn := { conn with parsedHead := some head, headLen, headDeadlineArmed := false }
    if head.chunked then conn.maybeDispatchOrReadMore crates charges head
    else
      match conn.chargeRequest charges.first (conn.readBuf.length - headLen) with
      | none => conn.sendParseError crates .bodyTooLarge
      | some conn => conn.maybeDispatchOrReadMore crates charges head
  | .failed error =>
    { conn with headDeadlineArmed := false : HttpConnection }.sendParseError crates error

def handleBytesRead (crates : Crates) (charges : Charges) (bytes : Bytes) : Turn :=
  if conn.websocket then (conn, [.webSocket])
  else if bytes = [] then conn.abandon
  else
    let conn := { conn with readBuf := conn.readBuf ++ bytes }
    match conn.parsedHead with
    | none => conn.parseBuffer crates charges
    | some head =>
      match conn.chargeRequest charges.first bytes.length with
      | none => conn.sendParseError crates .bodyTooLarge
      | some conn => conn.maybeDispatchOrReadMore crates charges head

def beginRequestIteration (deadline : Duration) : Turn :=
  let generation := conn.requestGeneration + 1
  ({ conn with requestGeneration := generation, headDeadlineArmed := true },
    [.readMore, .sleep deadline generation])

def start : Turn :=
  conn.beginRequestIteration conn.limits.headerReadTimeout

def handleHeaderDeadline (generation : Nat) : Turn :=
  if generation ≠ conn.requestGeneration then (conn, [])
  else if !conn.headDeadlineArmed then (conn, [])
  else
    let (conn, cancel) :=
      { conn with headDeadlineArmed := false : HttpConnection }.cancelStreamSource
    (conn, cancel ++ [.stop])

def replyRequestBodyChunk (chunk : RequestChunkReply) : Turn :=
  if conn.pendingRequestBodyReply then
    ({ conn with pendingRequestBodyReply := false }, [.replyTo chunk])
  else (conn, [.reply chunk])

/-- The last answer to a pull: every later pull gets the end of the body. -/
def endRequestBody (chunk : RequestChunkReply) : Turn :=
  { conn with bodyEofReplied := true : HttpConnection }.replyRequestBodyChunk chunk

def serveChunkFromBuffer : Turn :=
  let take :=
    if conn.inboundChunked then Nat.min conn.inboundChunkSize conn.inboundBuffer.length
    else
      Nat.min (Nat.min conn.inboundChunkSize conn.inboundBuffer.length)
        (conn.inboundTotal - conn.inboundDelivered)
  let chunk := conn.inboundBuffer.take take
  let conn := { conn with
    inboundBuffer := conn.inboundBuffer.drop take
    inboundDelivered := conn.inboundDelivered + take }
  (conn.releaseRequest take).replyRequestBodyChunk (.chunk chunk)

/-- The whole body has come from the wire, as far as a pull that finds no buffered bytes can
see. -/
def bodyDrained : Bool :=
  if conn.inboundChunked then conn.chunkedDecoder.any (·.isComplete)
  else conn.inboundTotal ≤ conn.inboundDelivered

def bodyReadMax : Nat :=
  Nat.min READ_CHUNK (Nat.max conn.inboundChunkSize 1)

/-- How many bytes a pull may read. -/
def bodyReadWant : Nat :=
  if conn.inboundChunked then
    match conn.chunkedDecoder with
    | some decoder => decoder.preferredReadSize conn.bodyReadMax
    | none => 1
  else Nat.min (conn.inboundTotal - conn.inboundReceived) conn.bodyReadMax

def handleRequestBodyNext : Turn :=
  if conn.bodyEofReplied then conn.replyRequestBodyChunk .eof
  else if conn.inboundBuffer ≠ [] then conn.serveChunkFromBuffer
  else if conn.bodyDrained then conn.endRequestBody .eof
  else if conn.bodyReadWant = 0 then conn.endRequestBody .eof
  else (conn, [.readBody conn.bodyReadWant])

/-- A failed charge is answered as a plain reply, past the captured caller. -/
def refuseBodyChunk : Turn :=
  ({ conn with bodyEofReplied := true }, [.reply (.error .storageFull)])

/-- Bytes of a chunked body. -/
def handleChunkedBytes (charges : Charges) (decoder : ChunkedDecoder) : Turn :=
  let prevLen := conn.inboundBuffer.length
  let (progress, consumed, buffer, decoder) :=
    decoder.feedAll conn.chunkedRawBuffer conn.inboundBuffer
  let nextWant := decoder.preferredReadSize conn.bodyReadMax
  let conn := { conn with
    inboundBuffer := buffer
    chunkedRawBuffer := conn.chunkedRawBuffer.drop consumed
    chunkedDecoder := some decoder }
  match conn.chargeRequest charges.first (buffer.length - prevLen) with
  | none =>
    { conn with
      inboundBuffer := buffer.take prevLen
      chunkedRawBuffer := [] : HttpConnection }.refuseBodyChunk
  | some conn =>
    match progress with
    | .complete =>
      if conn.inboundBuffer ≠ [] then conn.serveChunkFromBuffer else conn.endRequestBody .eof
    | .failed _ => conn.endRequestBody (.error .io)
    | .needMore =>
      if conn.inboundBuffer ≠ [] then conn.serveChunkFromBuffer
      else (conn, [.readBody nextWant])

def handleBodyChunkRead (charges : Charges) (result : Except CallError Bytes) : Turn :=
  match result with
  | .error error => conn.endRequestBody (.error error)
  | .ok bytes =>
    if bytes = [] then conn.endRequestBody .eof
    else if conn.inboundChunked then
      let conn := { conn with
        inboundReceived := conn.inboundReceived + bytes.length
        chunkedRawBuffer := conn.chunkedRawBuffer ++ bytes }
      match conn.chunkedDecoder with
      | some decoder => conn.handleChunkedBytes charges decoder
      | none => conn.serveChunkFromBuffer
    else
      let prevLen := conn.inboundBuffer.length
      let conn := { conn with
        inboundReceived := conn.inboundReceived + bytes.length
        inboundBuffer := conn.inboundBuffer ++ bytes }
      match conn.chargeRequest charges.first bytes.length with
      | none =>
        { conn with
          inboundBuffer := conn.inboundBuffer.take prevLen : HttpConnection }.refuseBodyChunk
      | some conn => conn.serveChunkFromBuffer

def resetForNextRequest : HttpConnection :=
  { conn with
    metricsRequestCharge := 0
    metricsResponseCharge := 0
    readBuf := []
    parsedHead := none
    headLen := 0
    pendingResponse := []
    pendingBufferedBody := none
    streamSource := none
    streamBytesRemaining := 0
    streamChunked := false
    inboundTotal := 0
    inboundReceived := 0
    inboundDelivered := 0
    inboundBuffer := []
    inboundChunkSize := 0
    chunkedDecoder := none
    chunkedRawBuffer := []
    inboundChunked := false
    bodyEofReplied := false
    pendingRequestBodyReply := false
    pendingServiceMessage := none
    waitingForMonitorAfterResponse := false
    serviceMonitorTerminalSeen := false
    willClose := false }

/-- The start of the next request: it parses what was read ahead, waits for the monitor of the
last one, or reads. -/
def nextRequest (crates : Crates) (charges : Charges) (idle : Duration) : Turn :=
  let readAhead := conn.serviceReadAhead
  let conn := { conn.resetForNextRequest with serviceReadAhead := [] }
  if readAhead = [] && !conn.serviceMonitor then conn.beginRequestIteration idle
  else
    let generation := conn.requestGeneration + 1
    let conn := { conn with requestGeneration := generation, headDeadlineArmed := true }
    if readAhead = [] then
      ({ conn with waitingForMonitorAfterResponse := true }, [.sleep idle generation])
    else
      let (conn, parse) := conn.handleBytesRead crates charges readAhead
      (conn, parse ++ [.sleep idle generation])

/-- A response has drained. The source expects a keep-alive timeout here; without one the isolate
would panic, which `stop` stands for. -/
def finishResponse (crates : Crates) (charges : Charges) : Turn :=
  if conn.willClose then conn.beginClose
  else
    match conn.limits.keepaliveIdleTimeout with
    | none => (conn, [.stop])
    | some idle => conn.nextRequest crates charges idle

def handleServiceOutcome (crates : Crates) (outcome : CallOutcome HttpResponse) : Turn :=
  match intoResult outcome with
  | .ok response => conn.startWriting crates response
  | .error error =>
    { conn with willClose := true : HttpConnection }.startWriting crates
      (responseForCallError error)

def handleServiceMonitorSpawned (crates : Crates) (spawned : Bool) : Turn :=
  match conn.pendingServiceMessage with
  | none => (conn, [.stop])
  | some message =>
    let conn := { conn with pendingServiceMessage := none }
    if !spawned then
      { conn with willClose := true : HttpConnection }.handleServiceOutcome crates .closed
    else
      let conn :=
        if conn.serviceMonitorTerminalSeen then conn else { conn with serviceMonitor := true }
      match conn.delivery with
      | .call => (conn, [.callService message])
      | .admission => (conn, [.stop])

def handleServicePeerMonitorEnded (crates : Crates) (charges : Charges)
    (outcome : HttpPeerMonitorOutcome) : Turn :=
  let conn := { conn with serviceMonitor := false, serviceMonitorTerminalSeen := true }
  match outcome with
  | .disconnected =>
    if conn.websocket then (conn, [.webSocket])
    else if conn.hasPendingBody then conn.beginClose
    else (conn, [.stop])
  | .readAhead bytes =>
    let readAhead := conn.serviceReadAhead ++ bytes
    if conn.waitingForMonitorAfterResponse then
      { conn with
        waitingForMonitorAfterResponse := false
        serviceReadAhead := [] : HttpConnection }.handleBytesRead crates charges readAhead
    else ({ conn with serviceReadAhead := readAhead }, [])

def handleEventAdmitted (crates : Crates) (outcome : SendOutcome) : Turn :=
  { conn with
    willClose := conn.willClose || outcome ≠ .accepted : HttpConnection }.startWriting crates
      (responseForSendOutcome outcome)

/-- The source still owes the response bytes. -/
def shouldPull : Bool :=
  conn.streamSource.isSome && (conn.streamChunked || 0 < conn.streamBytesRemaining)

def pullNextChunk : Turn :=
  (conn, conn.streamSource.toList.map .pullChunk)

def handleWrote (crates : Crates) (charges : Charges) (bytes : Bytes) (written : Nat) : Turn :=
  if conn.websocket then (conn, [.webSocket])
  else if written = 0 then { conn with pendingResponse := bytes : HttpConnection }.abandon
  else
    let conn := conn.releaseResponse written
    if written < bytes.length then
      { conn with pendingResponse := bytes.drop written : HttpConnection }.writePending
    else
      match conn.pendingBufferedBody with
      | some body =>
        let conn := { conn with pendingBufferedBody := none, pendingResponse := body }
        match conn.chargeResponse charges.first body.length with
        | none => { conn with pendingResponse := [] : HttpConnection }.beginClose
        | some conn => conn.writePending
      | none =>
        if conn.shouldPull then conn.pullNextChunk
        else
          { conn with streamSource := none, streamChunked := false : HttpConnection }.finishResponse
            crates charges

def handleWroteClose (bytes : Bytes) (written : Nat) (closed : Bool) : Turn :=
  if written = 0 then { conn with pendingResponse := bytes : HttpConnection }.beginClose
  else
    let conn := conn.releaseResponse written
    if bytes.length ≤ written then
      if closed then (conn, [.stop]) else conn.beginClose
    else { conn with pendingResponse := bytes.drop written : HttpConnection }.writePendingClose

/-- Queue `framed`, of which `n` bytes are body; the source is cancelled when the charge fails. -/
def writeStreamed (charges : Charges) (framed : Bytes) (n : Nat) : Turn :=
  match { conn with pendingResponse := framed : HttpConnection }.chargeResponse charges.first n with
  | none =>
    let (conn, cancel) := { conn with pendingResponse := [] : HttpConnection }.cancelStreamSource
    let (conn, close) := { conn with streamChunked := false : HttpConnection }.beginClose
    (conn, cancel ++ close)
  | some conn => conn.writePending

def writeKnownLengthChunk (charges : Charges) (bytes : Bytes) : Turn :=
  let written := bytes.take conn.streamBytesRemaining
  { conn with
    streamBytesRemaining := conn.streamBytesRemaining - bytes.length :
      HttpConnection }.writeStreamed charges written written.length

def writeChunkedData (charges : Charges) (bytes : Bytes) : Turn :=
  conn.writeStreamed charges
    ((Nat.toDigits 16 bytes.length).map (UInt8.ofNat ·.toNat) ++ CRLF ++ bytes ++ CRLF)
    bytes.length

def finishStreamEof (crates : Crates) (charges : Charges) : Turn :=
  let conn := { conn with streamSource := none }
  if conn.streamChunked then
    { conn with
      streamChunked := false
      pendingResponse := ascii "0\r\n\r\n" : HttpConnection }.writePending
  else
    { conn with
      willClose := conn.willClose || 0 < conn.streamBytesRemaining : HttpConnection }.finishResponse
        crates charges

def handleStreamChunk (crates : Crates) (charges : Charges)
    (outcome : CallOutcome ResponseChunkReply) : Turn :=
  match outcome with
  | .replied (.chunk bytes) =>
    if bytes = [] then conn.finishStreamEof crates charges
    else if conn.streamChunked then conn.writeChunkedData charges bytes
    else conn.writeKnownLengthChunk charges bytes
  | .replied .eof => conn.finishStreamEof crates charges
  | .replied .grpcStatus => conn.finishStreamEof crates charges
  | .timeout | .full | .closed | .rejected _ =>
    let (conn, cancel) := conn.cancelStreamSource
    let (conn, close) := { conn with streamChunked := false : HttpConnection }.beginClose
    (conn, cancel ++ close)

end HttpConnection

inductive HttpConnectionMsg where
  | begin
  | read (result : Except CallError Bytes)
  | headerDeadline (generation : Nat)
  | serviceReturned (outcome : CallOutcome HttpResponse)
  | serviceMonitorSpawned (spawned : Bool)
  | servicePeerMonitorEnded (outcome : HttpPeerMonitorOutcome)
  | wrote (result : Except CallError (Bytes × Nat))
  | wroteClose (result : Except CallError (Bytes × Nat × Bool))
  | closed
  | streamChunk (outcome : CallOutcome ResponseChunkReply)
  | streamSourceCancelDone
  | requestBodyNext
  | bodyChunkRead (result : Except CallError Bytes)
  | eventAdmitted (outcome : SendOutcome)

namespace HttpConnection

def handle (crates : Crates) (charges : Charges) (conn : HttpConnection) : HttpConnectionMsg → Turn
  | .begin => conn.start
  | .read (.ok bytes) => conn.handleBytesRead crates charges bytes
  | .read (.error _) => conn.abandon
  | .headerDeadline generation => conn.handleHeaderDeadline generation
  | .serviceReturned outcome => conn.handleServiceOutcome crates outcome
  | .serviceMonitorSpawned spawned => conn.handleServiceMonitorSpawned crates spawned
  | .servicePeerMonitorEnded outcome => conn.handleServicePeerMonitorEnded crates charges outcome
  | .eventAdmitted outcome => conn.handleEventAdmitted crates outcome
  | .wrote (.ok (bytes, written)) => conn.handleWrote crates charges bytes written
  | .wrote (.error _) => if conn.websocket then conn.beginClose else conn.abandon
  | .wroteClose (.ok (bytes, written, closed)) => conn.handleWroteClose bytes written closed
  | .wroteClose (.error _) => conn.abandon
  | .streamChunk outcome => conn.handleStreamChunk crates charges outcome
  | .streamSourceCancelDone => (conn, [])
  | .requestBodyNext => conn.handleRequestBodyNext
  | .bodyChunkRead result => conn.handleBodyChunkRead charges result
  | .closed => (conn, [.stop])

/-- A pull that is a call; while one waits for bytes another is rejected. -/
def handleCall (conn : HttpConnection) : HttpConnectionMsg → Turn
  | .requestBodyNext =>
    if conn.pendingRequestBodyReply then (conn, [.reject .unsupportedMessage])
    else { conn with pendingRequestBodyReply := true : HttpConnection }.handleRequestBodyNext
  | _ => (conn, [.reject .unsupportedMessage])

end HttpConnection

end Tina.Http
