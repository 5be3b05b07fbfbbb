import Tina.Http2.Client.Streams

/-!
Frames that the client receives. A handler returns the turn as it left it, also when it fails: the
connection error that follows starts from there.
-/

namespace Tina.Http2.Client

open Http (Bytes)
open Lib

abbrev Handled := Turn × Option Http2ProtocolError

/-- A handler that succeeded. -/
def done (turn : Turn) : Handled :=
  (turn, none)

def failed (turn : Turn) (error : Http2ProtocolError) : Handled :=
  (turn, some error)

/-- Move the send windows of the streams; the first that leaves the range of an `i32` stops it. -/
def shiftWindows (delta : Int) : List ActiveClientStream → List ActiveClientStream × Bool
  | [] => ([], true)
  | stream :: rest =>
    let next := stream.sendWindow + delta
    if next < minI32 || maxI32 < next then (stream :: rest, false)
    else
      let (shifted, ok) := shiftWindows delta rest
      ({ stream with sendWindow := next } :: shifted, ok)

def applyInitialWindow (turn : Turn) (value : Nat) : Handled :=
  if maxI32 < value then failed turn .flowControl
  else
    let (streams, ok) := shiftWindows (value - turn.conn.peerInitialStreamWindow) turn.conn.streams
    let conn := { turn.conn with streams }
    if ok then
      done (flushOutboundData
        { conn := { conn with peerInitialStreamWindow := value }
          effects := turn.effects ++ [.initialWindow value] })
    else failed { turn with conn } .flowControl

def applySetting (turn : Turn) (id value : Nat) : Handled :=
  if id = settingsHeaderTableSize then
    if value = defaultHeaderTableSize then done turn else failed turn .settingsUnsupported
  else if id = settingsEnablePush then
    if value = 0 then done turn else failed turn .invalidSettingsValue
  else if id = settingsMaxConcurrentStreams then
    done { turn with conn := { turn.conn with peerMaxConcurrentStreams := some value } }
  else if id = settingsInitialWindowSize then applyInitialWindow turn value
  else if id = settingsMaxFrameSize then
    if value < minMaxFrameSize || maxMaxFrameSize < value then failed turn .badFrameLength
    else
      done { conn := { turn.conn with peerMaxFrameSize := value }
             effects := turn.effects ++ [.maxFrameSize value] }
  else done turn

/-- The entries of a SETTINGS payload. -/
def settingsEntries : Bytes → List (Nat × Nat)
  | a :: b :: c :: d :: e :: f :: rest =>
    (beNat [a, b], beNat [c, d, e, f]) :: settingsEntries rest
  | _ => []

def applySettings (turn : Turn) : List (Nat × Nat) → Handled
  | [] => done turn
  | (id, value) :: rest =>
    match applySetting turn id value with
    | (turn, some error) => failed turn error
    | (turn, none) => applySettings turn rest

def handleSettings (turn : Turn) (flags : UInt8) (streamId : Nat) (payload : Bytes) : Handled :=
  if streamId ≠ 0 then failed turn .badStreamId
  else if hasFlag flags flagAck then
    if payload.isEmpty then done turn else failed turn .badFrameLength
  else if payload.length % 6 ≠ 0 then failed turn .badFrameLength
  else
    match applySettings turn (settingsEntries payload) with
    | (turn, some error) => failed turn error
    | (turn, none) => done (enqueueFrame turn (settingsFrame true))

/-- Thirty-one bits of a four byte field. -/
def low31 (payload : Bytes) : Nat :=
  beNat (payload.take 4) % 2 ^ 31

def handleWindowUpdate (turn : Turn) (streamId : Nat) (payload : Bytes) : Handled :=
  if payload.length ≠ 4 then failed turn .badFrameLength
  else
    let increment := low31 payload
    if increment = 0 then failed turn .windowOverflow
    else if streamId = 0 then
      match addWindow turn.conn.sendWindow increment with
      | .error error => failed turn error
      | .ok window =>
        done (flushOutboundData
          { conn := { turn.conn with sendWindow := window }
            effects := turn.effects ++ [.credited 0 increment] })
    else
      match findStream turn.conn streamId with
      | none => done (flushOutboundData turn)
      | some (idx, stream) =>
        match addWindow stream.sendWindow increment with
        | .error error => failed turn error
        | .ok window =>
          done (flushOutboundData
            ((turn.setStream idx { stream with sendWindow := window }).push
              (.credited streamId increment)))

def handleRstStream (turn : Turn) (streamId : Nat) (payload : Bytes) : Handled :=
  if streamId = 0 then failed turn .badStreamId
  else if payload.length ≠ 4 then failed turn .badFrameLength
  else
    match findStream turn.conn streamId with
    | none => done turn
    | some (idx, stream) =>
      let reason := classifyH2Reset (beNat payload)
      let turn := turn.count fun report => { report with resetStreams := report.resetStreams + 1 }
      let turn := turn.push (.fact (.http2StreamReset stream.id false reason))
      done (failStream turn idx (.reset reason) .remoteCloseOnly)

def handlePing (turn : Turn) (flags : UInt8) (streamId : Nat) (payload : Bytes) : Handled :=
  if streamId ≠ 0 then failed turn .badStreamId
  else if payload.length ≠ 8 then failed turn .badFrameLength
  else if hasFlag flags flagAck then done turn
  else done (enqueueFrame turn ⟨framePing, flagAck, 0, payload⟩)

/-- Fail the streams above the last one that the peer has processed. A failed stream is replaced by
the last of the table, which is looked at next; the length of the table is fuel enough. -/
def failRefused (lastStreamId : Nat) (outcome : Http2ClientOutcome) : Nat → Nat → Turn → Turn
  | 0, _, turn => turn
  | fuel + 1, idx, turn =>
    match turn.conn.streams[idx]? with
    | none => turn
    | some stream =>
      if lastStreamId < stream.id then
        failRefused lastStreamId outcome fuel idx (failStream turn idx outcome .goAway)
      else failRefused lastStreamId outcome fuel (idx + 1) turn

def handleGoaway (turn : Turn) (streamId : Nat) (payload : Bytes) : Handled :=
  if streamId ≠ 0 then failed turn .badStreamId
  else if payload.length < 8 then failed turn .badFrameLength
  else
    let errorCode := beNat ((payload.drop 4).take 4)
    let turn : Turn := { turn with conn := { turn.conn with goawayReceived := true } }
    let turn := turn.count fun report =>
      { report with goawayReceived := report.goawayReceived + 1 }
    let outcome : Http2ClientOutcome :=
      if errorCode = errNoError then .closed else .reset (classifyH2Reset errorCode)
    done (failRefused (low31 payload) outcome turn.conn.streams.length 0 turn)

section

def applyResponseHeaders (stream : ActiveClientStream) (block : HeaderBlock) :
    ActiveClientStream :=
  { stream with
    responseStatus := block.status
    responseContentLength := block.contentLength
    responseHeaders := stream.responseHeaders ++ block.headers }

/-- The compact facts that a block carries replace those before it. -/
def applyGrpcResponseTrailers (stream : ActiveClientStream) (block : HeaderBlock) :
    ActiveClientStream :=
  { stream with
    grpcStatus := if block.grpcStatus.isSome then block.grpcStatus else stream.grpcStatus
    grpcMessage := if block.grpcMessage.isSome then block.grpcMessage else stream.grpcMessage }

def applyGrpcResponseHead (stream : ActiveClientStream) (block : HeaderBlock) :
    ActiveClientStream :=
  applyGrpcResponseTrailers
    { stream with
      responseStatus := block.status
      responseContentLength := block.contentLength } block

def applyResponseTrailers (stream : ActiveClientStream) (block : HeaderBlock) :
    ActiveClientStream :=
  { stream with responseTrailers := stream.responseTrailers ++ block.headers }

/-- The first header block of a response. -/
def applyHead (stream : ActiveClientStream) (block : HeaderBlock) :
    Except Http2ProtocolError ActiveClientStream :=
  match validateResponseHeaders block with
  | .error error => .error error
  | .ok () =>
    .ok { (if stream.grpcUnary then applyGrpcResponseHead stream block
           else applyResponseHeaders stream block) with
      responseHeadersSeen := true }

/-- The second one: trailers, which end the stream. -/
def applyTrailers (stream : ActiveClientStream) (endStream : Bool) (block : HeaderBlock) :
    Except Http2ProtocolError ActiveClientStream :=
  if !endStream then .error .invalidTrailerPseudoHeader
  else
    match validateTrailerBlock block with
    | .error error => .error error
    | .ok () =>
      .ok (if stream.grpcUnary then applyGrpcResponseTrailers stream block
           else applyResponseTrailers stream block)

variable (crates : Crates)

/-- The END_STREAM of a header block. -/
def finishResponse (turn : Turn) (idx : Nat) : Turn :=
  match turn.conn.streams[idx]? with
  | none => turn
  | some stream =>
    if stream.responseStreamed then
      deliverToParkedPull crates (turn.setStream idx { stream with responseEof := true }) idx
    else completeStream crates turn idx

/-- The head is taken over, and goes to the caller of a streamed response. -/
def takeHead (turn : Turn) (idx : Nat) (headed : ActiveClientStream) : Turn :=
  let turn := turn.setStream idx headed
  if headed.responseStreamed && !headed.responseHeadSent then sendResponseHead turn idx else turn

/-- A header block of an open stream, once it is decoded. -/
def handleHeaderBlock (turn : Turn) (idx : Nat) (stream : ActiveClientStream) (endStream : Bool)
    (block : HeaderBlock) : Handled :=
  if stream.responseHeadersSeen then
    match applyTrailers stream endStream block with
    | .error error => failed turn error
    | .ok stream => done (finishResponse crates (turn.setStream idx stream) idx)
  else
    match applyHead stream block with
    | .error error => failed turn error
    | .ok headed =>
      let turn := takeHead turn idx headed
      done (if endStream then finishResponse crates turn idx else turn)

def handleHeaders (turn : Turn) (flags : UInt8) (streamId : Nat) (payload : Bytes) : Handled :=
  if streamId = 0 || streamId % 2 = 0 then failed turn .badStreamId
  else if !hasFlag flags flagEndHeaders then failed turn .hpackUnsupported
  else
    match findStream turn.conn streamId with
    | none => failed turn .badStreamId
    | some (idx, stream) =>
      match headersPayloadView flags payload with
      | .error error => failed turn error
      | .ok block =>
        let (decoded, decoder) :=
          decodeHeadersBlockWithStorage crates (!stream.grpcUnary) turn.conn.limits.maxHeaderBytes
            turn.conn.hpackDecoder block
        let turn := { turn with conn := { turn.conn with hpackDecoder := decoder } }
        match decoded with
        | .error error => failed turn error
        | .ok block => handleHeaderBlock crates turn idx stream (hasFlag flags flagEndStream) block

def countFlowControlBlocked (report : Http2ClientReport) : Http2ClientReport :=
  { report with flowControlBlocked := report.flowControlBlocked + 1 }

/-- A streamed response with one more chunk. -/
def receivedStream (stream : ActiveClientStream) (payload : Bytes) (endStream : Bool) :
    ActiveClientStream :=
  { stream with
    responseBodyReceived := stream.responseBodyReceived + payload.length
    responseChunks := if payload.isEmpty then stream.responseChunks
      else stream.responseChunks ++ [payload]
    responseEof := stream.responseEof || endStream }

/-- DATA of a streamed response waits for the caller. -/
def receiveStreamed (turn : Turn) (idx : Nat) (stream : ActiveClientStream) (payload : Bytes)
    (endStream : Bool) : Turn :=
  deliverToParkedPull crates (turn.setStream idx (receivedStream stream payload endStream)) idx

/-- A stream that has returned its credit. -/
def creditedStream (stream : ActiveClientStream) : ActiveClientStream :=
  { stream with
    pendingRecvWindowCredit := 0
    recvWindow := satAddI32 stream.recvWindow (asI32 stream.pendingRecvWindowCredit) }

/-- The stream credit of a buffered response is returned in batches. -/
def returnStreamCredit (turn : Turn) (idx : Nat) (stream : ActiveClientStream) : Turn :=
  if windowCreditFlushThreshold ≤ stream.pendingRecvWindowCredit then
    enqueueFrame (turn.setStream idx (creditedStream stream))
      (windowUpdateFrame stream.id stream.pendingRecvWindowCredit)
  else turn.setStream idx stream

/-- A buffered response with more of its body. -/
def bufferedStream (stream : ActiveClientStream) (payload : Bytes) : ActiveClientStream :=
  { stream with
    responseBody := stream.responseBody ++ payload
    pendingRecvWindowCredit := satAddU32 stream.pendingRecvWindowCredit payload.length }

def receiveBuffered (turn : Turn) (idx : Nat) (stream : ActiveClientStream) (payload : Bytes)
    (endStream : Bool) : Handled :=
  let cap := turn.conn.limits.maxResponseBodyBytes
  if cap < stream.responseBody.length + payload.length then
    let turn := enqueueFrame (turn.setStream idx stream) (rstStreamFrame stream.id errProtocolError)
    done (failStream turn idx (.protocolError (.bodyTooLarge cap)) .localCloseOnly)
  else
    let turn := returnStreamCredit turn idx (bufferedStream stream payload)
    if !endStream then done turn
    else if stream.responseContentLength.any (· ≠ (stream.responseBody ++ payload).length) then
      failed turn .contentLengthMismatch
    else done (completeStream crates turn idx)

/-- The padding of a DATA frame is credited at once. -/
def creditPadding (turn : Turn) (streamId padding : Nat) : Turn :=
  if 0 < padding then enqueueFrame turn (windowUpdateFrame streamId padding) else turn

/-- The receive window of a stream after a DATA frame. -/
def drainedStream (stream : ActiveClientStream) (flowLen padding : Nat) : ActiveClientStream :=
  { stream with
    recvWindow := if 0 < padding then satAddI32 (stream.recvWindow - flowLen) (asI32 padding)
      else stream.recvWindow - flowLen }

/-- DATA of an open stream, with its length on the wire. -/
def receiveData (turn : Turn) (idx : Nat) (stream : ActiveClientStream) (payload : Bytes)
    (flowLen : Nat) (endStream : Bool) : Handled :=
  if !stream.responseHeadersSeen then failed turn .dataBeforeHeaders
  else if stream.recvWindow < flowLen then
    failed (turn.count countFlowControlBlocked) .flowControl
  else
    let padding := flowLen - payload.length
    let stream := drainedStream stream flowLen padding
    let turn := creditPadding turn stream.id padding
    if stream.responseStreamed then done (receiveStreamed crates turn idx stream payload endStream)
    else receiveBuffered crates turn idx stream payload endStream

def handleData (turn : Turn) (flags : UInt8) (streamId : Nat) (framePayload : Bytes) : Handled :=
  if streamId = 0 then failed turn .badStreamId
  else
    match dataPayloadView flags framePayload with
    | .error error => failed turn error
    | .ok (payload, flowLen) =>
      if maxI32 < flowLen then failed turn .flowControl
      else if turn.conn.recvWindow < flowLen then
        failed (turn.count countFlowControlBlocked) .flowControl
      else
        let turn := { turn with conn := { turn.conn with
          recvWindow := turn.conn.recvWindow - flowLen
          pendingRecvWindowCredit := satAddU32 turn.conn.pendingRecvWindowCredit flowLen } }
        match findStream turn.conn streamId with
        | none => done (enqueueFrame turn (rstStreamFrame streamId errStreamClosed))
        | some (idx, stream) =>
          receiveData crates turn idx stream payload flowLen (hasFlag flags flagEndStream)

end

section

variable (crates : Crates)

def handleFrame (turn : Turn) (frame : Frame) : Handled :=
  if frame.ty = frameData then handleData crates turn frame.flags frame.streamId frame.payload
  else if frame.ty = frameSettings then
    handleSettings turn frame.flags frame.streamId frame.payload
  else if frame.ty = frameHeaders then
    handleHeaders crates turn frame.flags frame.streamId frame.payload
  else if frame.ty = frameWindowUpdate then handleWindowUpdate turn frame.streamId frame.payload
  else if frame.ty = frameRstStream then handleRstStream turn frame.streamId frame.payload
  else if frame.ty = framePing then handlePing turn frame.flags frame.streamId frame.payload
  else if frame.ty = frameGoaway then handleGoaway turn frame.streamId frame.payload
  else done turn

/-- The frame at the front of the read buffer, and the bytes behind it. -/
def takeFrame (conn : Http2ClientConnection) :
    Except Http2ProtocolError (Option (Frame × Bytes)) :=
  match tryDecodeFrameMeta conn.readBuf conn.limits.maxFrameSize with
  | .error error => .error error
  | .ok none => .ok none
  | .ok (some found) =>
    .ok (some (⟨found.ty, found.flags, found.streamId,
      (conn.readBuf.take found.total).drop frameHeaderLen⟩, conn.readBuf.drop found.total))

/-- Handle the frames of the read buffer. Each takes its header at least, so the length of the
buffer is fuel enough. -/
def readFrames : Nat → Turn → Handled
  | 0, turn => done turn
  | fuel + 1, turn =>
    match takeFrame turn.conn with
    | .error error => failed turn error
    | .ok none => done turn
    | .ok (some (frame, rest)) =>
      match handleFrame crates { turn with conn := { turn.conn with readBuf := rest } } frame with
      | (turn, some error) => failed turn error
      | (turn, none) => readFrames fuel turn

/-- The connection credit is returned in batches. -/
def returnConnectionCredit (turn : Turn) : Turn :=
  let credit := turn.conn.pendingRecvWindowCredit
  if windowCreditFlushThreshold ≤ credit then
    enqueueFrame
      { turn with conn := { turn.conn with
        pendingRecvWindowCredit := 0
        recvWindow := satAddI32 turn.conn.recvWindow (asI32 credit) } }
      (windowUpdateFrame 0 credit)
  else turn

/-- The turn of a read, before its frames are handled. -/
def readingTurn (turn : Turn) (bytes : Bytes) : Turn :=
  { turn with conn := { turn.conn with
    readInFlight := false
    readBuf := turn.conn.readBuf ++ bytes } }

def handleRead (turn : Turn) (bytes : Bytes) : Turn :=
  if bytes.isEmpty then closeWith { turn with conn := { turn.conn with readInFlight := false } }
    .closed
  else
    match readFrames crates (turn.conn.readBuf ++ bytes).length (readingTurn turn bytes) with
    | (turn, some error) => protocolError turn error
    | (turn, none) => pumpIo (pumpRequestPulls (returnConnectionCredit turn))

end

end Tina.Http2.Client
