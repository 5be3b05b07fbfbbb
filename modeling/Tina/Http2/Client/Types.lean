import Tina.Http2.Grpc

/-!
The native HTTP/2 client connection: limits, requests, replies and the state of a connection.
Reply slots and streaming sources are named by numbers and addresses. The scratch buffers, the
negotiated ALPN bytes and the isolate's own id only serve reuse and tracing and are left out; the
index from stream ids to slots is the search it stands for.
-/

namespace Tina.Http2.Client

open Http (Bytes StatusCode ResponseChunkReply CallError)

/-- The reply slot of a caller. -/
abbrev Waiter := Nat

inductive ClientStream where
  | tcp (id : Nat)
  | tls (id : Nat)

/-- What the client reads of its target: the authority, the rail, and whether `h2` was asked for. -/
inductive Http2Target where
  | h2c (authority : Text)
  | tls (authority : Text) (alpnH2 : Bool)

def Http2Target.authority : Http2Target → Text
  | .h2c authority => authority
  | .tls authority _ => authority

def Http2Target.isTls : Http2Target → Bool
  | .h2c _ => false
  | .tls _ _ => true

structure Http2ClientLimits where
  maxFrameSize : Nat
  maxHeaderBytes : Nat
  maxConcurrentStreams : Nat
  maxResponseBodyBytes : Nat
  connectionOutboundQueueCapacity : Nat
  preConnectSubmitCapacity : Nat
  initialConnectionWindow : Int
  initialStreamWindow : Int
  tlsIoTimeout : Duration
  responseStreamIdleTimeout : Duration

/-- `Http2ClientLimits::default`. -/
def Http2ClientLimits.default : Http2ClientLimits where
  maxFrameSize := 16 * 1024
  maxHeaderBytes := 16 * 1024
  maxConcurrentStreams := 64
  maxResponseBodyBytes := 1024 * 1024
  connectionOutboundQueueCapacity := 64
  preConnectSubmitCapacity := 64
  initialConnectionWindow := defaultWindow
  initialStreamWindow := defaultWindow
  tlsIoTimeout := 30
  responseStreamIdleTimeout := 30

/-- The variants of `Http2ConfigError` that the client returns. -/
inductive Http2ConfigError where
  | frameSizeOutOfRange (value : Nat)
  | concurrentStreamsOutOfRange (value : Nat)
  | initialConnectionWindowTooSmall (value : Int)
  | initialStreamWindowNegative (value : Int)
  | zeroOutboundQueueCapacity
  | zeroPreConnectSubmitCapacity
  | zeroTlsIoTimeout
deriving DecidableEq

def Http2ClientLimits.validate (limits : Http2ClientLimits) : Except Http2ConfigError Unit :=
  if limits.maxFrameSize < minMaxFrameSize || maxMaxFrameSize < limits.maxFrameSize then
    .error (.frameSizeOutOfRange limits.maxFrameSize)
  else if 2 ^ 32 ≤ limits.maxConcurrentStreams then
    .error (.concurrentStreamsOutOfRange limits.maxConcurrentStreams)
  else if limits.initialConnectionWindow < defaultWindow then
    .error (.initialConnectionWindowTooSmall limits.initialConnectionWindow)
  else if limits.initialStreamWindow < 0 then
    .error (.initialStreamWindowNegative limits.initialStreamWindow)
  else if limits.connectionOutboundQueueCapacity = 0 then .error .zeroOutboundQueueCapacity
  else if limits.preConnectSubmitCapacity = 0 then .error .zeroPreConnectSubmitCapacity
  else if limits.tlsIoTimeout = 0 then .error .zeroTlsIoTimeout
  else .ok ()

theorem default_validate : Http2ClientLimits.default.validate = .ok () := by
  decide

structure Http2ClientReport where
  openedStreams : Nat := 0
  closedStreams : Nat := 0
  resetStreams : Nat := 0
  admissionFull : Nat := 0
  flowControlBlocked : Nat := 0
  protocolErrors : Nat := 0
  goawayReceived : Nat := 0
  locallyCancelled : Nat := 0
  requestTooLarge : Nat := 0
  outboundQueueFull : Nat := 0
  flowControlParks : Nat := 0
  wrongLaneMessages : Nat := 0
deriving DecidableEq

structure Http2ClientResponse where
  status : StatusCode
  headers : HeaderMap
  body : Bytes
  trailers : HeaderMap
deriving DecidableEq

inductive Http2ClientOutcome where
  | replied (response : Http2ClientResponse)
  | grpcUnaryReplied (status : StatusCode) (grpcStatus : Option Nat) (grpcMessage : Option Text)
      (body : Bytes)
  | responseStreaming (status : StatusCode) (headers : HeaderMap)
  | full
  | closed
  | reset (reason : Http2ResetReason)
  | localCancel
  | protocolError (error : Http2ProtocolError)
  | tlsAlpnMismatch
deriving DecidableEq

inductive Http2ResponseChunk where
  | data (bytes : Bytes)
  | finish (trailers : HeaderMap)
  | reset (reason : Http2ResetReason)
  | closed
  | protocolError (error : Http2ProtocolError)
deriving DecidableEq

inductive Http2ClientReply where
  | outcome (streamId : Nat) (outcome : Http2ClientOutcome)
  | responseChunk (streamId : Nat) (chunk : Http2ResponseChunk)
  | report (report : Http2ClientReport)
deriving DecidableEq

structure Http2ClientRequest where
  method : Text
  path : Text
  headers : HeaderMap
  body : Bytes

inductive GrpcUnaryBody where
  | owned (bytes : Bytes)
  | shared (bytes : Bytes)

structure Http2ClientGrpcUnaryRequest where
  path : Text
  body : GrpcUnaryBody

structure Http2ClientStreamingRequest where
  method : Text
  path : Text
  headers : HeaderMap
  source : RegisteredAddress

inductive Http2ClientRequestBody where
  | buffered (bytes : Bytes)
  | stream (source : RegisteredAddress)

structure Http2ClientStreamCall where
  method : Text
  path : Text
  headers : HeaderMap
  body : Http2ClientRequestBody

inductive OutboundBody where
  | owned (bytes : Bytes) (cursor : Nat)
  | shared (bytes : Bytes) (cursor : Nat)

namespace OutboundBody

def remaining : OutboundBody → Nat
  | .owned bytes cursor => bytes.length - cursor
  | .shared bytes cursor => bytes.length - cursor

def isEmpty (body : OutboundBody) : Bool :=
  body.remaining = 0

def slice : OutboundBody → Nat → Bytes
  | .owned bytes cursor, len => (bytes.drop cursor).take len
  | .shared bytes cursor, len => (bytes.drop cursor).take len

def append : OutboundBody → Bytes → OutboundBody
  | .owned bytes cursor, chunk =>
    if 0 < cursor then .owned (bytes.drop cursor ++ chunk) 0 else .owned (bytes ++ chunk) cursor
  | .shared bytes cursor, chunk => .owned (bytes.drop cursor ++ chunk) 0

def advance : OutboundBody → Nat → OutboundBody
  | .owned bytes cursor, n =>
    if bytes.length ≤ cursor + n then .owned [] 0 else .owned bytes (cursor + n)
  | .shared bytes cursor, n =>
    if bytes.length ≤ cursor + n then .owned [] 0 else .shared bytes (cursor + n)

/-- The bytes that are still to be sent. -/
def unsent : OutboundBody → Bytes
  | .owned bytes cursor => bytes.drop cursor
  | .shared bytes cursor => bytes.drop cursor

variable (body : OutboundBody)

theorem remaining_eq : body.remaining = body.unsent.length := by
  cases body <;> simp [remaining, unsent]

theorem slice_eq (len : Nat) : body.slice len = body.unsent.take len := by
  cases body <;> rfl

theorem unsent_append (chunk : Bytes) : (body.append chunk).unsent = body.unsent ++ chunk := by
  cases body with
  | owned _ cursor =>
    by_cases hcursor : 0 < cursor
    · simp [append, unsent, hcursor]
    · obtain rfl : cursor = 0 := by omega
      simp [append, unsent]
  | shared => simp [append, unsent]

theorem unsent_advance (n : Nat) : (body.advance n).unsent = body.unsent.drop n := by
  cases body with
  | owned bytes cursor | shared bytes cursor =>
  by_cases hend : bytes.length ≤ cursor + n
  · simp [advance, unsent, hend, List.drop_eq_nil_of_le]
  · simp [advance, unsent, hend]

theorem isEmpty_eq : body.isEmpty = body.unsent.isEmpty := by
  rw [isEmpty, remaining_eq]
  cases body.unsent <;> simp

end OutboundBody

def GrpcUnaryBody.isEmpty : GrpcUnaryBody → Bool
  | .owned bytes => bytes.isEmpty
  | .shared bytes => bytes.isEmpty

def GrpcUnaryBody.intoOutbound : GrpcUnaryBody → OutboundBody
  | .owned bytes => .owned bytes 0
  | .shared bytes => .shared bytes 0

structure ActiveClientStream where
  id : Nat
  waiter : Option Waiter
  responseStatus : Option StatusCode := none
  responseHeaders : HeaderMap := []
  responseBody : Bytes := []
  responseTrailers : HeaderMap := []
  responseHeadersSeen : Bool := false
  recvWindow : Int
  sendWindow : Int
  pendingRecvWindowCredit : Nat := 0
  responseContentLength : Option Nat := none
  outboundBody : OutboundBody
  requestSource : Option RegisteredAddress := none
  requestComplete : Bool := true
  requestEndSent : Bool := false
  requestPullInFlight : Bool := false
  responseStreamed : Bool := false
  responseHeadSent : Bool := false
  responseChunks : List Bytes := []
  responsePull : Option Waiter := none
  responseEof : Bool := false
  responseBodyReceived : Nat := 0
  grpcUnary : Bool := false
  grpcStatus : Option Nat := none
  grpcMessage : Option Text := none

namespace ActiveClientStream

def new (id : Nat) (recvWindow sendWindow : Int) (waiter : Waiter) (outboundBody : OutboundBody) :
    ActiveClientStream where
  id
  waiter := some waiter
  recvWindow
  sendWindow
  outboundBody

def newStreaming (id : Nat) (recvWindow sendWindow : Int) (waiter : Waiter)
    (source : RegisteredAddress) : ActiveClientStream :=
  { new id recvWindow sendWindow waiter (.owned [] 0) with
    requestSource := some source
    requestComplete := false }

def outboundRemaining (stream : ActiveClientStream) : Nat :=
  stream.outboundBody.remaining

def hasOutbound (stream : ActiveClientStream) : Bool :=
  !stream.outboundBody.isEmpty

end ActiveClientStream

structure Http2ClientConnection where
  target : Http2Target
  limits : Http2ClientLimits
  stream : Option ClientStream := none
  queuedSubmits : List (Http2ClientRequest × Waiter) := []
  queuedGrpcUnary : List (Http2ClientGrpcUnaryRequest × Waiter) := []
  queuedStreaming : List (Http2ClientStreamingRequest × Waiter) := []
  queuedOpen : List (Http2ClientStreamCall × Waiter) := []
  streams : List ActiveClientStream := []
  nextStreamId : Nat := 1
  readBuf : Bytes := []
  /-- The blocks that the HPACK decoder has been given. -/
  hpackDecoder : List Bytes := []
  prefaceSent : Bool := false
  peerInitialStreamWindow : Int := defaultWindow
  peerMaxFrameSize : Nat := minMaxFrameSize
  peerMaxConcurrentStreams : Option Nat := none
  recvWindow : Int
  pendingRecvWindowCredit : Nat := 0
  sendWindow : Int := defaultWindow
  goawayReceived : Bool := false
  closingAfterWrite : Bool := false
  writeInFlight : Bool := false
  readInFlight : Bool := false
  streamIdExhausted : Bool := false
  pendingWrite : Bytes := []
  writeQueue : List Bytes := []
  report : Http2ClientReport := {}

/-- The connection that `Http2ClientConnection::new` builds once its limits have been validated. -/
def Http2ClientConnection.initial (target : Http2Target) (limits : Http2ClientLimits) :
    Http2ClientConnection where
  target
  limits
  recvWindow := limits.initialConnectionWindow

def Http2ClientConnection.new (target : Http2Target) (limits : Http2ClientLimits) :
    Except Http2ConfigError Http2ClientConnection :=
  match limits.validate with
  | .error error => .error error
  | .ok () => .ok (.initial target limits)

end Tina.Http2.Client
