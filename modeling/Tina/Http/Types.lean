import Tina.Runtime.Types

/-!
Requests, responses and limits of the HTTP/1 server. Texts that the wire carries as ASCII
(methods, targets, header names) are byte lists; headers stand in the order they were appended.
-/

namespace Tina.Http

abbrev Bytes := List UInt8

inductive Version where
  | http10
  | http11
deriving DecidableEq

abbrev StatusCode := Nat

abbrev HeaderMap := List (Bytes × Bytes)

structure HttpLimits where
  maxHeaderBytes : Nat
  maxBodyBytes : Nat
  maxHeaders : Nat
  headerReadTimeout : Duration
  inboundStreamChunkSize : Option Nat
  keepaliveIdleTimeout : Option Duration

/-- A request body that the service pulls; its source is always the connection itself. -/
structure RequestStream where
  contentLength : Nat
  chunked : Bool
deriving DecidableEq

inductive HttpRequestBody where
  | buffered (bytes : Bytes)
  | stream (stream : RequestStream)
deriving DecidableEq

structure HttpRequest where
  method : Bytes
  path : Bytes
  version : Version
  headers : HeaderMap
  body : HttpRequestBody
deriving DecidableEq

/-- The sources of streamed bodies are named by their addresses; of a WebSocket only the upgrade
is modelled. -/
inductive HttpResponseBody where
  | buffered (bytes : Bytes)
  | shared (bytes : Bytes)
  | stream (contentLength : Nat) (source : RegisteredAddress)
  | chunkedStream (source : RegisteredAddress)
  | webSocket
deriving DecidableEq

def HttpResponseBody.declaredLength : HttpResponseBody → Option Nat
  | .buffered bytes => some bytes.length
  | .shared bytes => some bytes.length
  | .stream contentLength _ => some contentLength
  | .chunkedStream _ => none
  | .webSocket => none

structure HttpResponse where
  status : StatusCode
  version : Version
  headers : HeaderMap
  body : HttpResponseBody

def HttpResponse.withStatus (status : StatusCode) : HttpResponse where
  status
  version := .http11
  headers := []
  body := .buffered []

inductive RequestParseError where
  | badRequestLine
  | headersTooLarge
  | unsupportedTransferEncoding
  | invalidContentLength
  | bodyTooLarge
  | malformedChunkedBody
  | unsupportedRequestTarget
  | unsupportedHttpVersion
  | headerReadTimeout

def RequestParseError.status : RequestParseError → StatusCode
  | .badRequestLine => 400
  | .headersTooLarge => 431
  | .unsupportedTransferEncoding => 501
  | .invalidContentLength => 400
  | .bodyTooLarge => 413
  | .malformedChunkedBody => 400
  | .unsupportedRequestTarget => 400
  | .unsupportedHttpVersion => 505
  | .headerReadTimeout => 408

inductive CallError where
  | invariantViolation
  | invalidResource
  | notFound
  | io
  | unsupported
  | resourceBusy
  | timeout
  | targetFull
  | targetClosed
  | corruptRecord
  | commitUncertain
  | storageFull
  | storageClosed
  | dnsFull
  | dnsClosed
  | tlsFull
  | tlsClosed
  | tlsCertificate
  | tlsName
  | tlsHandshake
  | tlsAlpnMismatch
  | signalFull
  | signalClosed
  | processFull
  | processClosed
  | killUncertain
  | timerFull
  | rejected (reason : CallRejectedReason)

/-- `CallOutcome::into_result`. -/
def intoResult {α : Type} : CallOutcome α → Except CallError α
  | .replied message => .ok message
  | .full => .error .targetFull
  | .closed => .error .targetClosed
  | .timeout => .error .timeout
  | .rejected reason => .error (.rejected reason)

def responseForCallError (error : CallError) : HttpResponse :=
  .withStatus (match error with
    | .targetFull => 429
    | .timeout => 504
    | .targetClosed => 503
    | _ => 500)

def responseForSendOutcome : SendOutcome → HttpResponse
  | .accepted => .withStatus 202
  | .full => .withStatus 429
  | .closed => .withStatus 503
  | .foreignSystem _ _ => .withStatus 503

inductive ResponseChunkReply where
  | chunk (bytes : Bytes)
  | eof
  | grpcStatus
deriving DecidableEq

inductive RequestChunkReply where
  | chunk (bytes : Bytes)
  | eof
  | error (error : CallError)

end Tina.Http
