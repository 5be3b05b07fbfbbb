import Tina.Lib.BigEndian

/-!
Frames of the RPC wire and their codec. A frame is a length, then a body: version, kind, error
code, request id, the two names with a length byte each, and the payload. Numbers are big-endian.
-/

namespace Tina.Rpc

open Lib

def FRAME_VERSION_V1 : UInt8 := 1

def LENGTH_PREFIX_SIZE : Nat := 4

/-- A body with empty names and no payload. -/
def MIN_BODY_SIZE : Nat := 13

def MAX_SERVICE_LEN : Nat := 255

def MAX_METHOD_LEN : Nat := 255

/-- `u32::MAX`. -/
def U32_MAX : Nat := 2 ^ 32 - 1

inductive FrameKind where
  | request
  | reply
  | error
deriving DecidableEq

inductive FrameError where
  | full
  | unknownService
  | unknownMethod
  | decode
  | protocol
  | internal
deriving DecidableEq

structure Frame where
  version : UInt8
  kind : FrameKind
  error : Option FrameError
  requestId : UInt64
  service : String
  method : String
  payload : List UInt8
deriving DecidableEq

structure FrameLimits where
  maxFrameSize : Nat

inductive EncodeError where
  | serviceTooLong (len : Nat)
  | methodTooLong (len : Nat)
  | frameTooLarge (len max : Nat)
  | limitsTooSmall (max min : Nat)
  | limitsTooLarge (max : Nat)
  | inconsistentFrame

inductive DecodeError where
  | lengthPrefixTruncated
  | bodyTooSmall (len min : Nat)
  | bodyTooLarge (len max : Nat)
  | bodyTruncated (expected got : Nat)
  | limitsTooSmall (max min : Nat)
  | limitsTooLarge (max : Nat)
  | unsupportedVersion (version : UInt8)
  | unknownKind (kind : UInt8)
  | unknownErrorCode (code : UInt8)
  | serviceLengthOverrun
  | methodLengthOverrun
  | serviceNotUtf8
  | methodNotUtf8
  | unexpectedErrorCode
  | missingErrorCode
  | trailingBytes (extra : Nat)
deriving DecidableEq

def Frame.request (requestId : UInt64) (service method : String) (payload : List UInt8) : Frame :=
  ⟨FRAME_VERSION_V1, .request, none, requestId, service, method, payload⟩

def Frame.reply (requestId : UInt64) (service method : String) (payload : List UInt8) : Frame :=
  ⟨FRAME_VERSION_V1, .reply, none, requestId, service, method, payload⟩

/-- `Frame::error`. -/
def Frame.ofError (requestId : UInt64) (service method : String) (code : FrameError)
    (payload : List UInt8) : Frame :=
  ⟨FRAME_VERSION_V1, .error, some code, requestId, service, method, payload⟩

/-- `str::as_bytes`. -/
def asBytes (text : String) : List UInt8 :=
  text.toByteArray.data.toList

/-- `str::from_utf8`. -/
def fromUtf8 (bytes : List UInt8) : Option String :=
  String.fromUTF8? ⟨bytes.toArray⟩

theorem fromUtf8_eq_some_iff {bytes : List UInt8} {text : String} :
    fromUtf8 bytes = some text ↔ bytes = asBytes text := by
  unfold fromUtf8 asBytes String.fromUTF8?
  constructor
  · intro hsome
    split at hsome
    · cases hsome
      rfl
    · cases hsome
  · rintro rfl
    rw [dif_pos text.isValidUTF8]
    rfl

def FrameKind.toByte : FrameKind → UInt8
  | .request => 0
  | .reply => 1
  | .error => 2

def errorToByte : FrameError → UInt8
  | .full => 1
  | .unknownService => 2
  | .unknownMethod => 3
  | .decode => 4
  | .protocol => 5
  | .internal => 6

def encodeErrorCode (frame : Frame) : Option UInt8 :=
  match frame.kind, frame.error with
  | .request, none | .reply, none => some 0
  | .request, some _ | .reply, some _ => none
  | .error, some code => some (errorToByte code)
  | .error, none => none

def checkLimitsForEncode (limits : FrameLimits) : Except EncodeError Unit :=
  if limits.maxFrameSize < MIN_BODY_SIZE then
    .error (.limitsTooSmall limits.maxFrameSize MIN_BODY_SIZE)
  else if U32_MAX < limits.maxFrameSize then .error (.limitsTooLarge limits.maxFrameSize)
  else .ok ()

/-- The length of the body behind the length prefix. -/
def Frame.bodyLen (frame : Frame) : Nat :=
  MIN_BODY_SIZE + (asBytes frame.service).length + (asBytes frame.method).length +
    frame.payload.length

/-- The body behind the length prefix. -/
def encodeBody (frame : Frame) (errorByte : UInt8) : List UInt8 :=
  [frame.version, frame.kind.toByte, errorByte] ++ beBytes 8 frame.requestId.toNat ++
    [UInt8.ofNat (asBytes frame.service).length] ++ asBytes frame.service ++
    [UInt8.ofNat (asBytes frame.method).length] ++ asBytes frame.method ++ frame.payload

/-- The version goes out as it is: only the decoder looks at it. -/
def encode (frame : Frame) (limits : FrameLimits) : Except EncodeError (List UInt8) := do
  checkLimitsForEncode limits
  if MAX_SERVICE_LEN < (asBytes frame.service).length then
    .error (.serviceTooLong (asBytes frame.service).length)
  else if MAX_METHOD_LEN < (asBytes frame.method).length then
    .error (.methodTooLong (asBytes frame.method).length)
  else
    match encodeErrorCode frame with
    | none => .error .inconsistentFrame
    | some errorByte =>
      if limits.maxFrameSize < frame.bodyLen then
        .error (.frameTooLarge frame.bodyLen limits.maxFrameSize)
      else .ok (beBytes 4 frame.bodyLen ++ encodeBody frame errorByte)

def checkLimitsForDecode (limits : FrameLimits) : Except DecodeError Unit :=
  if limits.maxFrameSize < MIN_BODY_SIZE then
    .error (.limitsTooSmall limits.maxFrameSize MIN_BODY_SIZE)
  else if U32_MAX < limits.maxFrameSize then .error (.limitsTooLarge limits.maxFrameSize)
  else .ok ()

def parseLengthPrefix (lengthBytes : List UInt8) (limits : FrameLimits) :
    Except DecodeError Nat := do
  checkLimitsForDecode limits
  let bodyLen := beNat lengthBytes
  if bodyLen < MIN_BODY_SIZE then .error (.bodyTooSmall bodyLen MIN_BODY_SIZE)
  else if limits.maxFrameSize < bodyLen then .error (.bodyTooLarge bodyLen limits.maxFrameSize)
  else .ok bodyLen

def decodeKind (byte : UInt8) : Except DecodeError FrameKind :=
  if byte = 0 then .ok .request
  else if byte = 1 then .ok .reply
  else if byte = 2 then .ok .error
  else .error (.unknownKind byte)

def decodeErrorCode (kind : FrameKind) (byte : UInt8) : Except DecodeError (Option FrameError) :=
  match kind with
  | .request | .reply => if byte = 0 then .ok none else .error .unexpectedErrorCode
  | .error =>
    if byte = 0 then .error .missingErrorCode
    else if byte = 1 then .ok (some .full)
    else if byte = 2 then .ok (some .unknownService)
    else if byte = 3 then .ok (some .unknownMethod)
    else if byte = 4 then .ok (some .decode)
    else if byte = 5 then .ok (some .protocol)
    else if byte = 6 then .ok (some .internal)
    else .error (.unknownErrorCode byte)

def decodeText (error : DecodeError) (bytes : List UInt8) : Except DecodeError String :=
  match fromUtf8 bytes with
  | some text => .ok text
  | none => .error error

/-- The names and the payload, behind the fixed part of a body that has been read. The length
checks stand before every read, so that no index is out of range. -/
def decodeNames (version : UInt8) (kind : FrameKind) (error : Option FrameError)
    (requestId : UInt64) (body : List UInt8) : Except DecodeError Frame :=
  let serviceLen := (body.getD 11 0).toNat
  let serviceEnd := 12 + serviceLen
  -- one byte at least is left for the length of the method
  if body.length ≤ serviceEnd then .error .serviceLengthOverrun
  else do
    let service ← decodeText .serviceNotUtf8 ((body.drop 12).take serviceLen)
    let methodLen := (body.getD serviceEnd 0).toNat
    let methodStart := serviceEnd + 1
    if body.length < methodStart + methodLen then .error .methodLengthOverrun
    else
      let method ← decodeText .methodNotUtf8 ((body.drop methodStart).take methodLen)
      .ok ⟨version, kind, error, requestId, service, method, body.drop (methodStart + methodLen)⟩

def decodeBody (body : List UInt8) : Except DecodeError Frame :=
  if body.length < MIN_BODY_SIZE then .error (.bodyTooSmall body.length MIN_BODY_SIZE)
  else if body.getD 0 0 ≠ FRAME_VERSION_V1 then .error (.unsupportedVersion (body.getD 0 0))
  else do
    let kind ← decodeKind (body.getD 1 0)
    let error ← decodeErrorCode kind (body.getD 2 0)
    decodeNames (body.getD 0 0) kind error (UInt64.ofNat (beNat ((body.drop 3).take 8))) body

def decode (bytes : List UInt8) (limits : FrameLimits) : Except DecodeError Frame :=
  if bytes.length < LENGTH_PREFIX_SIZE then .error .lengthPrefixTruncated
  else do
    let bodyLen ← parseLengthPrefix (bytes.take LENGTH_PREFIX_SIZE) limits
    let bodyEnd := LENGTH_PREFIX_SIZE + bodyLen
    if bytes.length < bodyEnd then
      .error (.bodyTruncated bodyLen (bytes.length - LENGTH_PREFIX_SIZE))
    else if bodyEnd < bytes.length then .error (.trailingBytes (bytes.length - bodyEnd))
    else decodeBody ((bytes.take bodyEnd).drop LENGTH_PREFIX_SIZE)

end Tina.Rpc
