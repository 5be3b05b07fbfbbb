import Tina.Http.Types
import Tina.Lib.BigEndian

/-!
HTTP/2 frames: the nine byte header, the standard builders and the views of padded payloads.
Flags and frame types are bytes as on the wire; error codes and stream ids are the `u32` values
of the source.
-/

namespace Tina.Http2

open Http (Bytes)
open Lib

inductive Http2ProtocolError where
  | badPreface
  | frameTooLarge (len max : Nat)
  | truncatedFrame
  | badFrameLength
  | badStreamId
  | headersTooLarge
  | hpackUnsupported
  | invalidPseudoHeaders
  | invalidTrailerPseudoHeader
  | dataBeforeHeaders
  | streamClosed
  | streamLimitFull
  | windowOverflow
  | flowControl
  | requestTrailersUnsupported
  | settingsUnsupported
  | invalidSettingsValue
  | unsupportedFrame (ty : UInt8)
  | unexpectedContinuation
  | contentLengthMismatch
  | bodyTooLarge (capBytes : Nat)
  | outboundHeadersTooLarge
  | streamIdExhausted
deriving DecidableEq

def errNoError : Nat := 0x0
def errProtocolError : Nat := 0x1
def errFlowControlError : Nat := 0x3
def errSettingsError : Nat := 0x4
def errStreamClosed : Nat := 0x5
def errFrameSizeError : Nat := 0x6
def errCancel : Nat := 0x8

inductive Http2ResetReason where
  | noError
  | protocolError
  | internalError
  | flowControlError
  | settingsTimeout
  | streamClosed
  | frameSizeError
  | refusedStream
  | cancel
  | compressionError
  | connectError
  | enhanceYourCalm
  | inadequateSecurity
  | http11Required
  | otherCode (code : Nat)
deriving DecidableEq

def classifyH2Reset : Nat → Http2ResetReason
  | 0x0 => .noError
  | 0x1 => .protocolError
  | 0x2 => .internalError
  | 0x3 => .flowControlError
  | 0x4 => .settingsTimeout
  | 0x5 => .streamClosed
  | 0x6 => .frameSizeError
  | 0x7 => .refusedStream
  | 0x8 => .cancel
  | 0x9 => .compressionError
  | 0xa => .connectError
  | 0xb => .enhanceYourCalm
  | 0xc => .inadequateSecurity
  | 0xd => .http11Required
  | other => .otherCode other

def clientPreface : Bytes :=
  [80, 82, 73, 32, 42, 32, 72, 84, 84, 80, 47, 50, 46, 48, 13, 10, 13, 10, 83, 77, 13, 10, 13, 10]

def frameHeaderLen : Nat := 9
def defaultWindow : Int := 65535
def readChunk : Nat := 16 * 1024
def windowCreditFlushThreshold : Nat := 16 * 1024

def flagAck : UInt8 := 0x1
def flagEndStream : UInt8 := 0x1
def flagEndHeaders : UInt8 := 0x4
def flagPadded : UInt8 := 0x8
def flagPriority : UInt8 := 0x20

def frameData : UInt8 := 0x0
def frameHeaders : UInt8 := 0x1
def frameRstStream : UInt8 := 0x3
def frameSettings : UInt8 := 0x4
def framePing : UInt8 := 0x6
def frameGoaway : UInt8 := 0x7
def frameWindowUpdate : UInt8 := 0x8

def settingsHeaderTableSize : Nat := 0x1
def settingsEnablePush : Nat := 0x2
def settingsMaxConcurrentStreams : Nat := 0x3
def settingsInitialWindowSize : Nat := 0x4
def settingsMaxFrameSize : Nat := 0x5
def defaultHeaderTableSize : Nat := 4096
def minMaxFrameSize : Nat := 16384
def maxMaxFrameSize : Nat := 16777215

/-- Largest value of an `i32`. -/
def maxI32 : Int := 2 ^ 31 - 1

/-- Smallest value of an `i32`. -/
def minI32 : Int := -2 ^ 31

/-- The cast of an unsigned number to `i32`. -/
def asI32 (n : Nat) : Int :=
  let low : Nat := n % 2 ^ 32
  if low < 2 ^ 31 then low else (low : Int) - 2 ^ 32

/-- `i32::saturating_add`. -/
def satAddI32 (a b : Int) : Int :=
  max minI32 (min maxI32 (a + b))

/-- `u32::saturating_add`. -/
def satAddU32 (a b : Nat) : Nat :=
  min (2 ^ 32 - 1) (a + b)

structure Frame where
  ty : UInt8
  flags : UInt8
  streamId : Nat
  payload : Bytes
deriving DecidableEq

/-- Whether a flag bit is set. -/
def hasFlag (flags flag : UInt8) : Bool :=
  flags &&& flag ≠ 0

/-- The stream id that the frame header carries: its top bit is masked away. -/
def wireId (streamId : Nat) : Nat :=
  streamId % 2 ^ 31

/-- `push_frame_header` and the payload. -/
def Frame.encode (frame : Frame) : Bytes :=
  beBytes 3 frame.payload.length ++ [frame.ty, frame.flags] ++ beBytes 4 (wireId frame.streamId) ++
    frame.payload

structure FrameMeta where
  ty : UInt8
  flags : UInt8
  streamId : Nat
  total : Nat

/-- Decode a frame header; `none` while the buffer does not hold the whole frame. -/
def tryDecodeFrameMeta (buffer : Bytes) (maxFrameSize : Nat) :
    Except Http2ProtocolError (Option FrameMeta) :=
  if buffer.length < frameHeaderLen then .ok none
  else
    let len := beNat (buffer.take 3)
    if maxFrameSize < len then .error (.frameTooLarge len maxFrameSize)
    else if buffer.length < frameHeaderLen + len then .ok none
    else .ok (some {
      ty := buffer.getD 3 0
      flags := buffer.getD 4 0
      streamId := wireId (beNat ((buffer.drop 5).take 4))
      total := frameHeaderLen + len })

def settingsFrame (ack : Bool) : Frame :=
  ⟨frameSettings, if ack then flagAck else 0, 0, []⟩

/-- One six byte SETTINGS entry. -/
def setting (id value : Nat) : Bytes :=
  beBytes 2 id ++ beBytes 4 value

def rstStreamFrame (streamId error : Nat) : Frame :=
  ⟨frameRstStream, 0, streamId, beBytes 4 error⟩

def goawayFrame (lastStreamId error : Nat) : Frame :=
  ⟨frameGoaway, 0, 0, beBytes 4 (wireId lastStreamId) ++ beBytes 4 error⟩

def windowUpdateFrame (streamId increment : Nat) : Frame :=
  ⟨frameWindowUpdate, 0, streamId, beBytes 4 (increment % 2 ^ 31)⟩

def headersFrame (streamId : Nat) (endStream : Bool) (block : Bytes) : Frame :=
  ⟨frameHeaders, flagEndHeaders ||| (if endStream then flagEndStream else 0), streamId, block⟩

def dataFrame (streamId : Nat) (endStream : Bool) (data : Bytes) : Frame :=
  ⟨frameData, if endStream then flagEndStream else 0, streamId, data⟩

/-- The unpadded bytes of a DATA payload, and the length that counts against the windows. -/
def dataPayloadView (flags : UInt8) (payload : Bytes) :
    Except Http2ProtocolError (Bytes × Nat) :=
  if hasFlag flags flagPadded then
    match payload with
    | [] => .error .badFrameLength
    | padLen :: rest =>
      if rest.length < padLen.toNat then .error .badFrameLength
      else .ok (rest.take (rest.length - padLen.toNat), payload.length)
  else .ok (payload, payload.length)

/-- The header block of a HEADERS payload, without padding and priority. -/
def headersPayloadView (flags : UInt8) (payload : Bytes) : Except Http2ProtocolError Bytes := do
  let (padLen, offset) ←
    if hasFlag flags flagPadded then
      match payload with
      | [] => .error .badFrameLength
      | pad :: _ => .ok (pad.toNat, 1)
    else .ok (0, 0)
  let offset ←
    if hasFlag flags flagPriority then
      if payload.length < offset + 5 then .error .badFrameLength else .ok (offset + 5)
    else .ok offset
  if payload.length - offset < padLen then .error .badFrameLength
  else .ok ((payload.take (payload.length - padLen)).drop offset)

/-- Apply a WINDOW_UPDATE increment. -/
def addWindow (current : Int) (increment : Nat) : Except Http2ProtocolError Int :=
  if maxI32 < current + increment then .error .windowOverflow else .ok (current + increment)

end Tina.Http2
