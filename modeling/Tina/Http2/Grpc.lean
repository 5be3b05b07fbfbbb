import Tina.Http2.Headers

/-!
gRPC statuses: the codes, the percent encoded messages, and the two readings of a response, from
public header maps and from compact facts.
-/

namespace Tina.Http2

open Http (Bytes StatusCode trim)

inductive GrpcStatusCode where
  | ok
  | cancelled
  | unknown
  | invalidArgument
  | deadlineExceeded
  | notFound
  | alreadyExists
  | permissionDenied
  | resourceExhausted
  | failedPrecondition
  | aborted
  | outOfRange
  | unimplemented
  | internal
  | unavailable
  | dataLoss
  | unauthenticated
deriving DecidableEq

def GrpcStatusCode.fromU16 : Nat → GrpcStatusCode
  | 0 => .ok
  | 1 => .cancelled
  | 3 => .invalidArgument
  | 4 => .deadlineExceeded
  | 5 => .notFound
  | 6 => .alreadyExists
  | 7 => .permissionDenied
  | 8 => .resourceExhausted
  | 9 => .failedPrecondition
  | 10 => .aborted
  | 11 => .outOfRange
  | 12 => .unimplemented
  | 13 => .internal
  | 14 => .unavailable
  | 15 => .dataLoss
  | 16 => .unauthenticated
  | _ => .unknown

structure GrpcStatus where
  code : GrpcStatusCode
  message : Option Text
deriving DecidableEq

def fromHex (byte : UInt8) : Option UInt8 :=
  if 48 ≤ byte && byte ≤ 57 then some (byte - 48)
  else if 97 ≤ byte && byte ≤ 102 then some (byte - 97 + 10)
  else if 65 ≤ byte && byte ≤ 70 then some (byte - 65 + 10)
  else none

/-- The bytes that a percent encoded text stands for. -/
def percentDecodeBytes : Bytes → Option Bytes
  | [] => some []
  | byte :: rest =>
    if byte = 37 then
      match rest with
      | hi :: lo :: rest =>
        match fromHex hi, fromHex lo with
        | some hi, some lo => (percentDecodeBytes rest).map fun out => (hi <<< 4 ||| lo) :: out
        | _, _ => none
      | _ => none
    else (percentDecodeBytes rest).map fun out => byte :: out

section

variable (crates : Crates)

/-- `none` stands for `GrpcError::BadFrame`, which both readings drop. -/
def percentDecodeGrpcMessage (message : Text) : Option Text :=
  (percentDecodeBytes (asBytes message)).bind crates.fromUtf8

def grpcStatusFromHeaderMap (headers : HeaderMap) : Option GrpcStatus := do
  let raw ← (headers.get grpcStatusName).bind crates.toStr
  let code ← parseU16 (trim raw)
  let message :=
    ((headers.get grpcMessageName).bind crates.toStr).bind (percentDecodeGrpcMessage crates)
  some ⟨.fromU16 code, message⟩

def grpcStatusFromCompact (code : Nat) (rawMessage : Option Text) : GrpcStatus :=
  ⟨.fromU16 code, rawMessage.bind (percentDecodeGrpcMessage crates)⟩

/-- `grpc_status_from_headers`: the code that the protocol fact reports. -/
def grpcStatusFromHeaders (headers : HeaderMap) : Option GrpcStatusCode := do
  let value ← (headers.get grpcStatusName).bind crates.toStr
  let code ← parseU16 (trim value)
  some (.fromU16 code)

end

end Tina.Http2
