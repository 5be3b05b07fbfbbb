import Mathlib.Data.List.Basic
import Tina.Http.Types
import Tina.Lib.BigEndian

/-!
The WebSocket frame encoder and the payload of close frames. Whether bytes are UTF-8 is asked of the
standard library, so it is a parameter.
-/

namespace Tina.Http

open List Lib

inductive WebSocketError where
  | controlFrameTooLarge
  | invalidClosePayload

inductive WebSocketMessage where
  | text (text : Bytes)
  | binary (bytes : Bytes)
  | ping (bytes : Bytes)
  | pong (bytes : Bytes)
  | close (code : Option UInt16) (reason : Bytes)

/-- The length of an unmasked payload, in one, three or nine bytes. -/
def lengthField (len : Nat) : Bytes :=
  if len < 126 then [UInt8.ofNat len]
  else if len < 2 ^ 16 then 126 :: beBytes 2 len
  else 127 :: beBytes 8 len

def encodeServerFrameFrom (opcode : UInt8) (payload : Bytes) : Except WebSocketError Bytes :=
  if 8 ≤ opcode ∧ 125 < payload.length then .error .controlFrameTooLarge
  else .ok ((0x80 ||| opcode) :: (lengthField payload.length ++ payload))

def encodeServerFrame (opcode : UInt8) (payload : Bytes) : Except WebSocketError Bytes :=
  encodeServerFrameFrom opcode payload

def closePayload (code : Option UInt16) (reason : Bytes) : Bytes :=
  (match code with
    | none => []
    | some code => beBytes 2 code.toNat) ++ reason

def encodeServerMessage : WebSocketMessage → Except WebSocketError Bytes
  | .text text => encodeServerFrame 0x1 text
  | .binary bytes => encodeServerFrame 0x2 bytes
  | .ping bytes => encodeServerFrame 0x9 bytes
  | .pong bytes => encodeServerFrame 0xA bytes
  | .close code reason => encodeServerFrame 0x8 (closePayload code reason)

def validCloseCode (code : UInt16) : Bool :=
  (1000 ≤ code && code ≤ 1003) || (1007 ≤ code && code ≤ 1014) || (3000 ≤ code && code ≤ 4999)

def decodeClosePayload (isUtf8 : Bytes → Bool) :
    Bytes → Except WebSocketError (Option UInt16 × Bytes)
  | [] => .ok (none, [])
  | [_] => .error .invalidClosePayload
  | a :: b :: reason =>
    let code := UInt16.ofNat (beNat [a, b])
    if !validCloseCode code || !isUtf8 reason then .error .invalidClosePayload
    else .ok (some code, reason)

section

variable (isUtf8 : Bytes → Bool) (code : Option UInt16) (reason : Bytes)

/-- What a close frame may say: no reason without a code, a code that is not reserved, and a reason
in UTF-8. -/
def WellFormedClose : Prop :=
  match code with
  | none => reason = []
  | some code => validCloseCode code = true ∧ isUtf8 reason = true

theorem decode_closePayload_iff :
    decodeClosePayload isUtf8 (closePayload code reason) = .ok (code, reason) ↔
      WellFormedClose isUtf8 code reason := by
  cases code with
  | none =>
    match reason with
    | [] => simp [closePayload, decodeClosePayload, WellFormedClose]
    | [byte] => simp [closePayload, decodeClosePayload, WellFormedClose]
    | a :: b :: reason =>
      rw [closePayload, nil_append, decodeClosePayload]
      split_ifs <;> simp [WellFormedClose]
  | some code =>
    have hcode : UInt16.ofNat (beNat (beBytes 2 code.toNat)) = code := by
      rw [beNat_beBytes code.toNat_lt, UInt16.ofNat_toNat]
    obtain ⟨a, b, hbytes⟩ := length_eq_two.1 (length_beBytes 2 code.toNat)
    rw [hbytes] at hcode
    rw [closePayload, hbytes, cons_append, cons_append, nil_append, decodeClosePayload, hcode]
    cases hvalid : validCloseCode code <;> cases hutf8 : isUtf8 reason <;>
      simp [WellFormedClose, hvalid, hutf8]

/-- A close frame has a short header, so its payload starts at its third byte. -/
theorem encode_close : encodeServerMessage (.close code reason) =
    let payload := closePayload code reason
    if 125 < payload.length then .error .controlFrameTooLarge
    else .ok (0x88 :: UInt8.ofNat payload.length :: payload) := by
  rw [encodeServerMessage, encodeServerFrame, encodeServerFrameFrom]
  dsimp only
  split_ifs with hlong hlarge hlarge
  · rfl
  · exact absurd hlong.2 hlarge
  · exact absurd ⟨by decide, hlarge⟩ hlong
  · rw [lengthField, if_pos (by omega)]
    simp
    decide

/-- Every close frame that is sent says to its reader what its sender meant exactly if it is refused
for its length or well formed: the encoder looks at the length only. The check of the reason's text
may be any. -/
theorem close_decodes_iff : (∀ frame, encodeServerMessage (.close code reason) = .ok frame →
      decodeClosePayload isUtf8 (frame.drop 2) = .ok (code, reason)) ↔
    125 < (if code.isSome then 2 else 0) + reason.length ∨ WellFormedClose isUtf8 code reason := by
  have hlength : (closePayload code reason).length =
      (if code.isSome then 2 else 0) + reason.length := by
    cases code <;> simp [closePayload]
  rw [encode_close, ← hlength, ← decode_closePayload_iff]
  dsimp only
  split_ifs with hlong
  · simp [hlong]
  · simp [hlong]

end

/-- A reason without a code. -/
theorem reason_without_code_sent : encodeServerMessage (.close none [120]) = .ok [0x88, 1, 120] ∧
    decodeClosePayload (fun _ => true) [120] = .error .invalidClosePayload :=
  ⟨rfl, rfl⟩

end Tina.Http
