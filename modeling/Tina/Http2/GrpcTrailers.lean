import Tina.Http2.Grpc

/-!
The trailers of a gRPC response: the header block in which the server writes a status, and the
reading of such a block.
-/

namespace Tina.Http2

open List UInt8

open Http (Bytes)

/-- The errors that the reading of trailers returns. -/
inductive GrpcError where
  | badFrame
  | missingTrailers

def grpcStatusHeaderStr : GrpcStatusCode → Text
  | .ok => ['0']
  | .cancelled => ['1']
  | .unknown => ['2']
  | .invalidArgument => ['3']
  | .deadlineExceeded => ['4']
  | .notFound => ['5']
  | .alreadyExists => ['6']
  | .permissionDenied => ['7']
  | .resourceExhausted => ['8']
  | .failedPrecondition => ['9']
  | .aborted => ['1', '0']
  | .outOfRange => ['1', '1']
  | .unimplemented => ['1', '2']
  | .internal => ['1', '3']
  | .unavailable => ['1', '4']
  | .dataLoss => ['1', '5']
  | .unauthenticated => ['1', '6']

/-- A digit of `{byte:02X}`. -/
def hexDigit (n : Nat) : Char :=
  Char.ofNat (if n < 10 then 48 + n else 55 + n)

def percentEncodeByte (byte : UInt8) : Text :=
  if 0x20 ≤ byte && byte ≤ 0x7e && byte ≠ 37 then [Char.ofNat byte.toNat]
  else ['%', hexDigit (byte.toNat / 16), hexDigit (byte.toNat % 16)]

def percentEncodeGrpcMessage (message : Text) : Text :=
  (asBytes message).flatMap percentEncodeByte

-- the literals of `grpc.rs` are written and read as those of the HTTP/2 headers are
def grpcStatusTrailersBlock (status : GrpcStatus) : Bytes :=
  encodeLiteralHeader grpcStatusName (grpcStatusHeaderStr status.code) ++
    match status.message with
    | none => []
    | some message => encodeLiteralHeader grpcMessageName (percentEncodeGrpcMessage message)

section

variable (crates : Crates)

def hpackString (input : Bytes) : Except GrpcError (Text × Nat) :=
  match decodePlainHpackString crates input with
  | .ok (some string) => .ok string
  | _ => .error .badFrame

/-- The status and the message read so far, after one more field. -/
def acceptTrailer (seen : Option GrpcStatusCode × Option Text) (name value : Text) :
    Except GrpcError (Option GrpcStatusCode × Option Text) :=
  if name = grpcStatusName then .ok ((parseU16 value).map .fromU16, seen.2)
  else if name = grpcMessageName then
    match percentDecodeGrpcMessage crates value with
    | none => .error .badFrame
    | some message => .ok (seen.1, some message)
  else .ok seen

/-- The loop of `decode_grpc_status_trailers`; every round takes a byte, which the fuel counts. -/
def decodeTrailerFields : Nat → Option GrpcStatusCode × Option Text → Bytes →
    Except GrpcError GrpcStatus
  | _, (none, _), [] => .error .missingTrailers
  | _, (some code, message), [] => .ok ⟨code, message⟩
  | 0, _, _ :: _ => .error .badFrame
  | fuel + 1, seen, first :: block =>
    if first ≠ 0 then .error .badFrame
    else do
      let (name, used) ← hpackString crates block
      let (value, usedValue) ← hpackString crates (block.drop used)
      let seen ← acceptTrailer crates seen name value
      decodeTrailerFields fuel seen (block.drop (used + usedValue))

def decodeGrpcStatusTrailers (block : Bytes) : Except GrpcError GrpcStatus :=
  decodeTrailerFields crates block.length (none, none) block

end

/-! ### What was encoded is read back -/

theorem octet_bits : ∀ n < 128, (ofNat n &&& 0x7f).toNat = n ∧ ofNat n &&& 0x80 = 0 ∧
    ((ofNat n ||| 0x80) &&& 0x7f).toNat = n ∧ (ofNat n ||| 0x80) &&& 0x80 ≠ 0 := by
  decide

theorem decodeHpackOctets_encode {fuel v value shift cursor : Nat} (rest : Bytes) (hfuel : v ≤ fuel)
    (hbound : value + v * 2 ^ shift < 2 ^ 64) :
    decodeHpackOctets value shift cursor (encodeIntegerOctets fuel v ++ rest) =
      .ok (value + v * 2 ^ shift, cursor + (encodeIntegerOctets fuel v).length) := by
  induction fuel generalizing v value shift cursor with
  | zero =>
    obtain rfl : v = 0 := by omega
    simpa [encodeIntegerOctets, decodeHpackOctets] using hbound
  | succ fuel ih =>
  rw [encodeIntegerOctets]
  split
  · obtain ⟨-, -, hpart, hmore⟩ := octet_bits (v % 128) (by omega)
    have hsplit : v * 2 ^ shift = v % 128 * 2 ^ shift + v / 128 * 2 ^ (shift + 7) := by
      conv_lhs => rw [← Nat.mod_add_div v 128]
      ring
    -- a value with more octets to come leaves room for their shift
    have hshift : 2 ^ (shift + 7) < 2 ^ 64 := by
      have : 1 * 2 ^ (shift + 7) ≤ v / 128 * 2 ^ (shift + 7) :=
        Nat.mul_le_mul_right _ (by omega)
      omega
    have := (Nat.pow_lt_pow_iff_right (by decide)).1 hshift
    rw [cons_append, decodeHpackOctets, hpart, Nat.mod_eq_of_lt (by omega),
      if_neg (by omega), if_neg hmore, if_neg (by omega), ih (by omega) (by omega), hsplit]
    simp only [length_cons, Nat.add_assoc, Nat.add_comm 1]
  · obtain ⟨hpart, hlast, -⟩ := octet_bits v (by omega)
    rw [cons_append, decodeHpackOctets, hpart, Nat.mod_eq_of_lt (by omega),
      if_neg (by omega), if_pos hlast]
    rfl

theorem decodeHpackInteger7_encode {n : Nat} (rest : Bytes) (hn : n < 2 ^ 64) :
    ∃ first tail, encodeInteger n 7 0 = first :: tail ∧ first &&& 0x80 = 0 ∧
      decodeHpackInteger7 (first :: (tail ++ rest)) = .ok (n, tail.length + 1) := by
  rw [encodeInteger]
  split
  · obtain ⟨hpart, hplain, -⟩ := octet_bits n (by omega)
    refine ⟨ofNat n, [], by simp, hplain, ?_⟩
    rw [decodeHpackInteger7, hpart, if_pos ‹_›]
    rfl
  · refine ⟨_, _, rfl, rfl, ?_⟩
    rw [decodeHpackInteger7, if_neg (by decide), decodeHpackOctets_encode rest le_rfl (by omega),
      Nat.add_comm 1, show 127 + (n - (2 ^ 7 - 1)) * 2 ^ 0 = n by omega]

theorem percentEncodeByte_sound (byte : UInt8) :
    percentDecodeBytes (asBytes (percentEncodeByte byte)) = some [byte] ∧
      (percentEncodeByte byte).all fun char => 0x20 ≤ char.toNat ∧ char.toNat ≤ 0x7e := by
  obtain ⟨hi, _, lo, _, rfl⟩ : ∃ hi < 16, ∃ lo < 16, byte = UInt8.ofNat (16 * hi + lo) := by
    have hbyte := byte.toNat_lt
    refine ⟨byte.toNat / 16, by omega, byte.toNat % 16, by omega, ?_⟩
    rw [Nat.div_add_mod, UInt8.ofNat_toNat]
  revert hi lo
  decide +kernel

theorem percentDecodeBytes_append {bytes out : Bytes} (rest : Bytes)
    (h : percentDecodeBytes bytes = some out) :
    percentDecodeBytes (bytes ++ rest) = (percentDecodeBytes rest).map (out ++ ·) := by
  fun_induction percentDecodeBytes bytes generalizing out with
  | case1 =>
    obtain rfl := Option.some.inj h
    simp
  | case2 _ _ _ _ _ hlo hhi ih =>
    obtain ⟨out, hout, rfl⟩ := Option.map_eq_some_iff.1 h
    simp [percentDecodeBytes, hhi, hlo, ih hout, Function.comp_def]
  | case3 | case4 => cases h
  | case5 _ bytes hkept ih =>
  obtain ⟨out, hout, rfl⟩ := Option.map_eq_some_iff.1 h
  rw [cons_append, percentDecodeBytes.eq_def]
  simp [hkept, ih hout, Function.comp_def]

section

variable {crates : Crates} (hutf8 : ∀ text, crates.fromUtf8 (asBytes text) = some text)

include hutf8

theorem hpackString_encode {text : Text} (rest : Bytes) (hlength : (asBytes text).length < 2 ^ 64) :
    hpackString crates (encodeString text ++ rest) = .ok (text, (encodeString text).length) := by
  obtain ⟨_, _, heq, hplain, hint⟩ := decodeHpackInteger7_encode (asBytes text ++ rest) hlength
  rw [hpackString, encodeString, heq, append_assoc, cons_append, decodePlainHpackString,
    if_neg (not_not.2 hplain), hint]
  simp [hutf8, Nat.add_right_comm]

theorem decodeTrailerFields_literal (name : Text) {value : Text} (fuel : Nat) (seen) (rest : Bytes)
    (hname : (asBytes name).length < 2 ^ 64) (hvalue : (asBytes value).length < 2 ^ 64) :
    decodeTrailerFields crates (fuel + 1) seen (encodeLiteralHeader name value ++ rest) =
      (acceptTrailer crates seen name value).bind (decodeTrailerFields crates fuel · rest) := by
  rw [encodeLiteralHeader, cons_append, append_assoc, decodeTrailerFields,
    if_neg (by simp), hpackString_encode hutf8 _ hname]
  simp only [bind, Except.bind, drop_left, hpackString_encode hutf8 rest hvalue]
  rw [← length_append, ← append_assoc, drop_left]

theorem percentDecode_encode (message : Text) :
    percentDecodeGrpcMessage crates (percentEncodeGrpcMessage message) = some message := by
  have hbytes : ∀ bytes : Bytes,
      percentDecodeBytes (asBytes (bytes.flatMap percentEncodeByte)) = some bytes := by
    intro bytes
    induction bytes with
    | nil => rfl
    | cons byte bytes ih =>
      rw [flatMap_cons, asBytes, flatMap_append]
      exact (percentDecodeBytes_append _ (percentEncodeByte_sound byte).1).trans (congrArg _ ih)
  rw [percentDecodeGrpcMessage, percentEncodeGrpcMessage, hbytes]
  exact hutf8 message

/-- A status is read back from its trailers as it was written, whatever its message; the length of
the encoded message is a `usize`. Encoded messages are printable, and decode to the message. -/
theorem grpc_trailers_round_trip (status : GrpcStatus) (hlength : ∀ message ∈ status.message,
      (asBytes (percentEncodeGrpcMessage message)).length < 2 ^ 64) :
    decodeGrpcStatusTrailers crates (grpcStatusTrailersBlock status) = .ok status ∧
      ∀ message, percentDecodeGrpcMessage crates (percentEncodeGrpcMessage message) = some message ∧
        ∀ char ∈ percentEncodeGrpcMessage message, 0x20 ≤ char.toNat ∧ char.toNat ≤ 0x7e := by
  refine ⟨?_, fun message => ⟨percentDecode_encode hutf8 message, fun char hchar => ?_⟩⟩
  · obtain ⟨code, message⟩ := status
    obtain ⟨hvalue, hcode⟩ : (asBytes (grpcStatusHeaderStr code)).length < 2 ^ 64 ∧
        (parseU16 (grpcStatusHeaderStr code)).map .fromU16 = some code := by
      cases code <;> decide
    obtain ⟨fuel, hfuel⟩ : ∃ fuel, (grpcStatusTrailersBlock ⟨code, message⟩).length = fuel + 2 := by
      refine Nat.exists_eq_add_of_le' ?_
      simp [grpcStatusTrailersBlock, encodeLiteralHeader,
        show (encodeString grpcStatusName).length = 12 by decide]
      omega
    rw [decodeGrpcStatusTrailers, hfuel, grpcStatusTrailersBlock,
      decodeTrailerFields_literal hutf8 _ _ _ _ (by decide) hvalue, acceptTrailer, if_pos rfl,
      hcode]
    cases message with
    | none => rfl
    | some message =>
    -- the message is the last field of the block
    have hread := decodeTrailerFields_literal hutf8 grpcMessageName fuel (some code, none) []
      (by decide) (hlength message rfl)
    rw [append_nil, acceptTrailer, if_neg (by decide), if_pos rfl,
      percentDecode_encode hutf8] at hread
    refine hread.trans ?_
    cases fuel <;> rfl
  · obtain ⟨byte, -, hchar⟩ := mem_flatMap.1 hchar
    exact of_decide_eq_true (all_eq_true.1 (percentEncodeByte_sound byte).2 char hchar)

end

theorem grpc_trailers_round_trip_percent : decodeGrpcStatusTrailers { asciiCrates with
        fromUtf8 := fun bytes => bytes.toByteArray.utf8Decode?.map Array.toList }
        (grpcStatusTrailersBlock ⟨.internal, some ['%', 'é']⟩) =
      .ok ⟨.internal, some ['%', 'é']⟩ :=
  (grpc_trailers_round_trip (fun _ => congrArg (Option.map _) utf8Decode?_utf8Encode)
    ⟨.internal, some ['%', 'é']⟩ (by rintro _ ⟨⟩; decide)).1

end Tina.Http2
