import Tina.Lib.Checks
import Tina.Rpc.Frame

/-!
The codec accepts the same frames in both directions, the version apart: `encode` writes any
version, `decode` takes the first one only.
-/

namespace Tina.Rpc

open Lib List Rpc.Frame

variable {frame : Frame} {limits : FrameLimits} {bytes body : List UInt8} {byte : UInt8}
  {kind : FrameKind} {text : String}

structure FrameLimits.Valid (limits : FrameLimits) : Prop where
  min : MIN_BODY_SIZE ≤ limits.maxFrameSize
  max : limits.maxFrameSize ≤ U32_MAX

/-- The frames that go on the wire, as far as the encoder looks. -/
structure Frame.Encodable (frame : Frame) (limits : FrameLimits) : Prop where
  valid : limits.Valid
  service : (asBytes frame.service).length ≤ MAX_SERVICE_LEN
  method : (asBytes frame.method).length ≤ MAX_METHOD_LEN
  /-- An error frame has an error code, and no other frame has one. -/
  code : frame.error.isSome ↔ frame.kind = .error
  size : frame.bodyLen ≤ limits.maxFrameSize

/-- The byte of the error code, for a frame whose kind and code agree. -/
def Frame.errorByte (frame : Frame) : UInt8 :=
  frame.error.elim 0 errorToByte

theorem encodeErrorCode_eq_some_iff : encodeErrorCode frame = some byte ↔
      (frame.error.isSome ↔ frame.kind = .error) ∧ byte = frame.errorByte := by
  unfold encodeErrorCode errorByte
  cases frame.kind <;> cases frame.error <;> simp [eq_comm]

theorem decodeKind_eq_ok_iff : decodeKind byte = .ok kind ↔ byte = kind.toByte := by
  unfold decodeKind
  cases kind <;> split_ifs <;> simp_all [FrameKind.toByte]

theorem decodeErrorCode_eq_ok_iff {error : Option FrameError} :
    decodeErrorCode kind byte = .ok error ↔
      (error.isSome ↔ kind = .error) ∧ byte = error.elim 0 errorToByte := by
  unfold decodeErrorCode
  cases kind with
  | request | reply => cases error <;> split_ifs <;> simp_all
  | error =>
  cases error with
  | none => split_ifs <;> simp_all
  | some code => cases code <;> split_ifs <;> simp_all [errorToByte]

theorem decodeText_eq_ok_iff {error : DecodeError} :
    decodeText error bytes = .ok text ↔ bytes = asBytes text := by
  rw [← fromUtf8_eq_some_iff]
  unfold decodeText
  cases fromUtf8 bytes <;> simp

section

variable {fixed rest : List UInt8} {version byte : UInt8} {kind : FrameKind}
  {error : Option FrameError} {requestId : UInt64}

/-- Reading a name: a length byte, the name, and what stands behind it. -/
theorem counted_eq_iff {tail : List UInt8} (hlength : byte.toNat ≤ rest.length) :
    rest.take byte.toNat = asBytes text ∧ rest.drop byte.toNat = tail ↔
      (asBytes text).length ≤ 255 ∧
        byte :: rest = UInt8.ofNat (asBytes text).length :: asBytes text ++ tail := by
  have hbyte := byte.toNat_lt
  constructor
  · rintro ⟨htake, rfl⟩
    have hcount : (asBytes text).length = byte.toNat := by
      rw [← htake, length_take, min_eq_left hlength]
    refine ⟨by omega, ?_⟩
    rw [hcount, ← htake, cons_append, take_append_drop, UInt8.ofNat_toNat]
  rintro ⟨_, heq⟩
  rw [cons_append] at heq
  obtain ⟨rfl, rfl⟩ := cons.inj heq
  have hcount : (UInt8.ofNat (asBytes text).length).toNat = (asBytes text).length := by
    rw [UInt8.toNat_ofNat']
    omega
  rw [hcount]
  exact ⟨take_left, drop_left⟩

theorem decodeNames_append (hfixed : fixed.length = 11) :
    decodeNames version kind error requestId (fixed ++ byte :: rest) =
      (if rest.length ≤ byte.toNat then .error .serviceLengthOverrun
      else do
        let service ← decodeText .serviceNotUtf8 (rest.take byte.toNat)
        let methodLen := (rest.getD byte.toNat 0).toNat
        if rest.length < byte.toNat + 1 + methodLen then .error .methodLengthOverrun
        else
          let method ← decodeText .methodNotUtf8 ((rest.drop (byte.toNat + 1)).take methodLen)
          .ok ⟨version, kind, error, requestId, service, method,
            rest.drop (byte.toNat + 1 + methodLen)⟩) := by
  have hget : ∀ n, (fixed ++ byte :: rest).getD (11 + n) 0 = (byte :: rest).getD n 0 := by
    intro n
    rw [getD_eq_getElem?_getD, getElem?_append_right (by omega), hfixed,
      Nat.add_sub_cancel_left, ← getD_eq_getElem?_getD]
  have hdrop : ∀ n, (fixed ++ byte :: rest).drop (12 + n) = rest.drop n := by
    intro n
    rw [show 12 + n = fixed.length + (n + 1) by omega, drop_length_add_append]
    rfl
  have hbyte : (fixed ++ byte :: rest).getD 11 0 = byte := hget 0
  have hmethod : (fixed ++ byte :: rest).getD (12 + byte.toNat) 0 = rest.getD byte.toNat 0 := by
    rw [show 12 + byte.toNat = 11 + (byte.toNat + 1) by omega, hget]
    rfl
  have hlength : (fixed ++ byte :: rest).length = rest.length + 12 := by
    rw [length_append, length_cons, hfixed]
    omega
  unfold decodeNames
  dsimp only
  rw [hbyte, hmethod, hlength, hdrop 0, drop_zero]
  simp only [add_assoc, hdrop]
  have hservice : rest.length + 12 ≤ 12 + byte.toNat ↔ rest.length ≤ byte.toNat := by omega
  have hmethodEnd : rest.length + 12 < 12 + (byte.toNat + (1 + (rest.getD byte.toNat 0).toNat)) ↔
      rest.length < byte.toNat + (1 + (rest.getD byte.toNat 0).toNat) := by omega
  simp only [hservice, hmethodEnd]

theorem decodeNames_eq_ok_iff (hfixed : fixed.length = 11) :
    decodeNames version kind error requestId (fixed ++ byte :: rest) = .ok frame ↔
      ∃ service method payload, frame =
        ⟨version, kind, error, requestId, service, method, payload⟩ ∧
        (asBytes service).length ≤ 255 ∧ (asBytes method).length ≤ 255 ∧
        byte :: rest = UInt8.ofNat (asBytes service).length :: asBytes service ++
          UInt8.ofNat (asBytes method).length :: asBytes method ++ payload := by
  rw [decodeNames_append hfixed]
  simp only [check_eq_ok_iff, bind_eq_ok_iff, decodeText_eq_ok_iff, not_le, not_lt]
  constructor
  · rintro ⟨hservice, service, htake, _, method, htake', heq⟩
    -- the byte behind the service is the length of the method
    have hcons : rest.drop byte.toNat = rest.getD byte.toNat 0 :: rest.drop (byte.toNat + 1) := by
      rw [drop_eq_getElem_cons hservice, getD_eq_getElem?_getD,
        getElem?_eq_getElem hservice, Option.getD_some]
    have hmethodLen : (rest.getD byte.toNat 0).toNat ≤ (rest.drop (byte.toNat + 1)).length := by
      rw [length_drop]
      omega
    obtain ⟨hshort, hrest⟩ := (counted_eq_iff (by omega)).1 ⟨htake, hcons⟩
    obtain ⟨hshort', hrest'⟩ := (counted_eq_iff hmethodLen).1 ⟨htake', rfl⟩
    refine ⟨service, method, _, (Except.ok.inj heq).symm, hshort, hshort', ?_⟩
    rw [hrest, hrest', drop_drop]
    simp
  · rintro ⟨service, method, _, rfl, _, _, heq⟩
    rw [cons_append] at heq
    obtain ⟨rfl, rfl⟩ := cons.inj heq
    have hcount : (UInt8.ofNat (asBytes service).length).toNat = (asBytes service).length := by
      rw [UInt8.toNat_ofNat']
      omega
    have hcount' : (UInt8.ofNat (asBytes method).length).toNat = (asBytes method).length := by
      rw [UInt8.toNat_ofNat']
      omega
    simp [hcount, hcount', add_assoc, add_comm 1 (asBytes method).length]

end

theorem length_encodeBody (byte : UInt8) : (encodeBody frame byte).length = frame.bodyLen := by
  simp only [encodeBody, bodyLen, length_append, length_cons, length_nil,
    length_beBytes, MIN_BODY_SIZE]
  omega

theorem requestId_eq_iff {requestId : UInt64} (hlength : bytes.length = 8) :
    UInt64.ofNat (beNat bytes) = requestId ↔ bytes = beBytes 8 requestId.toNat := by
  have hlt : beNat bytes < 2 ^ 64 := by
    have hlt := beNat_lt bytes
    rwa [hlength] at hlt
  constructor
  · rintro rfl
    rw [UInt64.toNat_ofNat', Nat.mod_eq_of_lt hlt, ← hlength, beBytes_beNat]
  · rintro rfl
    rw [beNat_beBytes requestId.toNat_lt, UInt64.ofNat_toNat]

/-- What a body of at least the minimal size is made of. -/
theorem exists_fixed (hlength : MIN_BODY_SIZE ≤ body.length) :
    ∃ version kind code id byte rest, body = [version, kind, code] ++ id ++ byte :: rest ∧
      id.length = 8 := by
  unfold MIN_BODY_SIZE at hlength
  obtain ⟨version, body, rfl⟩ := exists_cons_of_length_pos (l := body) (by omega)
  obtain ⟨kind, body, rfl⟩ := exists_cons_of_length_pos (l := body) (by simp at hlength; omega)
  obtain ⟨code, body, rfl⟩ := exists_cons_of_length_pos (l := body) (by simp at hlength; omega)
  simp only [length_cons] at hlength
  obtain ⟨byte, rest, hrest⟩ := exists_cons_of_length_pos (l := body.drop 8)
    (by rw [length_drop]; omega)
  refine ⟨version, kind, code, body.take 8, byte, rest, ?_, by rw [length_take]; omega⟩
  rw [← hrest, append_assoc, take_append_drop]
  rfl

theorem decodeBody_eq_ok_iff : decodeBody body = .ok frame ↔
      frame.version = FRAME_VERSION_V1 ∧ (frame.error.isSome ↔ frame.kind = .error) ∧
        (asBytes frame.service).length ≤ MAX_SERVICE_LEN ∧
        (asBytes frame.method).length ≤ MAX_METHOD_LEN ∧
        body = encodeBody frame frame.errorByte := by
  by_cases hlength : body.length < MIN_BODY_SIZE
  · -- too short for any frame
    have hne : body ≠ encodeBody frame frame.errorByte := by
      rintro rfl
      rw [length_encodeBody, bodyLen] at hlength
      omega
    simp [decodeBody, hlength, hne]
  obtain ⟨version, kindByte, code, id, byte, rest, rfl, hid⟩ := exists_fixed (not_lt.1 hlength)
  have hfixed : ([version, kindByte, code] ++ id).length = 11 := by simp [hid]
  have htake : (([version, kindByte, code] ++ id ++ byte :: rest).drop 3).take 8 = id := by
    rw [← hid]
    simp
  unfold decodeBody
  rw [if_neg hlength, htake]
  simp only [check_eq_ok_iff, bind_eq_ok_iff, decodeKind_eq_ok_iff, decodeErrorCode_eq_ok_iff,
    decodeNames_eq_ok_iff hfixed, not_not]
  constructor
  · rintro ⟨hversion, kind, hkind, error, ⟨hcode, herror⟩, service, method, payload, rfl, hshort,
      hshort', hrest⟩
    refine ⟨hversion, hcode, hshort, hshort', ?_⟩
    have hkind' : kindByte = kind.toByte := hkind
    have herror' : code = error.elim 0 errorToByte := herror
    have hid' : id = beBytes 8 (UInt64.ofNat (beNat id)).toNat := (requestId_eq_iff hid).1 rfl
    rw [hrest, hkind', herror']
    nth_rewrite 1 [hid']
    simp [encodeBody, errorByte]
  · rintro ⟨hversion, hcode, hshort, hshort', hbody⟩
    simp only [encodeBody, cons_append, nil_append, append_assoc, cons.injEq] at hbody
    obtain ⟨rfl, rfl, rfl, htail⟩ := hbody
    obtain ⟨hid', hrest⟩ := append_inj htail (by simp [hid])
    refine ⟨hversion, frame.kind, rfl, frame.error, ⟨hcode, rfl⟩, frame.service, frame.method,
      frame.payload, ?_, hshort, hshort', ?_⟩
    · rw [(requestId_eq_iff hid).2 hid']
      rfl
    · simpa using hrest

theorem encode_eq_ok_iff : encode frame limits = .ok bytes ↔ frame.Encodable limits ∧
      bytes = beBytes 4 frame.bodyLen ++ encodeBody frame frame.errorByte := by
  have hlimits : checkLimitsForEncode limits = .ok () ↔ limits.Valid := by
    simp only [checkLimitsForEncode, check_eq_ok_iff, not_lt, and_true]
    exact ⟨fun h => ⟨h.1, h.2⟩, fun h => ⟨h.min, h.max⟩⟩
  unfold encode
  simp only [bind_eq_ok_iff, check_eq_ok_iff, not_lt]
  constructor
  · rintro ⟨⟨⟩, hok, hservice, hmethod, heq⟩
    split at heq
    · cases heq
    rename_i byte hbyte
    obtain ⟨hcode, rfl⟩ := encodeErrorCode_eq_some_iff.1 hbyte
    obtain ⟨hsize, heq⟩ := check_eq_ok_iff.1 heq
    exact ⟨⟨hlimits.1 hok, hservice, hmethod, hcode, not_lt.1 hsize⟩, (Except.ok.inj heq).symm⟩
  · rintro ⟨hframe, rfl⟩
    refine ⟨(), hlimits.2 hframe.valid, hframe.service, hframe.method, ?_⟩
    rw [encodeErrorCode_eq_some_iff.2 ⟨hframe.code, rfl⟩]
    exact check_eq_ok_iff.2 ⟨not_lt.2 hframe.size, rfl⟩

theorem parseLengthPrefix_eq_ok_iff {bodyLen : Nat} :
    parseLengthPrefix bytes limits = .ok bodyLen ↔ limits.Valid ∧ bodyLen = beNat bytes ∧
      MIN_BODY_SIZE ≤ bodyLen ∧ bodyLen ≤ limits.maxFrameSize := by
  unfold parseLengthPrefix checkLimitsForDecode
  simp only [bind_eq_ok_iff, check_eq_ok_iff, not_lt, Except.ok.injEq]
  constructor
  · rintro ⟨⟨⟩, ⟨hmin, hmax, -⟩, hlow, hhigh, rfl⟩
    exact ⟨⟨hmin, hmax⟩, rfl, hlow, hhigh⟩
  · rintro ⟨hvalid, rfl, hlow, hhigh⟩
    exact ⟨(), ⟨hvalid.min, hvalid.max, trivial⟩, hlow, hhigh, rfl⟩

theorem decode_eq_ok_iff :
    decode bytes limits = .ok frame ↔ frame.version = FRAME_VERSION_V1 ∧ frame.Encodable limits ∧
        bytes = beBytes 4 frame.bodyLen ++ encodeBody frame frame.errorByte := by
  unfold decode
  simp only [bind_eq_ok_iff, check_eq_ok_iff, not_lt, parseLengthPrefix_eq_ok_iff,
    decodeBody_eq_ok_iff]
  constructor
  · rintro ⟨hpre, bodyLen, ⟨hvalid, hlen, _, hhigh⟩, _, hge, hversion, hcode, hservice,
      hmethod, hbody⟩
    have hwhole : bytes.take (LENGTH_PREFIX_SIZE + bodyLen) = bytes := take_of_length_le hge
    rw [hwhole] at hbody
    have hbodyLen : bodyLen = frame.bodyLen := by
      rw [← length_encodeBody frame.errorByte, ← hbody, length_drop]
      omega
    have htake : (bytes.take LENGTH_PREFIX_SIZE).length = 4 := by
      rw [length_take, min_eq_left hpre]
      rfl
    refine ⟨hversion, ⟨hvalid, hservice, hmethod, hcode, hbodyLen ▸ hhigh⟩, ?_⟩
    rw [← hbody, ← hbodyLen, hlen, ← htake, beBytes_beNat, take_append_drop]
  rintro ⟨hversion, hframe, rfl⟩
  have hlt : frame.bodyLen < 256 ^ 4 := by
    have hmax := hframe.valid.max
    have hsize := hframe.size
    unfold U32_MAX at hmax
    omega
  have htake : (beBytes 4 frame.bodyLen ++ encodeBody frame frame.errorByte).take
      LENGTH_PREFIX_SIZE = beBytes 4 frame.bodyLen := by
    rw [show LENGTH_PREFIX_SIZE = (beBytes 4 frame.bodyLen).length by simp [LENGTH_PREFIX_SIZE],
      take_left]
  have hlength : (beBytes 4 frame.bodyLen ++ encodeBody frame frame.errorByte).length =
      LENGTH_PREFIX_SIZE + frame.bodyLen := by
    rw [length_append, length_beBytes, length_encodeBody]
    rfl
  refine ⟨by omega, frame.bodyLen, ⟨hframe.valid, ?_, ?_, hframe.size⟩, by omega, by omega,
    hversion, hframe.code, hframe.service, hframe.method, ?_⟩
  · rw [htake, beNat_beBytes hlt]
  · unfold bodyLen
    omega
  · rw [take_of_length_le (by omega),
      show LENGTH_PREFIX_SIZE = (beBytes 4 frame.bodyLen).length by simp [LENGTH_PREFIX_SIZE],
      drop_left]

/-- The codec is a bijection at a frame exactly when the frame has the version that the decoder
takes, or does not go on the wire at all: `encode` checks everything but the version. The frame and
the limits may be any. -/
theorem codec_exact_iff_version (frame : Frame) (limits : FrameLimits) :
    ((∀ bytes, encode frame limits = .ok bytes → decode bytes limits = .ok frame) ∧
      ∀ bytes, decode bytes limits = .ok frame → encode frame limits = .ok bytes) ↔
    (frame.Encodable limits → frame.version = FRAME_VERSION_V1) := by
  constructor
  · rintro ⟨hdecodes, -⟩ hframe
    exact (decode_eq_ok_iff.1 (hdecodes _ (encode_eq_ok_iff.2 ⟨hframe, rfl⟩))).1
  intro hversion
  refine ⟨fun bytes hencode => ?_, fun bytes hdecode => ?_⟩
  · obtain ⟨hframe, hbytes⟩ := encode_eq_ok_iff.1 hencode
    exact decode_eq_ok_iff.2 ⟨hversion hframe, hframe, hbytes⟩
  · obtain ⟨-, hframe, hbytes⟩ := decode_eq_ok_iff.1 hdecode
    exact encode_eq_ok_iff.2 ⟨hframe, hbytes⟩

/-- A frame of version 2 goes on the wire, and no peer takes it. -/
theorem encode_writes_undecodable_version :
    let frame : Frame := { request 7 "kv" "get" [1, 2] with version := 2 }
    ∃ bytes, encode frame ⟨1024⟩ = .ok bytes ∧
      decode bytes ⟨1024⟩ = .error (.unsupportedVersion 2) := by
  refine ⟨_, rfl, ?_⟩
  decide +kernel

end Tina.Rpc
