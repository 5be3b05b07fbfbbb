import Tina.Http2.Frame

/-!
The frame codec: frames are read back as they were written, however the bytes arrive, and the views
of a payload give what was put between its priority and its padding.
-/

namespace Tina.Http2

open List Lib Http2.Frame
open Http (Bytes)

/-- The frames that a read loop takes off its buffer, and what it leaves there. -/
def takeFrames (maxFrameSize : Nat) : Nat → Bytes → Except Http2ProtocolError (List Frame × Bytes)
  | 0, buffer => .ok ([], buffer)
  | fuel + 1, buffer =>
    match tryDecodeFrameMeta buffer maxFrameSize with
    | .error error => .error error
    | .ok none => .ok ([], buffer)
    | .ok (some head) =>
      let payload := (buffer.take head.total).drop frameHeaderLen
      let frame := ⟨head.ty, head.flags, head.streamId, payload⟩
      (takeFrames maxFrameSize fuel (buffer.drop head.total)).map fun (frames, rest) =>
        (frame :: frames, rest)

/-- The frames of bytes that arrive in segments, each appended to what is left in the buffer. -/
def readFrames (maxFrameSize : Nat) (buffer : Bytes) :
    List Bytes → Except Http2ProtocolError (List Frame × Bytes)
  | [] => .ok ([], buffer)
  | segment :: segments => do
    let (frames, buffer) ← takeFrames maxFrameSize (buffer ++ segment).length (buffer ++ segment)
    let (more, buffer) ← readFrames maxFrameSize buffer segments
    return (frames ++ more, buffer)

/-- The frame as it is received: the top bit of the stream id is reserved. -/
def Frame.received (frame : Frame) : Frame :=
  { frame with streamId := wireId frame.streamId }

/-- A payload that both the length field and the limit of the reader allow. -/
def Frame.Fits (maxFrameSize : Nat) (frame : Frame) : Prop :=
  frame.payload.length ≤ maxFrameSize ∧ frame.payload.length < 2 ^ 24

variable {maxFrameSize : Nat} {frame : Frame} {buffer rest : Bytes} {frames : List Frame}

theorem Frame.length_encode (frame : Frame) :
    frame.encode.length = frameHeaderLen + frame.payload.length := by
  simp [encode, frameHeaderLen]
  omega

theorem Frame.drop_encode (frame : Frame) : frame.encode.drop frameHeaderLen = frame.payload := by
  rw [encode]
  exact drop_left' (by simp [frameHeaderLen])

/-- What the header says of a frame at the front of the buffer, once all of it is there. The rest of
the bytes, `more`, has not arrived yet. -/
theorem tryDecodeFrameMeta_front {more : Bytes} (h : frame.Fits maxFrameSize)
    (hsplit : frame.encode ++ rest = buffer ++ more) :
    tryDecodeFrameMeta buffer maxFrameSize = .ok (if buffer.length < frame.encode.length then none
      else some ⟨frame.ty, frame.flags, wireId frame.streamId, frame.encode.length⟩) := by
  rw [tryDecodeFrameMeta, frame.length_encode]
  by_cases hhead : buffer.length < frameHeaderLen
  · rw [if_pos hhead, if_pos (by omega)]
  obtain ⟨_, rfl⟩ : beBytes 3 frame.payload.length ++ ([frame.ty, frame.flags] ++
      beBytes 4 (wireId frame.streamId)) <+: buffer := by
    refine prefix_of_prefix_length_le ⟨frame.payload ++ rest, ?_⟩ ⟨more, hsplit.symm⟩ ?_
    · simp [encode]
    · simpa [frameHeaderLen] using hhead
  have hid : wireId frame.streamId < 2 ^ 31 := Nat.mod_lt _ (by decide)
  rw [if_neg hhead, append_assoc, take_left' (length_beBytes ..), beNat_beBytes h.2]
  rw [if_neg (Nat.not_lt.2 h.1)]
  split_ifs with hshort
  · rfl
  have hwire : wireId (beNat (beBytes 4 (wireId frame.streamId))) = wireId frame.streamId := by
    rw [beNat_beBytes (by omega), wireId, Nat.mod_eq_of_lt hid]
  simp [getElem?_append, drop_append, drop_eq_nil_of_le, hwire]

theorem takeFrames_front {fuel : Nat} (hframes : ∀ frame ∈ frames, frame.Fits maxFrameSize)
    (hfuel : buffer.length ≤ fuel) (h : frames.flatMap encode = buffer ++ rest) :
    ∃ done left torn, frames = done ++ left ∧ left.flatMap encode = torn ++ rest ∧
      (∀ frame ∈ left.head?, torn.length < frame.encode.length) ∧
      takeFrames maxFrameSize fuel buffer = .ok (done.map received, torn) := by
  induction frames generalizing fuel buffer with
  | nil =>
    obtain ⟨rfl, rfl⟩ := append_eq_nil_iff.1 h.symm
    refine ⟨[], [], [], rfl, rfl, by simp, ?_⟩
    cases fuel <;> rfl
  | cons frame frames ih =>
  obtain ⟨hframe, hframes⟩ := forall_mem_cons.1 hframes
  rw [flatMap_cons] at h
  have hdecode := tryDecodeFrameMeta_front hframe h
  split at hdecode
  · rename_i hshort
    refine ⟨[], frame :: frames, buffer, rfl, h, by simpa using hshort, ?_⟩
    cases fuel with
    | zero => rfl
    | succ => rw [takeFrames, hdecode]; rfl
  rename_i hshort
  obtain ⟨buffer, rfl⟩ : frame.encode <+: buffer :=
    prefix_of_prefix_length_le ⟨_, h⟩ ⟨_, rfl⟩ (Nat.not_lt.1 hshort)
  rw [append_assoc, append_cancel_left_eq] at h
  cases fuel with
  | zero =>
    rw [length_append, frame.length_encode, frameHeaderLen] at hfuel
    omega
  | succ fuel =>
  have hrest : buffer.length ≤ fuel := by
    rw [length_append, frame.length_encode, frameHeaderLen] at hfuel
    omega
  obtain ⟨done, left, torn, rfl, htorn, hleft, htake⟩ := ih hframes hrest h
  refine ⟨frame :: done, left, torn, rfl, htorn, hleft, ?_⟩
  rw [takeFrames, hdecode]
  dsimp only
  rw [drop_left, htake, take_left, frame.drop_encode]
  rfl

theorem readFrames_segments {segments : List Bytes}
    (hframes : ∀ frame ∈ frames, frame.Fits maxFrameSize)
    (hshort : ∀ frame ∈ frames.head?, buffer.length < frame.encode.length)
    (h : frames.flatMap encode = buffer ++ segments.flatten) :
    readFrames maxFrameSize buffer segments = .ok (frames.map received, []) := by
  induction segments generalizing buffer frames with
  | nil =>
    cases frames with
    | nil =>
      rw [flatten_nil, append_nil] at h
      rw [← h]
      rfl
    | cons frame =>
    have hlength := congrArg length h
    have hlt := hshort frame rfl
    simp only [flatMap_cons, length_append, flatten_nil, append_nil] at hlength
    omega
  | cons _ _ ih =>
  obtain ⟨_, _, _, rfl, htorn, hleft, htake⟩ := takeFrames_front hframes (le_refl _)
    (h.trans (append_assoc ..).symm)
  obtain ⟨_, hframes⟩ := forall_mem_append.1 hframes
  rw [readFrames, htake]
  simp [ih hframes hleft htorn, bind, Except.bind, pure, Except.pure]

section

variable {flags : UInt8} {payload data : Bytes} {offset padLen : Nat}

/-- A payload that carries `data` behind the length of its padding, if it is padded, and `priority`
bytes, and in front of the padding. -/
def Carries (flags : UInt8) (priority : Nat) (payload data : Bytes) : Prop :=
  ∃ front padding : Bytes, payload = front ++ (data ++ padding) ∧
    front.length = (if hasFlag flags flagPadded then 1 else 0) + priority ∧
    padding.length = if hasFlag flags flagPadded then (payload.headD 0).toNat else 0

theorem middle_iff : (∃ front padding : Bytes,
      payload = front ++ (data ++ padding) ∧ front.length = offset ∧ padding.length = padLen) ↔
    offset + padLen ≤ payload.length ∧
      (payload.take (payload.length - padLen)).drop offset = data := by
  constructor
  · rintro ⟨_, _, rfl, rfl, rfl⟩
    rw [← append_assoc, length_append, Nat.add_sub_cancel, take_left, drop_left, length_append]
    exact ⟨by omega, rfl⟩
  rintro ⟨h, rfl⟩
  refine ⟨payload.take offset, payload.drop (payload.length - padLen), ?_,
    length_take_of_le (by omega), by rw [length_drop]; omega⟩
  rw [← append_assoc]
  have hmin : payload.take offset = (payload.take (payload.length - padLen)).take offset := by
    rw [take_take, Nat.min_eq_left (by omega)]
  rw [hmin, take_append_drop, take_append_drop]

theorem dataPayloadView_iff {n : Nat} : dataPayloadView flags payload = .ok (data, n) ↔
    Carries flags 0 payload data ∧ n = payload.length := by
  unfold dataPayloadView Carries
  rw [middle_iff]
  cases hasFlag flags flagPadded with
  | false => simp [eq_comm]
  | true =>
  cases payload with
  | nil => simp
  | cons padLen rest =>
  by_cases hshort : rest.length < padLen.toNat
  · simp [hshort]
    omega
  · have hfits : 1 + padLen.toNat ≤ rest.length + 1 := by omega
    simp [hshort, Nat.succ_sub (Nat.not_lt.1 hshort), hfits, eq_comm]

theorem headersPayloadView_iff : headersPayloadView flags payload = .ok data ↔
    Carries flags (if hasFlag flags flagPriority then 5 else 0) payload data := by
  unfold headersPayloadView Carries
  rw [middle_iff]
  have hview : ∀ offset padLen : Nat, offset ≤ payload.length →
      ((if payload.length - offset < padLen then .error .badFrameLength
        else .ok ((payload.take (payload.length - padLen)).drop offset) :
          Except Http2ProtocolError Bytes) = .ok data ↔ offset + padLen ≤ payload.length ∧
        (payload.take (payload.length - padLen)).drop offset = data) := by
    intro offset padLen hoffset
    split_ifs with hshort
    · simp
      omega
    · simp
      omega
  cases hasFlag flags flagPadded <;> cases hasFlag flags flagPriority
  · exact hview 0 0 (Nat.zero_le _)
  · by_cases hlong : 5 ≤ payload.length
    · simpa [Nat.not_lt.2 hlong, bind, Except.bind] using hview 5 0 hlong
    · simp [Nat.lt_of_not_le hlong, bind, Except.bind, hlong]
  · cases payload with
    | nil => simp [bind, Except.bind]
    | cons padLen => exact hview 1 padLen.toNat (by simp)
  · cases payload with
    | nil => simp [bind, Except.bind]
    | cons padLen rest =>
    by_cases hlong : 6 ≤ rest.length + 1
    · simpa [Nat.not_lt.2 hlong, bind, Except.bind] using hview 6 padLen.toNat hlong
    · simp [Nat.lt_of_not_le hlong, bind, Except.bind]
      omega

end

/-- Frames within the limit are read back in order, with the reserved bit of their stream ids
cleared, however their bytes are cut; a beginning of one is left where it is. The views of a payload
give what it carries, and refuse a payload whose margins do not fit. -/
theorem frames_round_trip (hframes : ∀ frame ∈ frames, frame.Fits maxFrameSize) :
    (∀ segments, segments.flatten = frames.flatMap encode →
      readFrames maxFrameSize [] segments = .ok (frames.map received, [])) ∧
    (∀ frame ∈ frames, ∀ torn rest, frame.encode = torn ++ rest → rest ≠ [] →
      tryDecodeFrameMeta torn maxFrameSize = .ok none) ∧
    ∀ flags payload data,
      (dataPayloadView flags payload = .ok (data, payload.length) ↔ Carries flags 0 payload data) ∧
      (headersPayloadView flags payload = .ok data ↔
        Carries flags (if hasFlag flags flagPriority then 5 else 0) payload data) := by
  refine ⟨fun segments hsegments => ?_, fun frame hmem torn rest hsplit hrest => ?_,
    fun flags payload data => ⟨by simp [dataPayloadView_iff], headersPayloadView_iff⟩⟩
  · refine readFrames_segments hframes (fun frame _ => ?_) (by simpa using hsegments.symm)
    rw [frame.length_encode, frameHeaderLen]
    simp
  have hlength := congrArg length hsplit
  have hpos := length_pos_iff.2 hrest
  rw [length_append] at hlength
  have hfront := tryDecodeFrameMeta_front (hframes frame hmem) ((append_nil _).trans hsplit)
  rwa [if_pos (by omega)] at hfront

/-- A DATA frame, an empty SETTINGS and a PING, cut in the header of the first and in the payload of
the last. -/
theorem frames_round_trip_of_three :
    readFrames 8 [] [[0, 0, 2, 0], [0, 0, 0, 0, 1, 7, 8, 0, 0, 0, 4, 0, 0, 0, 0, 0, 0, 0, 8, 6, 0,
      0, 0, 0, 0, 1, 2, 3], [4, 5, 6, 7, 8]] = .ok ([⟨frameData, 0, 1, [7, 8]⟩,
        ⟨frameSettings, 0, 0, []⟩, ⟨framePing, 0, 0, [1, 2, 3, 4, 5, 6, 7, 8]⟩], []) := by
  have hfits : ∀ frame ∈ [⟨frameData, 0, 1, [7, 8]⟩, ⟨frameSettings, 0, 0, []⟩,
      ⟨framePing, 0, 0, [1, 2, 3, 4, 5, 6, 7, 8]⟩], Frame.Fits 8 frame := by simp [Fits]
  exact (frames_round_trip hfits).1 _ rfl

/-- A frame with the reserved bit of its stream id set. -/
theorem reserved_bit_cleared :
    readFrames 0 [] [encode ⟨framePing, 0, 2 ^ 31, []⟩] = .ok ([⟨framePing, 0, 0, []⟩], []) :=
  rfl

end Tina.Http2
