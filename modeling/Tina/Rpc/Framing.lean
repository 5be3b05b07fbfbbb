import Tina.Rpc.Codec

/-!
Whole frames at the front of a buffer. Both ends of a connection cut their inbound bytes in this
way, and what they cut does not depend on how the bytes came in.
-/

namespace Tina.Rpc

open Lib List

/-- The id of a TCP stream. -/
abbrev StreamId := Nat

/-- What a buffer begins with. -/
inductive Cut where
  /-- No whole frame yet. -/
  | short
  | badLength (error : DecodeError)
  | whole (result : Except DecodeError Frame) (rest : List UInt8)

/-- One round of the loops that drain an inbound buffer. -/
def cutFrame (limits : FrameLimits) (inbound : List UInt8) : Cut :=
  if inbound.length < LENGTH_PREFIX_SIZE then .short
  else
    match parseLengthPrefix (inbound.take LENGTH_PREFIX_SIZE) limits with
    | .error error => .badLength error
    | .ok bodyLen =>
      let total := LENGTH_PREFIX_SIZE + bodyLen
      if inbound.length < total then .short
      else
        .whole (decodeBody ((inbound.take total).drop LENGTH_PREFIX_SIZE)) (inbound.drop total)

variable {limits : FrameLimits} {inbound rest more : List UInt8} {frame : Frame}
  {result : Except DecodeError Frame} {error : DecodeError}

theorem cutFrame_append_of_whole (h : cutFrame limits inbound = .whole result rest)
    (more : List UInt8) : cutFrame limits (inbound ++ more) = .whole result (rest ++ more) := by
  unfold cutFrame at h ⊢
  split at h
  · cases h
  next hlength =>
  have hlength' : ¬ (inbound ++ more).length < LENGTH_PREFIX_SIZE := by
    rw [length_append]
    omega
  rw [if_neg hlength', take_append_of_le_length (not_lt.1 hlength)]
  split at h
  · cases h
  dsimp only at h
  split at h
  · cases h
  next htotal =>
  cases h
  rw [if_neg (by rw [length_append]; omega), take_append_of_le_length (not_lt.1 htotal),
    drop_append_of_le_length (not_lt.1 htotal)]

theorem cutFrame_append_of_badLength (h : cutFrame limits inbound = .badLength error)
    (more : List UInt8) : cutFrame limits (inbound ++ more) = .badLength error := by
  unfold cutFrame at h ⊢
  split at h
  · cases h
  next hlength =>
  have hlength' : ¬ (inbound ++ more).length < LENGTH_PREFIX_SIZE := by
    rw [length_append]
    omega
  rw [if_neg hlength', take_append_of_le_length (not_lt.1 hlength)]
  split at h
  · exact h
  · dsimp only at h
    split at h <;> cases h

/-- Every frame takes its length prefix and more. -/
theorem length_of_cutFrame_whole (h : cutFrame limits inbound = .whole result rest) :
    rest.length < inbound.length := by
  unfold cutFrame at h
  split at h
  · cases h
  next =>
  split at h
  · cases h
  dsimp only at h
  split at h
  · cases h
  next =>
  cases h
  rw [length_drop]
  unfold LENGTH_PREFIX_SIZE at *
  omega

/-- An encoded frame of the first version is cut off whole. -/
theorem cutFrame_encode {bytes : List UInt8} (hversion : frame.version = FRAME_VERSION_V1)
    (hencode : encode frame limits = .ok bytes) (more : List UInt8) :
    cutFrame limits (bytes ++ more) = .whole (.ok frame) more := by
  obtain ⟨hframe, hbytes⟩ := encode_eq_ok_iff.1 hencode
  have hlt : frame.bodyLen < 256 ^ 4 := by
    have hmax := hframe.valid.max
    have hsize := hframe.size
    unfold U32_MAX at hmax
    omega
  have hfour : (beBytes 4 frame.bodyLen).length = LENGTH_PREFIX_SIZE := by
    simp [LENGTH_PREFIX_SIZE]
  have hlength : bytes.length = LENGTH_PREFIX_SIZE + frame.bodyLen := by
    rw [hbytes, length_append, hfour, length_encodeBody]
  have hprefix : parseLengthPrefix (bytes.take LENGTH_PREFIX_SIZE) limits = .ok frame.bodyLen := by
    rw [hbytes, ← hfour, take_left]
    refine parseLengthPrefix_eq_ok_iff.2 ⟨hframe.valid, (beNat_beBytes hlt).symm, ?_, hframe.size⟩
    unfold Frame.bodyLen
    omega
  have hself : cutFrame limits bytes = .whole (.ok frame) [] := by
    unfold cutFrame
    have hbody : decodeBody (bytes.drop LENGTH_PREFIX_SIZE) = .ok frame := by
      refine decodeBody_eq_ok_iff.2 ⟨hversion, hframe.code, hframe.service, hframe.method, ?_⟩
      rw [hbytes, ← hfour, drop_left]
    rw [if_neg (by omega), hprefix]
    dsimp only
    rw [← hlength, if_neg (lt_irrefl _), take_length, drop_length, hbody]
  simpa using cutFrame_append_of_whole hself more

section

variable {accepts : Frame → Bool} {fuel : Nat}

/-- The accepted frames at the front of a buffer, and the bytes after them that are not a whole
frame yet; `none` if what comes next is not a frame, or is one that is not accepted. -/
def splitFrames (limits : FrameLimits) (accepts : Frame → Bool) :
    Nat → List UInt8 → List Frame × Option (List UInt8)
  | 0, inbound => ([], some inbound)
  | fuel + 1, inbound =>
    match cutFrame limits inbound with
    | .short => ([], some inbound)
    | .badLength _ | .whole (.error _) _ => ([], none)
    | .whole (.ok frame) rest =>
      if accepts frame then
        let (frames, last) := splitFrames limits accepts fuel rest
        (frame :: frames, last)
      else ([], none)

/-- Every frame takes a byte at least. -/
def split (limits : FrameLimits) (accepts : Frame → Bool) (inbound : List UInt8) :
    List Frame × Option (List UInt8) :=
  splitFrames limits accepts (inbound.length + 1) inbound

theorem splitFrames_succ (h : inbound.length < fuel) :
    splitFrames limits accepts (fuel + 1) inbound = splitFrames limits accepts fuel inbound := by
  induction fuel generalizing inbound with
  | zero => omega
  | succ _ ih =>
  rw [splitFrames, splitFrames]
  cases hcut : cutFrame limits inbound with
  | short | badLength => rfl
  | whole result =>
  cases result with
  | error => rfl
  | ok =>
  have hrest := length_of_cutFrame_whole hcut
  dsimp only
  rw [ih (by omega)]

theorem splitFrames_eq_split (h : inbound.length < fuel) :
    splitFrames limits accepts fuel inbound = split limits accepts inbound := by
  obtain ⟨more, rfl⟩ := Nat.exists_eq_add_of_le (Nat.succ_le_of_lt h)
  induction more with
  | zero => rfl
  | succ _ ih =>
    rw [← add_assoc, splitFrames_succ (by omega)]
    exact ih (by omega)

theorem split_of_short (h : cutFrame limits inbound = .short) :
    split limits accepts inbound = ([], some inbound) := by
  rw [split, splitFrames, h]

theorem split_of_badLength (h : cutFrame limits inbound = .badLength error) :
    split limits accepts inbound = ([], none) := by
  rw [split, splitFrames, h]

theorem split_of_undecodable (h : cutFrame limits inbound = .whole (.error error) rest) :
    split limits accepts inbound = ([], none) := by
  rw [split, splitFrames, h]

section

variable (h : cutFrame limits inbound = .whole (.ok frame) rest)

include h

theorem split_of_refused
    (hrefused : accepts frame = false) : split limits accepts inbound = ([], none) := by
  rw [split, splitFrames, h]
  simp [hrefused]

theorem split_of_whole (haccepted : accepts frame = true) : split limits accepts inbound =
      (frame :: (split limits accepts rest).1, (split limits accepts rest).2) := by
  have hrest := length_of_cutFrame_whole h
  rw [split, splitFrames, h]
  dsimp only
  rw [if_pos haccepted, splitFrames_eq_split (by omega)]

end

/-- The four ways in which a buffer begins, for a proof by induction on its frames. -/
theorem split_induction {motive : List UInt8 → Prop} (limits : FrameLimits) (accepts : Frame → Bool)
    (short : ∀ inbound, cutFrame limits inbound = .short → motive inbound)
    (spoiled : ∀ inbound, (∀ more, split limits accepts (inbound ++ more) = ([], none)) →
      motive inbound)
    (whole : ∀ inbound frame rest, cutFrame limits inbound = .whole (.ok frame) rest →
      accepts frame = true → motive rest → motive inbound) (inbound : List UInt8) :
    motive inbound := by
  induction hlength : inbound.length using Nat.strong_induction_on generalizing inbound with
  | _ _ ih =>
  cases hcut : cutFrame limits inbound with
  | short => exact short inbound hcut
  | badLength =>
    exact spoiled inbound fun more =>
      split_of_badLength (cutFrame_append_of_badLength hcut more)
  | whole result rest =>
  have happend := cutFrame_append_of_whole hcut
  cases result with
  | error => exact spoiled inbound fun more => split_of_undecodable (happend more)
  | ok frame =>
  cases haccepts : accepts frame with
  | false => exact spoiled inbound fun more => split_of_refused (happend more) haccepts
  | true =>
    have hrest := length_of_cutFrame_whole hcut
    exact whole inbound frame rest hcut haccepts (ih rest.length (by omega) rest rfl)

/-- What a buffer splits into does not depend on where the bytes were cut when they came in. -/
theorem split_append (inbound more : List UInt8) :
    split limits accepts (inbound ++ more) = match split limits accepts inbound with
      | (frames, none) => (frames, none)
      | (frames, some rest) =>
        (frames ++ (split limits accepts (rest ++ more)).1,
          (split limits accepts (rest ++ more)).2) := by
  induction inbound using split_induction limits accepts with
  | short _ hshort =>
    rw [split_of_short hshort]
    rfl
  | spoiled _ hspoiled =>
    have hself := hspoiled []
    rw [append_nil] at hself
    rw [hspoiled more, hself]
  | whole _ _ rest hcut haccepted ih =>
  rw [split_of_whole (cutFrame_append_of_whole hcut more) haccepted,
    split_of_whole hcut haccepted, ih]
  rcases split limits accepts rest with ⟨frames, _ | _⟩ <;> rfl

/-- No whole frame is left over. -/
theorem cutFrame_of_split {frames : List Frame}
    (h : split limits accepts inbound = (frames, some rest)) : cutFrame limits rest = .short := by
  induction inbound using split_induction limits accepts generalizing frames with
  | short _ hshort =>
    rw [split_of_short hshort] at h
    cases h
    exact hshort
  | spoiled _ hspoiled =>
    have hself := hspoiled []
    rw [append_nil, h] at hself
    cases hself
  | whole _ _ _ hcut haccepted ih =>
  rw [split_of_whole hcut haccepted] at h
  obtain ⟨-, hlast⟩ := Prod.mk.inj h
  exact ih (Prod.ext rfl hlast)

end

end Tina.Rpc
