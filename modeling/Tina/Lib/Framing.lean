import Mathlib.Tactic.Common

/-!
A sequence of frames, cut anywhere. What a cut leaves of the concatenated frames is the
frames that end before the cut and, if the cut is inside a frame, a beginning of that frame.
-/

namespace Tina.Lib

open List

variable {α β : Type*} (encode : α → List β)

/-- The frames that end within the first `cut` symbols. -/
def framesWithin : Nat → List α → List α
  | _, [] => []
  | cut, frame :: rest =>
    if (encode frame).length ≤ cut then
      frame :: framesWithin (cut - (encode frame).length) rest
    else []

theorem framesWithin_isPrefix (cut : Nat) (frames : List α) :
    framesWithin encode cut frames <+: frames := by
  induction frames generalizing cut with
  | nil => exact prefix_refl _
  | cons frame _ ih =>
  unfold framesWithin
  split
  · exact (prefix_cons_inj frame).2 (ih _)
  · exact nil_prefix

/-- What is left of the frames after a cut. -/
theorem take_flatMap_frames (cut : Nat) (frames : List α) :
    ∃ torn, (frames.flatMap encode).take cut =
        (framesWithin encode cut frames).flatMap encode ++ torn ∧
      (torn = [] ∨ ∃ frame ∈ frames, ∃ rest, encode frame = torn ++ rest ∧ rest ≠ []) := by
  induction frames generalizing cut with
  | nil => exact ⟨[], by simp [framesWithin], .inl rfl⟩
  | cons frame _ ih =>
  unfold framesWithin
  split
  · rename_i hfits
    obtain ⟨torn, htake, htorn⟩ := ih (cut - (encode frame).length)
    refine ⟨torn, ?_, htorn.imp id ?_⟩
    · rw [flatMap_cons, take_append, take_of_length_le hfits, htake]
      simp
    · rintro ⟨other, hmem, hother⟩
      exact ⟨other, mem_cons_of_mem _ hmem, hother⟩
  · rename_i hcut
    refine ⟨(encode frame).take cut, ?_, .inr ⟨frame, by simp, (encode frame).drop cut, ?_, ?_⟩⟩
    · rw [flatMap_cons, take_append_of_le_length (by omega)]
      simp
    · rw [take_append_drop]
    · exact fun hnil => hcut (drop_eq_nil_iff.1 hnil)

/-- Cutting where a frame ends leaves whole frames, and only that does. -/
theorem take_eq_flatMap_iff (hencode : ∀ frame, encode frame ≠ []) (cut : Nat) (frames : List α)
    (hcut : cut ≤ (frames.flatMap encode).length) :
    (frames.flatMap encode).take cut = (framesWithin encode cut frames).flatMap encode ↔
      ∃ n, cut = ((frames.take n).flatMap encode).length := by
  constructor
  · intro heq
    refine ⟨(framesWithin encode cut frames).length, ?_⟩
    rw [← prefix_iff_eq_take.1 (framesWithin_isPrefix encode cut frames), ← heq, length_take,
      Nat.min_eq_left hcut]
  rintro ⟨n, rfl⟩
  clear hcut
  induction frames generalizing n with
  | nil => simp [framesWithin]
  | cons frame _ ih =>
  cases n with
  | zero => simp [framesWithin, hencode frame]
  | succ n =>
  rw [take_succ_cons, flatMap_cons, flatMap_cons, length_append]
  unfold framesWithin
  rw [if_pos (by omega), Nat.add_sub_cancel_left, flatMap_cons, ← ih n, take_length_add_append]

end Tina.Lib
