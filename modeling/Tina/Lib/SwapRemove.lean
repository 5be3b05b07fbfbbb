import Mathlib.Data.List.Perm.Basic
import Mathlib.Tactic.Ring

/-!
Removal by swapping with the last element, and the loop that removes every element a
test accepts. The loop permutes what it keeps; these lemmas say that it permutes nothing
else.
-/

namespace Tina.Lib

open List

universe u

variable {α : Type u} {xs : List α} {i : Nat} {x : α} {p : α → Bool}

/-- Remove position `i` by moving the last element into it. -/
def swapRemove (xs : List α) (i : Nat) : List α :=
  match xs.getLast? with
  | none => xs
  | some last => if i + 1 = xs.length then xs.dropLast else xs.dropLast.set i last

/-- Scan from position `i`, taking out what `p` accepts. A removal moves the tail into
the scanned position, which is then looked at again. -/
def swapRemoveAll (p : α → Bool) : Nat → Nat → List α → List α × List α
  | 0, _, xs => ([], xs)
  | fuel + 1, i, xs =>
    match xs[i]? with
    | none => ([], xs)
    | some x =>
      if p x then
        let (taken, rest) := swapRemoveAll p fuel i (swapRemove xs i)
        (x :: taken, rest)
      else swapRemoveAll p fuel (i + 1) xs

/-- The whole scan: what was taken out, and what stays. -/
def takeWhere (p : α → Bool) (xs : List α) : List α × List α :=
  swapRemoveAll p xs.length 0 xs

theorem length_swapRemove (hi : i < xs.length) : (swapRemove xs i).length = xs.length - 1 := by
  unfold swapRemove
  cases hlast : xs.getLast? with
  | none =>
    rw [getLast?_eq_none_iff] at hlast
    simp [hlast] at hi
  | some => by_cases hend : i + 1 = xs.length <;> simp [hend]

theorem mem_of_mem_swapRemove (hx : x ∈ swapRemove xs i) : x ∈ xs := by
  unfold swapRemove at hx
  cases hlast : xs.getLast? with
  | none => simpa [hlast] using hx
  | some last =>
  have hmem : last ∈ xs := mem_of_getLast? hlast
  simp only [hlast] at hx
  split at hx
  · exact dropLast_subset xs hx
  rcases mem_or_eq_of_mem_set hx with hx | rfl
  · exact dropLast_subset xs hx
  · exact hmem

/-- Positions before the removed one are untouched, and the rest is permuted. -/
theorem swapRemove_split (hi : i < xs.length) :
    (swapRemove xs i).take i = xs.take i ∧ ((swapRemove xs i).drop i).Perm (xs.drop (i + 1)) := by
  unfold swapRemove
  cases hlast : xs.getLast? with
  | none =>
    rw [getLast?_eq_none_iff] at hlast
    simp [hlast] at hi
  | some last =>
  have hxs : xs = xs.dropLast ++ [last] := by
    rw [getLast?_eq_some_iff] at hlast
    obtain ⟨_, rfl⟩ := hlast
    simp
  have hlen : xs.dropLast.length = xs.length - 1 := length_dropLast
  by_cases hend : i + 1 = xs.length
  · have hdrop : xs.drop (i + 1) = [] := drop_eq_nil_of_le (by omega)
    have hnil : xs.dropLast.drop i = [] := drop_eq_nil_of_le (by omega)
    simp only [hend, if_true]
    refine ⟨?_, ?_⟩
    · conv_rhs => rw [hxs]
      rw [take_append_of_le_length (by omega)]
    · rw [← hend, hdrop, hnil]
  simp only [hend, if_false]
  have hlt : i < xs.dropLast.length := by omega
  refine ⟨?_, ?_⟩
  · conv_rhs => rw [hxs]
    rw [take_append_of_le_length (by omega), take_set_of_le (Nat.le_refl i)]
  conv_rhs => rw [hxs]
  rw [drop_append_of_le_length (by omega), drop_set]
  rw [if_neg (Nat.lt_irrefl i), Nat.sub_self, drop_eq_getElem_cons hlt, set_cons_zero]
  exact (perm_append_singleton last _).symm

theorem perm_cons_swapRemove (h : xs[i]? = some x) : xs.Perm (x :: swapRemove xs i) := by
  obtain ⟨hi, hx⟩ := List.getElem?_eq_some_iff.1 h
  obtain ⟨htake, hdrop⟩ := swapRemove_split hi
  calc xs = xs.take i ++ x :: xs.drop (i + 1) := by
        rw [← hx, ← drop_eq_getElem_cons hi, take_append_drop]
    _ |>.Perm (x :: (xs.take i ++ xs.drop (i + 1))) := perm_middle
    _ |>.Perm (x :: ((swapRemove xs i).take i ++ (swapRemove xs i).drop i)) := by
        rw [htake]
        exact (hdrop.symm.append_left _).cons _
    _ = x :: swapRemove xs i := by rw [take_append_drop]

theorem sum_map_swapRemove (f : α → Nat) (h : xs[i]? = some x) :
    (xs.map f).sum = f x + ((swapRemove xs i).map f).sum := by
  rw [((perm_cons_swapRemove h).map f).sum_nat, map_cons, sum_cons]

/-- The scan takes out exactly what `p` accepts from position `i` on. -/
theorem swapRemoveAll_perm (p : α → Bool) (fuel i : Nat) (xs : List α)
    (hfuel : xs.length ≤ i + fuel) :
    (swapRemoveAll p fuel i xs).1.Perm ((xs.drop i).filter p) ∧ (swapRemoveAll p fuel i xs).2.Perm
        (xs.take i ++ (xs.drop i).filter (!p ·)) := by
  induction fuel generalizing i xs with
  | zero =>
    have hle : xs.length ≤ i := by omega
    simp [swapRemoveAll, drop_eq_nil_of_le hle, take_of_length_le hle]
  | succ _ ih =>
  unfold swapRemoveAll
  cases hget : xs[i]? with
  | none =>
    have hle : xs.length ≤ i := getElem?_eq_none_iff.1 hget
    simp [drop_eq_nil_of_le hle, take_of_length_le hle]
  | some x =>
  obtain ⟨hi, hx⟩ := List.getElem?_eq_some_iff.1 hget
  have hdrop : xs.drop i = x :: xs.drop (i + 1) := by
    rw [drop_eq_getElem_cons hi, hx]
  cases hp : p x with
  | true =>
    obtain ⟨htake, hperm⟩ := swapRemove_split hi
    have hlen := length_swapRemove hi
    obtain ⟨htaken, hrest⟩ := ih i (swapRemove xs i) (by omega)
    simp only [hp, if_true]
    refine ⟨?_, ?_⟩
    · rw [hdrop, filter_cons_of_pos hp]
      exact (htaken.trans (hperm.filter p)).cons x
    rw [hdrop, filter_cons_of_neg (by simp [hp])]
    refine hrest.trans ?_
    rw [htake]
    exact (hperm.filter _).append_left _
  | false =>
  obtain ⟨htaken, hrest⟩ := ih (i + 1) xs (by omega)
  simp only [hp, Bool.false_eq_true, if_false]
  refine ⟨?_, ?_⟩
  · rw [hdrop, filter_cons_of_neg (by simp [hp])]
    exact htaken
  rw [hdrop, filter_cons_of_pos (by simp [hp])]
  refine hrest.trans ?_
  rw [take_add_one, hget]
  simp

theorem takeWhere_taken (p : α → Bool) (xs : List α) : (takeWhere p xs).1.Perm (xs.filter p) := by
  simpa [takeWhere] using (swapRemoveAll_perm p xs.length 0 xs (by omega)).1

theorem takeWhere_rest (p : α → Bool) (xs : List α) :
    (takeWhere p xs).2.Perm (xs.filter (!p ·)) := by
  simpa [takeWhere] using (swapRemoveAll_perm p xs.length 0 xs (by omega)).2

/-- A scan that takes nothing moves nothing. -/
theorem swapRemoveAll_of_taken_nil {fuel : Nat} (htaken : (swapRemoveAll p fuel i xs).1 = []) :
    (swapRemoveAll p fuel i xs).2 = xs := by
  induction fuel generalizing i xs with
  | zero => rfl
  | succ _ ih =>
  unfold swapRemoveAll at htaken ⊢
  cases hget : xs[i]? with
  | none => rfl
  | some x =>
  cases hp : p x with
  | true => simp [hget, hp] at htaken
  | false =>
    simp only [hget, hp, Bool.false_eq_true, if_false] at htaken ⊢
    exact ih htaken

/-- A scan leaves alone what stands before everything it takes out. -/
theorem swapRemoveAll_take {fuel count : Nat} (hkept : ∀ x ∈ xs.take count, p x = false) :
    (swapRemoveAll p fuel i xs).2.take count = xs.take count := by
  induction fuel generalizing i xs with
  | zero => rfl
  | succ _ ih =>
  unfold swapRemoveAll
  cases hget : xs[i]? with
  | none => rfl
  | some x =>
  obtain ⟨hi, hx⟩ := List.getElem?_eq_some_iff.1 hget
  cases hp : p x with
  | true =>
    have hle : count ≤ i := by
      by_contra hlt
      have hmem : x ∈ xs.take count := mem_take_iff_getElem.2 ⟨i, by omega, hx⟩
      simp [hkept x hmem] at hp
    have htake : (swapRemove xs i).take count = xs.take count := by
      simpa [take_take, hle] using congrArg (take count) (swapRemove_split hi).1
    simp only [hp, if_true]
    rw [ih (htake ▸ hkept), htake]
  | false => simpa [hp] using ih hkept

/-- What stays keeps its order if nothing that is taken out stands before it. -/
theorem takeWhere_of_isPrefix (hbehind : (xs.filter (!p ·)) <+: xs) :
    (takeWhere p xs).2 = xs.filter fun x => !p x := by
  have htake := prefix_iff_eq_take.1 hbehind
  have hkept : ∀ x ∈ xs.take (xs.filter (!p ·)).length, p x = false := by
    rw [← htake]
    simp
  calc (takeWhere p xs).2 = (takeWhere p xs).2.take (xs.filter (!p ·)).length := by
        rw [← (takeWhere_rest p xs).length_eq, take_length]
    _ = xs.take (xs.filter (!p ·)).length := swapRemoveAll_take hkept
    _ = xs.filter fun x => !p x := htake.symm

theorem mem_takeWhere_taken : x ∈ (takeWhere p xs).1 ↔ x ∈ xs ∧ p x = true := by
  rw [(takeWhere_taken p xs).mem_iff, mem_filter]

theorem mem_takeWhere_rest : x ∈ (takeWhere p xs).2 ↔ x ∈ xs ∧ p x = false := by
  rw [(takeWhere_rest p xs).mem_iff, mem_filter]
  simp

end Tina.Lib
