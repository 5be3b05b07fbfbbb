import Mathlib.Tactic.Ring

/-!
Replacing one element of a list. A position that holds an element splits the list around
it, and an update is the same split with another element in the middle; what a property
of the whole list becomes is then a matter of the one element.
-/

namespace Tina.Lib

open List Function

variable {α β : Type*} {l : List α} {i : Nat} {a b : α} {f : α → Option β} {p : α → Bool}
  {R : α → α → Prop} {a : α}

theorem lt_of_getElem? (h : l[i]? = some a) : i < l.length :=
  (List.getElem?_eq_some_iff.1 h).1

theorem split_of_getElem? (h : l[i]? = some a) :
    ∃ before after, l = before ++ a :: after ∧ before.length = i ∧
      ∀ b, l.set i b = before ++ b :: after := by
  obtain ⟨hi, rfl⟩ := List.getElem?_eq_some_iff.1 h
  refine ⟨l.take i, l.drop (i + 1), by simp, List.length_take_of_le (Nat.le_of_lt hi), fun b => ?_⟩
  rw [List.set_eq_take_append_cons_drop, if_pos hi]

theorem map_set_of_eq (f : α → β) (h : l[i]? = some a) (hf : f b = f a) :
    (l.set i b).map f = l.map f := by
  obtain ⟨_, _, hl, -, hset⟩ := split_of_getElem? h
  rw [hset, hl, map_append, map_append, map_cons, map_cons, hf]

/-- An update moves a sum by what the one element changes. -/
theorem sum_map_set (f : α → Nat) (h : l[i]? = some a) (b : α) :
    ((l.set i b).map f).sum + f a = (l.map f).sum + f b := by
  obtain ⟨_, _, hl, -, hset⟩ := split_of_getElem? h
  rw [hset, hl]
  simp only [map_append, map_cons, sum_append, sum_cons]
  omega

theorem forall_mem_set {p : α → Prop} (hl : ∀ x ∈ l, p x) (hb : p b) : ∀ x ∈ l.set i b, p x := by
  intro x hx
  rcases mem_or_eq_of_mem_set hx with hmem | rfl
  · exact hl x hmem
  · exact hb

theorem forall_mem_concat {p : α → Prop} (hl : ∀ x ∈ l, p x) (ha : p a) : ∀ x ∈ l ++ [a], p x :=
  forall_mem_append.2 ⟨hl, forall_mem_singleton.2 ha⟩

theorem pairwise_concat (hl : l.Pairwise R) (ha : ∀ x ∈ l, R x a) : (l ++ [a]).Pairwise R :=
  pairwise_append.2 ⟨hl, pairwise_singleton _ _, by simpa using ha⟩

/-- An updated element stands for the one it replaced. -/
theorem exists_mem_set {p : α → Prop} (h : l[i]? = some a) (hex : ∃ x ∈ l, p x) (hb : p a → p b) :
    ∃ x ∈ l.set i b, p x := by
  obtain ⟨_, _, hl, -, hset⟩ := split_of_getElem? h
  obtain ⟨x, hx, hpx⟩ := hex
  rw [hset]
  rw [hl, mem_append, mem_cons] at hx
  rcases hx with hx | rfl | hx
  · exact ⟨x, by simp [hx], hpx⟩
  · exact ⟨b, by simp, hb hpx⟩
  · exact ⟨x, by simp [hx], hpx⟩

theorem countP_set_eq (p : α → Bool) (h : l[i]? = some a) :
    (l.set i b).countP p + (if p a then 1 else 0) = l.countP p + (if p b then 1 else 0) := by
  obtain ⟨_, _, hl, -, hset⟩ := split_of_getElem? h
  rw [hset, hl]
  simp only [countP_append, countP_cons]
  omega

theorem pairwise_set (h : l[i]? = some a) (hl : l.Pairwise R)
    (hafter : ∀ x ∈ l, R a x → R b x) (hbefore : ∀ x ∈ l, R x a → R x b) :
    (l.set i b).Pairwise R := by
  obtain ⟨before, after, hsplit, -, hset⟩ := split_of_getElem? h
  rw [hset]
  have hmem : ∀ x, x ∈ before ∨ x ∈ after → x ∈ l := by
    rintro x (hx | hx) <;> simp [hsplit, hx]
  rw [hsplit, pairwise_append, pairwise_cons] at hl
  obtain ⟨hfront, ⟨hhead, hback⟩, hcross⟩ := hl
  refine pairwise_append.2 ⟨hfront, pairwise_cons.2 ⟨?_, hback⟩, ?_⟩
  · intro x hx
    exact hafter x (hmem x (.inr hx)) (hhead x hx)
  intro x hx y hy
  rcases mem_cons.1 hy with rfl | hy
  · exact hbefore x (hmem x (.inl hx)) (hcross x hx a (by simp))
  · exact hcross x hx y (by simp [hy])

theorem eraseIdx_of_getElem? (h : l[i]? = some a) :
    ∃ before after, l = before ++ a :: after ∧ l.eraseIdx i = before ++ after := by
  obtain ⟨before, after, rfl, rfl, -⟩ := split_of_getElem? h
  refine ⟨before, after, rfl, ?_⟩
  rw [eraseIdx_append_of_length_le (Nat.le_refl _), Nat.sub_self, eraseIdx_cons_zero]

theorem filterMap_cons_toList (f : α → Option β) (a : α) (l : List α) :
    (a :: l).filterMap f = (f a).toList ++ l.filterMap f := by
  rw [filterMap_cons]
  cases f a <;> rfl

theorem filterMap_concat (f : α → Option β) (l : List α) (a : α) :
    (l ++ [a]).filterMap f = l.filterMap f ++ (f a).toList := by
  rw [filterMap_append, filterMap_cons_toList, filterMap_nil, append_nil]

/-- Erasing what a map drops does not show. -/
theorem filterMap_eraseP_of_none (h : ∀ a, p a = true → f a = none) (l : List α) :
    (l.eraseP p).filterMap f = l.filterMap f := by
  induction l with
  | nil => rfl
  | cons a _ ih =>
  by_cases hp : p a = true
  · rw [eraseP_cons_of_pos hp, filterMap_cons_toList, h a hp]
    rfl
  · rw [eraseP_cons_of_neg hp, filterMap_cons_toList, filterMap_cons_toList, ih]

/-- Erasing the first that a map keeps takes the first image. -/
theorem filterMap_eraseP_of_isSome (h : ∀ a, p a = (f a).isSome) (l : List α) :
    (l.eraseP p).filterMap f = (l.filterMap f).tail := by
  induction l with
  | nil => rfl
  | cons a _ ih =>
  cases hf : f a with
  | none => rw [eraseP_cons_of_neg (by simp [h, hf]), filterMap_cons_toList,
      filterMap_cons_toList, ih, hf]; rfl
  | some => rw [eraseP_cons_of_pos (by simp [h, hf]), filterMap_cons_toList, hf]; rfl

theorem eraseIdx_length_concat {α : Type} (l : List α) (a : α) :
    (l ++ [a]).eraseIdx l.length = l := by
  simp [eraseIdx_append_of_length_le]

section

variable {f : β → α → β} (hstate : ∀ a, Function.Injective (f · a))

include hstate

/-- A fold whose step loses nothing of the state loses nothing of the start. -/
theorem foldl_injective (l : List α) : Injective fun b => l.foldl f b := by
  induction l with
  | nil => exact injective_id
  | cons a _ ih => exact ih.comp (hstate a)

/-- If its step loses nothing of the symbol either, such a fold tells a changed symbol. -/
theorem foldl_set_ne (hsymbol : ∀ b, Injective (f b)) (hset : l.set i a ≠ l) (b : β) :
    (l.set i a).foldl f b ≠ l.foldl f b := by
  induction l generalizing i b with
  | nil => exact absurd rfl hset
  | cons first rest ih =>
  cases i with
  | zero =>
    intro hsame
    exact hset (congrArg (· :: rest) (hsymbol b (foldl_injective hstate rest hsame)))
  | succ => exact ih (fun hsame => hset (congrArg (first :: ·) hsame)) _

end

end Tina.Lib
