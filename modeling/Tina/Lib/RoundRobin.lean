import Mathlib.Tactic.Common

/-!
Round robin over `n` places: a scan from a cursor takes the first open place, and the cursor moves
past it. As long as places are only closed by being taken, no place is taken a second time before
every open one has been taken once.
-/

namespace Tina.Lib

open List Nat

/-- The first open place at or after the cursor, around the end. -/
def scan (n cursor : Nat) (isOpen : Nat → Bool) : Option Nat :=
  ((List.range n).map fun step => (cursor + step) % n).find? isOpen

/-- How far a place is ahead of the cursor. -/
def ahead (n cursor place : Nat) : Nat :=
  if cursor ≤ place then place - cursor else place + n - cursor

section

variable {n cursor place : Nat} {isOpen : Nat → Bool}

section

variable (hcursor : cursor < n) {other : Nat} {step : Nat}

include hcursor

theorem add_mod_of_lt (hstep : step < n) :
    (cursor + step) % n = if cursor + step < n then cursor + step else cursor + step - n := by
  split
  · next hlt => exact mod_eq_of_lt hlt
  · next => rw [mod_eq_sub_mod (by omega), mod_eq_of_lt (by omega)]

theorem ahead_lt (hplace : place < n) : ahead n cursor place < n := by
  unfold ahead
  split <;> omega

/-- The scan reaches a place after as many steps as it is ahead. -/
theorem add_ahead_mod (hplace : place < n) : (cursor + ahead n cursor place) % n = place := by
  rw [add_mod_of_lt hcursor (ahead_lt hcursor hplace)]
  unfold ahead
  split <;> split <;> omega

theorem ahead_mod (hstep : step < n) : ahead n cursor ((cursor + step) % n) = step := by
  rw [add_mod_of_lt hcursor hstep]
  unfold ahead
  split <;> split <;> omega

theorem scan_eq_none_iff : scan n cursor isOpen = none ↔ ∀ place < n, isOpen place = false := by
  unfold scan
  rw [find?_eq_none]
  constructor
  · intro h place hplace
    have hmem : place ∈ (range n).map fun step => (cursor + step) % n :=
      mem_map.2 ⟨ahead n cursor place, mem_range.2 (ahead_lt hcursor hplace),
        add_ahead_mod hcursor hplace⟩
    exact Bool.eq_false_iff.2 (h place hmem)
  · intro h place hmem
    obtain ⟨step, -, rfl⟩ := mem_map.1 hmem
    rw [h _ (mod_lt _ (by omega))]
    decide

/-- What the scan takes is open, and nothing nearer is. -/
theorem scan_eq_some (h : scan n cursor isOpen = some place) : place < n ∧ isOpen place = true ∧
      ∀ other < n, ahead n cursor other < ahead n cursor place → isOpen other = false := by
  obtain ⟨hopen, _, hstep, rfl, hbefore⟩ := find?_eq_some_iff_getElem.1 h
  simp only [length_map, length_range, getElem_map, getElem_range,
    Bool.not_eq_eq_eq_not, Bool.not_true] at hstep hopen hbefore ⊢
  refine ⟨mod_lt _ (by omega), hopen, fun other hother hnearer => ?_⟩
  rw [ahead_mod hcursor hstep] at hnearer
  rw [← hbefore _ hnearer, add_ahead_mod hcursor hother]

theorem ahead_inj (hplace : place < n) (hother : other < n)
    (heq : ahead n cursor place = ahead n cursor other) : place = other := by
  rw [← add_ahead_mod hcursor hplace, heq, add_ahead_mod hcursor hother]

/-- Past the place that was taken, all others are as far ahead as before, less what was passed. -/
theorem ahead_succ (hplace : place < n) (hother : other < n)
    (hfarther : ahead n cursor place < ahead n cursor other) :
    ahead n ((place + 1) % n) other = ahead n cursor other - ahead n cursor place - 1 := by
  have hmany : 1 < n := by
    have hlt := ahead_lt hcursor hother
    omega
  rw [add_mod_of_lt hplace hmany]
  unfold ahead at hfarther ⊢
  split at hfarther <;> split at hfarther <;> split <;> split <;> omega

end

/-- The place that was taken is last in line. -/
theorem ahead_succ_self (hplace : place < n) : ahead n ((place + 1) % n) place = n - 1 := by
  have hnext : (place + 1) % n = if place + 1 < n then place + 1 else 0 := by
    split
    · next hlt => exact mod_eq_of_lt hlt
    next =>
    have : place + 1 = n := by omega
    rw [this, mod_self]
  rw [hnext]
  unfold ahead
  split <;> split <;> omega

end

/-- Where the cursor is, and which places are open. -/
structure Ring where
  cursor : Nat
  isOpen : Nat → Bool

/-- A scan takes a place; the others stay as they are. -/
structure Ring.Take (n : Nat) (ring : Ring) (place : Nat) (ring' : Ring) : Prop where
  taken : scan n ring.cursor ring.isOpen = some place
  cursor : ring'.cursor = (place + 1) % n
  others : ∀ other, other ≠ place → ring'.isOpen other = ring.isOpen other

/-- One place is taken after the other. -/
inductive Ring.Takes (n : Nat) : Ring → List Nat → Ring → Prop
  | done (ring : Ring) : Ring.Takes n ring [] ring
  | take {ring ring' ring'' place places}
      (first : ring.Take n place ring') (rest : Ring.Takes n ring' places ring'') :
      Ring.Takes n ring (place :: places) ring''

namespace Ring

variable {n place : Nat} {ring ring' ring'' : Ring} {places : List Nat} {other : Nat}

theorem Take.cursor_lt (h : ring.Take n place ring') (hcursor : ring.cursor < n) :
    ring'.cursor < n := by
  rw [h.cursor]
  exact mod_lt _ (by omega)

theorem Takes.concat (h : ring.Takes n places ring') (htake : ring'.Take n place ring'') :
    ring.Takes n (places ++ [place]) ring'' := by
  induction h with
  | done => exact .take htake (.done ring'')
  | take first _ ih => exact .take first (ih htake)

theorem Takes.of_singleton (h : ring.Takes n [place] ring') : ring.Take n place ring' := by
  cases h with
  | take first rest =>
    cases rest
    exact first

theorem Takes.lt_of_mem (h : ring.Takes n places ring') (hcursor : ring.cursor < n)
    (hmem : place ∈ places) : place < n := by
  induction h with
  | done => cases hmem
  | take first _ ih =>
  rcases mem_cons.1 hmem with rfl | hmem
  · exact (scan_eq_some hcursor first.taken).1
  · exact ih (first.cursor_lt hcursor) hmem

section

variable (h : ring.Takes n (places ++ [place]) ring') (hcursor : ring.cursor < n)

include h hcursor

/-- What is open and nearer than a place is taken before it. -/
theorem Takes.mem_of_nearer
    (hfirst : place ∉ places) (hother : other < n) (hopen : ring.isOpen other = true)
    (hnearer : ahead n ring.cursor other < ahead n ring.cursor place) : other ∈ places := by
  induction places generalizing ring with
  | nil =>
    have hclosed := (scan_eq_some hcursor h.of_singleton.taken).2.2 other hother hnearer
    rw [hopen] at hclosed
    cases hclosed
  | cons first _ ih =>
  cases h with
  | @take _ ring₁ _ _ _ htake hrest =>
  obtain ⟨hlt, -, hskipped⟩ := scan_eq_some hcursor htake.taken
  rw [mem_cons, not_or] at hfirst
  by_cases hsame : other = first
  · rw [hsame]
    exact mem_cons_self
  have hpassed : ahead n ring.cursor first < ahead n ring.cursor other := by
    by_contra hnot
    rcases Nat.lt_or_eq_of_le (Nat.le_of_not_lt hnot) with hless | heq
    · rw [hskipped other hother hless] at hopen
      cases hopen
    · exact hsame (ahead_inj hcursor hother hlt heq)
  have hplace : place < n :=
    Takes.lt_of_mem hrest (htake.cursor_lt hcursor) (mem_append_right _ mem_cons_self)
  refine mem_cons_of_mem _ (ih hrest (htake.cursor_lt hcursor) hfirst.2 ?_ ?_)
  · rw [htake.others other hsame]
    exact hopen
  rw [htake.cursor, ahead_succ hcursor hlt hother hpassed, ahead_succ hcursor hlt hplace (by omega)]
  omega

/-- No place is taken twice before every open one has been taken. -/
theorem Takes.fair
    (htwice : place ∈ places) (hother : other < n) (hopen : ring.isOpen other = true) :
    other ∈ places := by
  induction places generalizing ring with
  | nil => cases htwice
  | cons first places ih =>
  cases h with
  | @take _ ring₁ _ _ _ htake hrest =>
  have hcursor₁ := htake.cursor_lt hcursor
  by_cases hsame : other = first
  · rw [hsame]
    exact mem_cons_self
  have hopen₁ : ring₁.isOpen other = true := (htake.others other hsame).trans hopen
  by_cases hmem : place ∈ places
  · exact mem_cons_of_mem _ (ih hrest hcursor₁ hmem hopen₁)
  -- It was taken first: now it is last in line, behind every open place.
  obtain rfl : place = first := (mem_cons.1 htwice).resolve_right hmem
  have hplace := (scan_eq_some hcursor htake.taken).1
  have hlast : ahead n ring₁.cursor place = n - 1 := by
    rw [htake.cursor, ahead_succ_self hplace]
  have hne := mt (ahead_inj hcursor₁ hother hplace) hsame
  have hlt := ahead_lt hcursor₁ hother
  exact mem_cons_of_mem _ (hrest.mem_of_nearer hcursor₁ hmem hother hopen₁ (by omega))

end

end Ring

end Tina.Lib
