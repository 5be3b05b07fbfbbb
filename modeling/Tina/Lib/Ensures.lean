import Mathlib.Logic.Relation
import Mathlib.Tactic.Common

/-!
Partial correctness of programs that carry a state and may fail. `Ensures x s Q`
says what holds after every run of `x` from `s` that returns; a run that fails
leaves nothing to check. The rules below are the weakest liberal precondition of
each construct, so a whole program reduces to the specifications of the functions
it calls.
-/

namespace Tina.Lib

universe u v

variable {σ α β : Type u} {ε : Type v} {s t : σ} {a : α}

/-- Every run of `x` from `s` that returns ends in a value and a state
that satisfy `Q`. -/
def Ensures (x : StateT σ (Except ε) α) (s : σ) (Q : α → σ → Prop) : Prop :=
  ∀ a t, x s = .ok (a, t) → Q a t

/-- What is known of the value of an optional is known of every value it has. -/
theorem of_eq_some {o : Option α} {p : α → Prop} (ho : o = some a) (ha : p a) :
    ∀ b, o = some b → p b := by
  intro b hb
  rwa [← Option.some.inj (ho.symm.trans hb)]

/-- A program continues from where its first part returns. -/
theorem run_bind_of_ok {x : StateT σ (Except ε) α} {f : α → StateT σ (Except ε) β}
    (hx : x s = .ok (a, t)) : (x >>= f) s = f a t := by
  simp only [bind, StateT.bind, Except.bind, hx]

namespace Ensures

variable {x : StateT σ (Except ε) α} {f : α → StateT σ (Except ε) β} {s : σ}
  {Q Q' : α → σ → Prop} {P : β → σ → Prop}

theorem mono (hx : Ensures x s Q) (himp : ∀ a t, Q a t → Q' a t) : Ensures x s Q' :=
  fun a t hrun => himp a t (hx a t hrun)

@[simp] theorem pure_iff (a : α) : Ensures (Pure.pure a : StateT σ (Except ε) α) s Q ↔ Q a s := by
  constructor
  · intro h
    exact h a s rfl
  intro h b t hrun
  cases hrun
  exact h

theorem pure (h : Q a s) : Ensures (Pure.pure a : StateT σ (Except ε) α) s Q :=
  (pure_iff a).2 h

@[simp] theorem throw_iff (e : ε) : Ensures (throw e : StateT σ (Except ε) α) s Q ↔ True := by
  refine iff_true_intro ?_
  intro a t hrun
  cases hrun

@[simp] theorem bind_iff : Ensures (x >>= f) s P ↔ Ensures x s fun a t => Ensures (f a) t P := by
  constructor
  · intro h a t hx b u hf
    refine h b u ?_
    simp only [bind, StateT.bind, Except.bind, hx]
    exact hf
  intro h b u hrun
  cases hx : x s with
  | error => simp [bind, StateT.bind, Except.bind, hx] at hrun
  | ok r =>
  obtain ⟨a, t⟩ := r
  refine h a t hx b u ?_
  simpa only [bind, StateT.bind, Except.bind, hx] using hrun

@[simp] theorem map_iff (g : α → β) : Ensures (g <$> x) s P ↔ Ensures x s fun a t => P (g a) t := by
  rw [map_eq_pure_bind, bind_iff]
  simp only [pure_iff]

@[simp] theorem get_iff {Q : σ → σ → Prop} :
    Ensures (get : StateT σ (Except ε) σ) s Q ↔ Q s s :=
  ⟨fun h => h s s rfl, fun h a t hrun => by cases hrun; exact h⟩

theorem get_bind {f : σ → StateT σ (Except ε) β} : Ensures (get >>= f) s P ↔ Ensures (f s) s P := by
  rw [bind_iff, get_iff]

@[simp] theorem set_iff (s' : σ) {Q : PUnit → σ → Prop} :
    Ensures (set s' : StateT σ (Except ε) PUnit) s Q ↔ Q ⟨⟩ s' :=
  ⟨fun h => h _ _ rfl, fun h a t hrun => by cases hrun; exact h⟩

@[simp] theorem modify_iff (g : σ → σ) {Q : PUnit → σ → Prop} :
    Ensures (modify g : StateT σ (Except ε) PUnit) s Q ↔ Q ⟨⟩ (g s) :=
  ⟨fun h => h _ _ rfl, fun h a t hrun => by cases hrun; exact h⟩

@[simp] theorem ite_iff (c : Prop) [Decidable c] (y : StateT σ (Except ε) α) :
    Ensures (if c then x else y) s Q ↔ (c → Ensures x s Q) ∧ (¬c → Ensures y s Q) := by
  by_cases hc : c <;> simp [hc]

theorem ite {c : Prop} [Decidable c] {y : StateT σ (Except ε) α} (hx : c → Ensures x s Q)
    (hy : ¬c → Ensures y s Q) : Ensures (if c then x else y) s Q :=
  (ite_iff c y).2 ⟨hx, hy⟩

/-- Run a specified program first, then continue from what it promises. -/
theorem bind {R : α → σ → Prop} (hx : Ensures x s R)
    (hf : ∀ a t, R a t → Ensures (f a) t P) : Ensures (x >>= f) s P :=
  bind_iff.2 (hx.mono hf)

/-- The loop rule: an invariant that every iteration keeps survives the loop. -/
theorem forM {γ : Type v} (body : γ → StateT σ (Except ε) PUnit) (I : σ → Prop) (xs : List γ)
    (hbody : ∀ c ∈ xs, ∀ t, I t → Ensures (body c) t fun _ u => I u) (hs : I s) :
    Ensures (xs.forM body) s fun _ t => I t := by
  induction xs generalizing s with
  | nil => exact (pure_iff _).2 hs
  | cons c _ ih =>
  refine bind (hbody c (by simp) s hs) ?_
  intro _ t ht
  exact ih (fun d hd => hbody d (List.mem_cons_of_mem c hd)) ht

end Ensures

/-- Reachability along `step` is compatible with every invariant of `step`. -/
theorem invariant_of_steps {step : σ → σ → Prop} {I : σ → Prop}
    (hstep : ∀ s t, step s t → I s → I t)
    (hsteps : Relation.ReflTransGen step s t) (hs : I s) : I t := by
  induction hsteps with
  | refl => exact hs
  | tail _ hlast ih => exact hstep _ _ hlast ih

end Tina.Lib
