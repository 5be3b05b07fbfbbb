import Mathlib.Tactic.Common

/-!
Runs of a system that takes one operation after the other, under an assumption on each
operation in the state it is taken in.
-/

namespace Tina.Lib

variable {σ ω : Type*} {step : σ → ω → Option σ} {p : σ → ω → Prop} {init s t : σ}

/-- The states that operations which all satisfy `p` lead to. -/
inductive Run (step : σ → ω → Option σ) (p : σ → ω → Prop) (init : σ) : σ → Prop where
  | start : Run step p init init
  | step {s t : σ} (operation : ω) (hs : Run step p init s) (hp : p s operation)
      (hstep : step s operation = some t) : Run step p init t

/-- What holds at the start and is kept by every operation holds in every state. -/
theorem Run.invariant {I : σ → Prop} (hstart : I init)
    (hkeep : ∀ s operation t, I s → p s operation → step s operation = some t → I t)
    (hs : Run step p init s) : I s := by
  induction hs with
  | start => exact hstart
  | step operation _ hp hstep ih => exact hkeep _ operation _ ih hp hstep

/-- Take the operations as long as they satisfy `p`. -/
def runAll (step : σ → ω → Option σ) (p : σ → ω → Prop) [∀ s operation, Decidable (p s operation)] :
    List ω → σ → Option σ
  | [], s => some s
  | operation :: rest, s =>
    if p s operation then (step s operation).bind (runAll step p rest) else none

theorem Run.runAll [∀ s operation, Decidable (p s operation)] {operations : List ω}
    (hs : Run step p init s) (hrun : runAll step p operations s = some t) :
    Run step p init t := by
  induction operations generalizing s with
  | nil =>
    cases hrun
    exact hs
  | cons operation _ ih =>
  unfold Lib.runAll at hrun
  split at hrun
  · rename_i hp
    obtain ⟨u, hu, hrest⟩ := Option.bind_eq_some_iff.1 hrun
    exact ih (.step operation hs hp hu) hrest
  · cases hrun

/-- A run that ends as `q` says. -/
theorem exists_run (step : σ → ω → Option σ) (p : σ → ω → Prop)
    [∀ s operation, Decidable (p s operation)] (init : σ) (operations : List ω) (q : σ → Bool)
    (hrun : (Lib.runAll step p operations init).any q = true) :
    ∃ s, Run step p init s ∧ q s = true := by
  cases hend : Lib.runAll step p operations init with
  | none => simp [hend] at hrun
  | some s => exact ⟨s, Run.start.runAll hend, by simpa [hend] using hrun⟩

end Tina.Lib
