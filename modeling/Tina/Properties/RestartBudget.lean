import Tina.Lib.ListUpdate
import Tina.Runtime.State

/-!
A restart budget over a whole run of attempts. A lifetime budget is spent once. A windowed one is
spent anew in each window; a window opens with the first restart that the last one does not cover,
so the restarts of two windows may fall into one period.
-/

namespace Tina

open List Lib RestartBudget

def RestartBudget.lifetime (maxRestarts : Nat) : RestartBudget where
  maxRestarts
  window := none

def RestartBudget.within (maxRestarts : Nat) (period : Duration) : RestartBudget where
  maxRestarts
  window := some period

/-- A restart that was admitted, with the number of its window and when that opened. -/
structure Restart where
  time : Nat
  window : Nat
  opened : Nat

namespace RestartBudgetState

/-- The restarts admitted of those attempted. The first of a window opens it, and a refusal leaves
the state as it was. -/
def restarts (state : RestartBudgetState) (window : Nat) : List Instant → List Restart
  | [] => []
  | now :: rest =>
    match state.recordRestartAt now with
    | none => state.restarts window rest
    | some next =>
      let window := if next.restartsUsed = 1 then window + 1 else window
      ⟨now, window, next.windowStarted.getD now⟩ :: next.restarts window rest

variable {m period window used : Nat} {ws : Option Nat} {log : List Restart} {times : List Nat}

theorem restarts_lifetime (used window : Nat) (times : List Instant) :
    (restarts ⟨.lifetime m, used, none⟩ window times).map (·.time) = times.take (m - used) := by
  induction times generalizing used window with
  | nil => simp [restarts]
  | cons _ _ ih =>
  by_cases hused : used < m
  · rw [show m - used = m - (used + 1) + 1 by omega, take_succ_cons, ← ih (used + 1)]
    simp [restarts, recordRestartAt, rollWindow, isExhausted, lifetime, Nat.not_le.2 hused]
    rfl
  · have hrest := ih used window
    rw [Nat.sub_eq_zero_of_le (Nat.not_lt.1 hused)] at hrest ⊢
    simpa [restarts, recordRestartAt, rollWindow, isExhausted, lifetime,
      Nat.not_lt.1 hused] using hrest

/-- One attempt under a windowed budget. -/
theorem recordRestartAt_within (hfresh : ws = none → used = 0) (now : Nat) :
    recordRestartAt ⟨.within m period, used, ws⟩ now =
      if ∀ started ∈ ws, period ≤ now - started then
        if 0 < m then some ⟨.within m period, 1, some now⟩ else none
      else if used < m then some ⟨.within m period, used + 1, ws⟩ else none := by
  unfold recordRestartAt rollWindow isExhausted within
  cases ws with
  | none => simp [hfresh rfl, Nat.pos_iff_ne_zero]
  | some started =>
  by_cases hopens : period ≤ now - started
  · simp [hopens, Nat.pos_iff_ne_zero]
  by_cases hused : m ≤ used
  · simp [hopens, hused, Nat.not_lt.2 hused]
  · simp [hopens, hused, Nat.not_le.1 hused]

/-- Of the same window, or of a later one that opened a period after it. -/
def Follows (period : Nat) (earlier later : Restart) : Prop :=
  earlier.window ≤ later.window ∧ earlier.opened ≤ later.opened ∧
    (earlier.window < later.window → earlier.opened + period ≤ later.opened)

/-- Restarts that keep to their windows. -/
structure Windowed (m period : Nat) (log : List Restart) : Prop where
  apart : ∀ earlier ∈ log, ∀ later ∈ log, earlier.window < later.window →
    earlier.opened + period ≤ later.opened
  inside : ∀ restart ∈ log, restart.opened ≤ restart.time ∧
    (restart.time < restart.opened + period ∨ restart.time = restart.opened)
  budget : ∀ window, log.countP (·.window = window) ≤ m

/-- The log of a tracker whose last window has this number. -/
structure Logged (m period window : Nat) (ws : Option Nat) (log : List Restart) : Prop
    extends Windowed m period log where
  before : ∀ restart ∈ log, ∃ started ∈ ws, Follows period restart ⟨started, window, started⟩
  used : ∀ started ∈ ws, log.countP (·.window = window) ≠ 0

theorem Windowed.concat {restart : Restart} (h : Windowed m period log)
    (hbefore : ∀ earlier ∈ log, Follows period earlier restart)
    (hinside : restart.opened ≤ restart.time ∧
      (restart.time < restart.opened + period ∨ restart.time = restart.opened))
    (hcount : log.countP (·.window = restart.window) < m) :
    Logged m period restart.window (some restart.opened) (log ++ [restart]) where
  apart := forall_mem_concat
    (fun earlier hmem => forall_mem_concat (h.apart earlier hmem) (hbefore earlier hmem).2.2)
    (forall_mem_concat (fun later hmem hlt => absurd (hbefore later hmem).1 (Nat.not_le.2 hlt))
      fun hlt => absurd hlt (Nat.lt_irrefl _))
  inside := forall_mem_concat h.inside hinside
  budget window := by
    have hbudget := h.budget window
    by_cases hwindow : restart.window = window
    · subst hwindow
      simpa [Nat.succ_le_iff] using hcount
    · simpa [hwindow] using hbudget
  before := forall_mem_concat (fun earlier hmem => ⟨_, rfl, hbefore earlier hmem⟩)
    ⟨_, rfl, by simp [Follows]⟩
  used := by simp

theorem restarts_windowed (h : Logged m period window ws log) (hsorted : times.Pairwise (· ≤ ·))
    (hlater : ∀ started ∈ ws, ∀ time ∈ times, started ≤ time) :
    Windowed m period
      (log ++ restarts ⟨.within m period, log.countP (·.window = window), ws⟩ window times) := by
  induction times generalizing window ws log with
  | nil => simpa [restarts] using h.toWindowed
  | cons now rest ih =>
  obtain ⟨hfirst, hsorted⟩ := pairwise_cons.1 hsorted
  have hrest : ∀ started ∈ ws, ∀ time ∈ rest, started ≤ time := fun started hstarted time hmem =>
    hlater started hstarted time (mem_cons_of_mem _ hmem)
  have hfresh : ws = none → log.countP (·.window = window) = 0 := by
    rintro rfl
    refine countP_eq_zero.2 fun restart hmem => ?_
    obtain ⟨started, ⟨⟩, -⟩ := h.before restart hmem
  rw [restarts, recordRestartAt_within hfresh]
  split_ifs with hopens hm hused
  · -- a window opens
    have hnew : log.countP (·.window = window + 1) = 0 := by
      refine countP_eq_zero.2 fun restart hmem => ?_
      obtain ⟨started, -, hle, -⟩ := h.before restart hmem
      simp only [decide_eq_true_eq] at hle ⊢
      omega
    have hbefore : ∀ earlier ∈ log, Follows period earlier ⟨now, window + 1, now⟩ := by
      intro earlier hmem
      obtain ⟨started, hstarted, hfollows⟩ := h.before earlier hmem
      have hapart := hopens started hstarted
      have hle := hlater started hstarted now mem_cons_self
      simp only [Follows] at hfollows ⊢
      omega
    have hnext := ih (h.toWindowed.concat hbefore ⟨Nat.le_refl _, .inr rfl⟩
      (by simpa [hnew] using hm)) hsorted (by simpa using hfirst)
    simpa [hnew] using hnext
  · exact ih h hsorted hrest
  · -- a window goes on
    obtain ⟨started, rfl, _⟩ : ∃ started, ws = some started ∧ now - started < period := by
      simpa using hopens
    have hbefore : ∀ earlier ∈ log, Follows period earlier ⟨now, window, started⟩ := by
      simpa [Follows] using h.before
    have hnext := ih (h.toWindowed.concat hbefore
      ⟨hlater started rfl now mem_cons_self, .inl (by dsimp only; omega)⟩ hused) hsorted hrest
    simpa [h.used started rfl] using hnext
  · exact ih h hsorted hrest

section

variable (h : Windowed m period log)

include h

/-- Restarts whose windows opened within one period are of one window. -/
theorem Windowed.countP_le_of_close {p : Restart → Bool} (hclose : ∀ restart ∈ log,
    p restart = true → ∀ other ∈ log, p other = true → other.opened < restart.opened + period) :
    log.countP p ≤ m := by
  by_cases hsome : ∃ first ∈ log, p first = true
  · obtain ⟨first, hfirst, hp⟩ := hsome
    refine Nat.le_trans (countP_mono_left fun restart hmem hrestart => ?_) (h.budget first.window)
    have hback := hclose restart hmem hrestart first hfirst hp
    have hforth := hclose first hfirst hp restart hmem hrestart
    have hright := h.apart restart hmem first hfirst
    have hleft := h.apart first hfirst restart hmem
    simp only [decide_eq_true_eq]
    omega
  · simp [countP_eq_zero.2 (by simpa using hsome)]

/-- A period meets two windows at most: one that opened before it and one that opened in it. -/
theorem Windowed.countP_le (a : Nat) :
    log.countP (fun restart => a ≤ restart.time ∧ restart.time < a + period) ≤ 2 * m := by
  rw [countP_eq_countP_filter_add _ _ (·.opened < a), countP_filter,
    countP_filter, Nat.two_mul]
  refine Nat.add_le_add (h.countP_le_of_close ?_) (h.countP_le_of_close ?_)
  all_goals
    intro restart hmem hin other hmem' hin'
    have hinside := h.inside restart hmem
    have hinside' := h.inside other hmem'
    simp only [Bool.and_eq_true, decide_eq_true_eq, Bool.not_eq_true', decide_eq_false_iff_not]
      at hin hin'
    omega

end

end RestartBudgetState

open RestartBudgetState

/-- A lifetime budget admits the first attempts, as many as it allows. A windowed one admits at most
that many in each window and twice that many in a period; its windows open a period apart, and an
attempt behind the end of a window opens the next. The attempts may come at any times of a clock
that does not go back. -/
theorem restart_budget_bounds :
    (∀ m times, ((lifetime m).tracker.restarts 0 times).map (·.time) = times.take m) ∧
    ∀ (m period : Nat) (times : List Nat), times.Pairwise (· ≤ ·) →
      let log := (within m period).tracker.restarts 0 times
      (∀ window, log.countP (·.window = window) ≤ m) ∧
      (∀ earlier ∈ log, ∀ later ∈ log, earlier.window < later.window →
        earlier.opened + period ≤ later.opened) ∧
      (∀ start, log.countP (fun restart => start ≤ restart.time ∧ restart.time < start + period) ≤
        2 * m) ∧
      (0 < m → ∀ used started now, started + period ≤ now →
        (recordRestartAt ⟨.within m period, used, some started⟩ now).isSome = true) := by
  refine ⟨fun m times => restarts_lifetime 0 0 times, fun m period times hsorted => ?_⟩
  have hempty : Logged m period 0 none [] := ⟨⟨by simp, by simp, by simp⟩, by simp, by simp⟩
  have h : Windowed m period ((within m period).tracker.restarts 0 times) :=
    restarts_windowed hempty hsorted (by simp)
  refine ⟨h.budget, h.apart, h.countP_le, fun hm used started now hlate => ?_⟩
  have hopens : period ≤ now - started := by omega
  rw [recordRestartAt_within (by simp), if_pos (by simpa using hopens), if_pos hm]
  rfl

/-- One restart in each period of two. -/
theorem restarts_of_two_windows :
    ((within 1 2).tracker.restarts 0 [1, 2, 3, 4]).map (·.time) = [1, 3] ∧
      ((within 1 2).tracker.restarts 0 [1, 2, 3, 4]).countP
        (fun restart => 2 ≤ restart.time ∧ restart.time < 4) ≤ 2 :=
  ⟨by decide, (restart_budget_bounds.2 1 2 [1, 2, 3, 4] (by decide)).2.2.1 2⟩

end Tina
