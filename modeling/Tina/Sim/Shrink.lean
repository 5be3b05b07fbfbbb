import Mathlib.Data.List.Perm.Basic
import Mathlib.Data.Nat.Choose.Basic

/-!
Deletion shrinking of failing histories. Operations are deleted one at a time, and the search begins
again at the first one when a deletion is kept: at its end every deletion from the history it has
arrived at was tried.
-/

namespace Tina.Sim

open List

variable {Config Op Output Fact E R D : Type}

structure ShrinkConfig where
  maxAttempts : Nat

/-- The loop of the shrinkers, with the attempts that are left. `run` is the runner on a candidate,
`kept` the report of the last candidate that was kept; any other one may leave a `refusal`. -/
def shrinkLoop (run : Option R → List Op → Except E R) (keeps : R → Bool)
    (refusal : Nat → R → List D) :
    Nat → List Op → Option R → List D → Nat → Nat → Except E (List Op × Option R × List D × Nat)
  | 0, history, kept, refused, _, attempts => .ok (history, kept, refused, attempts)
  | left + 1, history, kept, refused, index, attempts =>
    if index < history.length then do
      let candidate := history.eraseIdx index
      let report ← run kept candidate
      if keeps report then
        shrinkLoop run keeps refusal left candidate (some report) refused 0 (attempts + 1)
      else
        shrinkLoop run keeps refusal left history kept (refused ++ refusal index report) (index + 1)
          (attempts + 1)
    else .ok (history, kept, refused, attempts)

/-- The loop for a runner without errors. -/
def shrinkTotal (run : List Op → R) (keeps : R → Bool) (config : ShrinkConfig) (history : List Op) :
    List Op × Option R × Nat :=
  match shrinkLoop (fun _ candidate => .ok (run candidate)) keeps (fun _ _ => ([] : List Unit))
    config.maxAttempts history none [] 0 0 with
  | .ok (shrunk, kept, _, attempts) => (shrunk, kept, attempts)
  | .error (error : Empty) => error.elim

structure ShrunkFailure (Op : Type) where
  original : List Op
  shrunk : List Op
  reason : String
  attempts : Nat

def deleteShrink (history : List Op) (config : ShrinkConfig) (reason : String)
    (stillFails : List Op → Bool) : ShrunkFailure Op :=
  let (shrunk, _, attempts) := shrinkTotal stillFails id config history
  { original := history, shrunk, reason, attempts }

/-- All that no shrinker touches is the configuration. -/
structure ReplayCase (Config Op : Type) where
  config : Config
  history : List Op
  expectedEventCount : Nat
  expectedTraceHash : UInt64

structure ReplayReport (Output : Type) where
  eventCount : Nat
  traceHash : UInt64
  output : Output

/-- The case with the shape that was observed. -/
def ReplayCase.refreshed (case : ReplayCase Config Op) (report : ReplayReport Output) :
    ReplayCase Config Op :=
  { case with expectedEventCount := report.eventCount, expectedTraceHash := report.traceHash }

structure ShrinkReport (Config Op Output : Type) where
  originalLen : Nat
  shrunkLen : Nat
  attempts : Nat
  reason : String
  shrunkCase : ReplayCase Config Op
  shrunkReport : ReplayReport Output

inductive ShrinkReplayCaseError where
  | notReproducing

def shrinkReplayCase (case : ReplayCase Config Op) (config : ShrinkConfig) (reason : String)
    (runner : ReplayCase Config Op → ReplayReport Output)
    (stillFails : ReplayReport Output → Bool) :
    Except ShrinkReplayCaseError (ShrinkReport Config Op Output) := do
  let report := runner case
  if !stillFails report then throw .notReproducing
  let (history, kept, attempts) :=
    shrinkTotal (runner { case with history := · }) stillFails config case.history
  let report := kept.getD report
  return {
    originalLen := case.history.length
    shrunkLen := history.length
    attempts
    reason
    shrunkCase := ReplayCase.refreshed { case with history } report
    shrunkReport := report }

structure LiveReplayCapture (Config Op Fact : Type) extends ReplayCase Config Op where
  liveFacts : List Fact

structure LiveReplayReport (Output Fact : Type) where
  replay : ReplayReport Output
  liveFacts : List Fact

structure FactSetDelta where
  deletionIndex : Nat
  expected : List String
  actual : List String

structure ShrinkCapturedReport (Config Op Output Fact : Type) where
  originalLen : Nat
  shrunkLen : Nat
  attempts : Nat
  reason : String
  shrunkCapture : LiveReplayCapture Config Op Fact
  shrunkReport : LiveReplayReport Output Fact
  factSetRejections : List FactSetDelta

inductive ShrinkCapturedReplayError (E : Type) where
  | projection (error : E)
  | notReproducing
  | factSetChanged (phase : String) (expected actual : List String)

section

variable [DecidableEq Fact]

/-- Every fact on the left is taken off the right, and nothing is left over. -/
def sameFactSet (left right : List Fact) : Bool :=
  left.length = right.length && left.isPerm right

def factLines (display : Fact → String) (facts : List Fact) : List String :=
  (facts.map display).mergeSort

def shrinkCapturedReplay (capture : LiveReplayCapture Config Op Fact) (config : ShrinkConfig)
    (reason : String) (runner : ReplayCase Config Op → Except E (LiveReplayReport Output Fact))
    (stillFails : LiveReplayReport Output Fact → Bool) (display : Fact → String) :
    Except (ShrinkCapturedReplayError E) (ShrinkCapturedReport Config Op Output Fact) := do
  let same (report : LiveReplayReport Output Fact) := sameFactSet capture.liveFacts report.liveFacts
  let expected := factLines display capture.liveFacts
  let report ← (runner capture.toReplayCase).mapError .projection
  if !stillFails report then throw .notReproducing
  if !same report then
    throw (.factSetChanged "initial replay" expected (factLines display report.liveFacts))
  let (history, kept, factSetRejections, attempts) ← shrinkLoop
    -- a candidate that is kept has its shape refreshed
    (fun kept candidate =>
      let case := { capture.toReplayCase with history := candidate }
      (runner (kept.elim case (case.refreshed ·.replay))).mapError .projection)
    (fun report => stillFails report && same report)
    (fun index report => if stillFails report then
      [⟨index, expected, factLines display report.liveFacts⟩] else [])
    config.maxAttempts capture.history none [] 0 0
  let report := kept.getD report
  return {
    originalLen := capture.history.length
    shrunkLen := history.length
    attempts
    reason
    shrunkCapture := { capture with
      toReplayCase := ReplayCase.refreshed { capture.toReplayCase with history } report.replay }
    shrunkReport := report
    factSetRejections }

end

/-- Whether a run of the history is one to keep. -/
def Fails (outcome : List Op → R → Prop) (keeps : R → Bool) (history : List Op) : Prop :=
  ∃ report, outcome history report ∧ keeps report

/-- What a shrinker returns for a history that fails. -/
structure Shrinks (fails : List Op → Prop) (config : ShrinkConfig) (original shrunk : List Op)
    (attempts : Nat) : Prop where
  sublist : shrunk <+ original
  still : fails shrunk
  few : attempts ≤ min config.maxAttempts ((original.length + 1) * original.length / 2)
  minimal : attempts < config.maxAttempts → ∀ index < shrunk.length, ¬ fails (shrunk.eraseIdx index)

section

variable {run : Option R → List Op → Except E R} (outcome : List Op → R → Prop) {keeps : R → Bool}
  {refusal : Nat → R → List D} {first : R} {history shrunk : List Op} {kept kept' : Option R}
  {refused refused' : List D} {attempts attempts' : Nat}

/-- A loop whose runner has no errors has none. -/
theorem shrinkLoop_ne_error {left index : Nat} {error : E}
    (hok : ∀ kept candidate, ∃ report, run kept candidate = .ok report) :
    shrinkLoop run keeps refusal left history kept refused index attempts ≠ .error error := by
  induction left generalizing history kept refused index attempts with
  | zero => rintro ⟨⟩
  | succ _ ih =>
  rw [shrinkLoop]
  split
  · obtain ⟨report, hreport⟩ := hok kept (history.eraseIdx index)
    simp only [hreport, bind, Except.bind]
    split <;> exact ih
  · rintro ⟨⟩

variable
  (hrun : ∀ kept candidate report, run kept candidate = .ok report ↔ outcome candidate report)

include hrun

/-- The loop from a history, no deletion before `index` from which was kept. -/
theorem shrinkLoop_spec {left index : Nat}
    (hloop : shrinkLoop run keeps refusal left history kept refused index attempts =
      .ok (shrunk, kept', refused', attempts'))
    (hreport : outcome history (kept.getD first) ∧ keeps (kept.getD first))
    (hindex : index ≤ history.length)
    (hbefore : ∀ earlier < index, ¬ Fails outcome keeps (history.eraseIdx earlier)) :
    shrunk <+ history ∧ (outcome shrunk (kept'.getD first) ∧ keeps (kept'.getD first)) ∧
      attempts' ≤ attempts + left ∧
      attempts' + index ≤ attempts + (history.length + 1) * history.length / 2 ∧
      (attempts' < attempts + left →
        ∀ index < shrunk.length, ¬ Fails outcome keeps (shrunk.eraseIdx index)) := by
  have htriangle (n : Nat) : (n + 1) * n / 2 = n * (n - 1) / 2 + n := Nat.triangle_succ n
  induction left generalizing history kept refused index attempts with
  | zero =>
    cases hloop
    have := htriangle shrunk.length
    exact ⟨.refl _, hreport, le_rfl, by omega, fun hlt => absurd hlt (by omega)⟩
  | succ left ih =>
  rw [shrinkLoop] at hloop
  split at hloop
  · next hlt =>
    cases hreported : run kept (history.eraseIdx index) with
    | error => simp [hreported, bind, Except.bind] at hloop
    | ok report =>
    simp only [hreported, bind, Except.bind] at hloop
    split at hloop
    · next hkeeps =>
      obtain ⟨hsub, hlast, hleft, hfew, hall⟩ :=
        ih hloop ⟨(hrun _ _ _).1 hreported, hkeeps⟩ (Nat.zero_le _) (by simp)
      refine ⟨hsub.trans (eraseIdx_sublist _ _), hlast, by omega, ?_, fun hmore => hall (by omega)⟩
      rw [length_eraseIdx_of_lt hlt, Nat.sub_add_cancel (by omega)] at hfew
      have := htriangle history.length
      omega
    · next hrefused =>
      obtain ⟨hsub, hlast, hleft, hfew, hall⟩ := ih hloop hreport hlt fun earlier hearlier => by
        rcases Nat.lt_succ_iff_lt_or_eq.1 hearlier with hbefore' | rfl
        · exact hbefore earlier hbefore'
        · rintro ⟨other, hother, hkeeps⟩
          cases hreported.symm.trans ((hrun ..).2 hother)
          exact hrefused hkeeps
      exact ⟨hsub, hlast, by omega, by omega, fun hmore => hall (by omega)⟩
  · next hdone =>
    cases hloop
    obtain rfl : index = shrunk.length := by omega
    have := htriangle shrunk.length
    exact ⟨.refl _, hreport, by omega, by omega, fun _ => hbefore⟩

theorem shrinkLoop_shrinks {config : ShrinkConfig}
    (hloop : shrinkLoop run keeps refusal config.maxAttempts history none [] 0 0 =
      .ok (shrunk, kept, refused, attempts))
    (hfirst : outcome history first) (hkeeps : keeps first) :
    Shrinks (Fails outcome keeps) config history shrunk attempts ∧
      outcome shrunk (kept.getD first) ∧ keeps (kept.getD first) := by
  obtain ⟨hsub, hlast, hleft, hfew, hall⟩ :=
    shrinkLoop_spec outcome hrun hloop ⟨hfirst, hkeeps⟩ (Nat.zero_le _) (by simp)
  rw [Nat.zero_add] at hleft hall
  exact ⟨⟨hsub, ⟨_, hlast⟩, by omega, hall⟩, hlast⟩

end

theorem shrinkTotal_shrinks (run : List Op → R) (keeps : R → Bool) (config : ShrinkConfig)
    {history : List Op} (hfails : keeps (run history)) :
    ∃ shrunk kept attempts, shrinkTotal run keeps config history = (shrunk, kept, attempts) ∧
      Shrinks (Fails (run · = ·) keeps) config history shrunk attempts ∧
      run shrunk = kept.getD (run history) := by
  unfold shrinkTotal
  split
  · next hloop =>
    obtain ⟨hshrinks, hlast, -⟩ := shrinkLoop_shrinks (run · = ·) (by simp) hloop rfl hfails
    exact ⟨_, _, _, rfl, hshrinks, hlast⟩
  · next error _ => exact error.elim

theorem sameFactSet_iff [DecidableEq Fact] {left right : List Fact} :
    sameFactSet left right ↔ left ~ right := by
  simp only [sameFactSet, Bool.and_eq_true, decide_eq_true_eq, isPerm_iff]
  exact and_iff_right_of_imp Perm.length_eq

/-- A capture that fails with the facts it was taken with is answered, if the runner has no
errors. -/
theorem shrinkCapturedReplay_isOk [DecidableEq Fact] (capture : LiveReplayCapture Config Op Fact)
    (config : ShrinkConfig) (reason : String) (display : Fact → String)
    (runner : ReplayCase Config Op → LiveReplayReport Output Fact)
    (stillFails : LiveReplayReport Output Fact → Bool)
    (hfails : stillFails (runner capture.toReplayCase))
    (hfacts : capture.liveFacts ~ (runner capture.toReplayCase).liveFacts) :
    ∃ report : ShrinkCapturedReport Config Op Output Fact,
      shrinkCapturedReplay capture config reason
      (fun case => .ok (runner case) : _ → Except E _) stillFails display = .ok report := by
  simp only [shrinkCapturedReplay, bind, Except.bind, Except.mapError, hfails,
    sameFactSet_iff.2 hfacts, Bool.not_true, Bool.false_eq_true, if_false]
  split
  · next hloop => exact absurd hloop (shrinkLoop_ne_error fun _ _ => ⟨_, rfl⟩)
  · exact ⟨_, rfl⟩

/-- A runner that reads the operations and the configuration of its case. -/
def ReadsOps (runner : ReplayCase Config Op → R) : Prop :=
  ∀ one other, one.history = other.history → one.config = other.config → runner one = runner other

/-- The three shrinkers, from a history, a case or a capture that fails. Each gives a sublist that
still fails under the runner. With attempts left no single deletion from it fails, though a deletion
of two may. The runner may be any function of the operations and the configuration; that of a
capture may return errors, and `shrinkCapturedReplay_isOk` says when there is a report. -/
theorem deletion_shrinking_minimal [DecidableEq Fact] (config : ShrinkConfig) (reason : String) :
    (∀ (history : List Op) (stillFails : List Op → Bool), stillFails history →
      let failure := deleteShrink history config reason stillFails
      Shrinks (Fails (stillFails · = ·) id) config history failure.shrunk failure.attempts) ∧
    (∀ (case : ReplayCase Config Op) (runner : ReplayCase Config Op → ReplayReport Output)
      (stillFails : ReplayReport Output → Bool), ReadsOps runner → stillFails (runner case) →
      ∃ report, shrinkReplayCase case config reason runner stillFails = .ok report ∧
        Shrinks (Fails (runner { case with history := · } = ·) stillFails) config
          case.history report.shrunkCase.history report.attempts ∧
        report.shrunkCase = ReplayCase.refreshed
          { case with history := report.shrunkCase.history } (runner report.shrunkCase)) ∧
    ∀ (capture : LiveReplayCapture Config Op Fact)
      (runner : ReplayCase Config Op → Except E (LiveReplayReport Output Fact))
      (stillFails : LiveReplayReport Output Fact → Bool) (display : Fact → String),
      ReadsOps runner → ∀ report,
      shrinkCapturedReplay capture config reason runner stillFails display = .ok report →
        Shrinks (Fails (runner { capture.toReplayCase with history := · } = .ok ·)
          fun report => stillFails report && sameFactSet capture.liveFacts report.liveFacts) config
          capture.history report.shrunkCapture.history report.attempts ∧
        runner report.shrunkCapture.toReplayCase = .ok report.shrunkReport ∧
        capture.liveFacts ~ report.shrunkReport.liveFacts ∧
        report.shrunkCapture.toReplayCase = ReplayCase.refreshed
          { capture.toReplayCase with history := report.shrunkCapture.history }
          report.shrunkReport.replay := by
  refine ⟨fun history stillFails hfails => ?_, fun case runner stillFails hreads hfails => ?_,
    fun capture runner stillFails display hreads report hreport => ?_⟩
  · obtain ⟨_, _, _, hshrink, hshrinks, -⟩ := shrinkTotal_shrinks stillFails id config hfails
    simpa only [deleteShrink, hshrink]
  · obtain ⟨shrunk, _, _, hshrink, hshrinks, hlast⟩ :=
      shrinkTotal_shrinks (runner { case with history := · }) stillFails config hfails
    simp only [shrinkReplayCase, hfails, hshrink, bind, Except.bind]
    exact ⟨_, rfl, hshrinks, congrArg (ReplayCase.refreshed { case with history := shrunk })
      (hlast.symm.trans (hreads _ _ rfl rfl))⟩
  · simp only [shrinkCapturedReplay, bind, Except.bind] at hreport
    cases hfirst : runner capture.toReplayCase with
    | error => simp [hfirst, Except.mapError] at hreport
    | ok first =>
    simp only [hfirst, Except.mapError] at hreport
    split at hreport
    · cases hreport
    split at hreport
    · cases hreport
    next hfails hsame =>
    split at hreport
    · cases hreport
    next hloop =>
    cases hreport
    obtain ⟨hshrinks, hlast, hkeeps⟩ := shrinkLoop_shrinks
      (runner { capture.toReplayCase with history := · } = .ok ·) (fun kept candidate report => by
        rw [hreads _ { capture.toReplayCase with history := candidate } (by cases kept <;> rfl)
          (by cases kept <;> rfl)]
        cases runner _ <;> simp) hloop hfirst (by simp_all)
    refine ⟨hshrinks, Eq.trans ?_ hlast, sameFactSet_iff.1 (Bool.and_eq_true_iff.1 hkeeps).2, rfl⟩
    exact hreads _ _ rfl rfl

/-- Of three operations one is enough. -/
theorem deletion_shrinking_of_three :
    let case : ReplayCase Unit Nat := ⟨(), [1, 2, 3], 3, 5⟩
    let runner (case : ReplayCase Unit Nat) : ReplayReport Unit := ⟨case.history.length, 5, ()⟩
    let live (case : ReplayCase Unit Nat) : Except Empty (LiveReplayReport Unit Nat) :=
      .ok ⟨runner case, [7]⟩
    Shrinks (Fails (List.contains · 2 = ·) id) ⟨9⟩ [1, 2, 3] [2] 4 ∧
    (∃ report, shrinkReplayCase case ⟨9⟩ "" runner (·.eventCount ≠ 0) = .ok report) ∧
    ∃ report, shrinkCapturedReplay ⟨case, [7]⟩ ⟨9⟩ "" live (·.replay.eventCount ≠ 0) toString =
      .ok report ∧ [7] ~ report.shrunkReport.liveFacts := by
  intro case runner live
  obtain ⟨hdelete, hcase, hcapture⟩ :=
    @deletion_shrinking_minimal Unit Nat Unit Nat Empty _ ⟨9⟩ ""
  have hreads : ReadsOps runner := fun _ _ h _ => by simp only [runner, h]
  refine ⟨hdelete [1, 2, 3] (List.contains · 2) rfl,
    (hcase case runner _ hreads rfl).imp fun _ => And.left, _, rfl, ?_⟩
  exact (hcapture ⟨case, [7]⟩ live (·.replay.eventCount ≠ 0) toString
    (fun _ _ h h' => by simp only [live, hreads _ _ h h']) _ rfl).2.2.1

end Tina.Sim
