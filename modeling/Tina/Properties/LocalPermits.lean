import Mathlib.Data.List.Perm.Basic
import Tina.Lib.Runs
import Tina.Pool.Types

/-!
The gate that counts the permits of an isolate's own work, and any number of such gates whose
permits are handed around. A gate compares the generation of a permit with its own and nothing else.
-/

namespace Tina

open Lib Pool List

structure LocalPermitReport where
  capacity : Nat
  current : Nat
  fullCount : Nat
  highWater : Nat
  retiredCount : Nat
  completedCount : Nat
  invalidReleaseCount : Nat

structure LocalPermitGate extends report : LocalPermitReport where
  nextPermitId : Nat
  generation : Nat

open LocalPermitGate

structure Permit where
  id : Nat
  generation : Nat

inductive LocalPermitReleaseError where
  | staleOrUnknown (permitId permitGeneration gateGeneration : Nat)

namespace LocalPermitGate

/-- `none`: a gate without capacity panics. -/
def withCapacity (capacity : Nat) : Option LocalPermitGate :=
  if capacity = 0 then none else some ⟨⟨capacity, 0, 0, 0, 0, 0, 0⟩, 0, 0⟩

def reset (gate : LocalPermitGate) : LocalPermitGate :=
  { gate with
    generation := nextAfter gate.generation, current := 0, fullCount := 0, highWater := 0
    retiredCount := 0, completedCount := 0, invalidReleaseCount := 0 }

def tryAdmit (gate : LocalPermitGate) : Except LocalPermitReport Permit × LocalPermitGate :=
  if gate.current ≥ gate.capacity then
    let gate := { gate with fullCount := nextAfter gate.fullCount }
    (.error gate.report, gate)
  else
    let gate := { gate with
      nextPermitId := nextAfter gate.nextPermitId
      current := gate.current + 1
      highWater := max (gate.current + 1) gate.highWater }
    (.ok ⟨gate.nextPermitId, gate.generation⟩, gate)

/-- What `release` and `retire` share: they differ in the count that the permit goes to. -/
def settle (gate : LocalPermitGate) (permit : Permit)
    (record : LocalPermitReport → LocalPermitReport) :
    Except LocalPermitReleaseError LocalPermitReport × LocalPermitGate :=
  if permit.generation ≠ gate.generation then
    (.error (.staleOrUnknown permit.id permit.generation gate.generation),
      { gate with invalidReleaseCount := nextAfter gate.invalidReleaseCount })
  else
    let report := record { gate.report with current := gate.current - 1 }
    (.ok report, { gate with report })

def release (gate : LocalPermitGate) (permit : Permit) :
    Except LocalPermitReleaseError LocalPermitReport × LocalPermitGate :=
  gate.settle permit fun report =>
    { report with completedCount := nextAfter report.completedCount }

def retire (gate : LocalPermitGate) (permit : Permit) :
    Except LocalPermitReleaseError LocalPermitReport × LocalPermitGate :=
  gate.settle permit fun report => { report with retiredCount := nextAfter report.retiredCount }

def consume (gate : LocalPermitGate) (completes : Bool) (permit : Permit) :
    Except LocalPermitReleaseError LocalPermitReport × LocalPermitGate :=
  if completes then gate.release permit else gate.retire permit

variable {gate : LocalPermitGate} {permit : Permit}

theorem consume_of_ne (hne : permit.generation ≠ gate.generation) (completes : Bool) :
    gate.consume completes permit =
      (.error (.staleOrUnknown permit.id permit.generation gate.generation),
        { gate with invalidReleaseCount := nextAfter gate.invalidReleaseCount }) := by
  cases completes <;> exact if_pos hne

theorem consume_of_eq (heq : permit.generation = gate.generation) (completes : Bool) :
    ∃ report gate', gate.consume completes permit = (.ok report, gate') ∧
      gate'.generation = gate.generation ∧ gate'.capacity = gate.capacity ∧
      gate'.current = gate.current - 1 := by
  cases completes <;> exact ⟨_, _, if_neg (not_not.2 heq), rfl, rfl, rfl⟩

end LocalPermitGate

namespace LocalPermits

/-- A gate, and since its last reset: the permits it issued, and how many of them were released or
retired on it. -/
structure Site where
  gate : LocalPermitGate
  resets : Nat
  issued : Nat
  settled : Nat

/-- A permit in somebody's hands, the gate that issued it, and the resets of that gate before. -/
structure Held (G : Type) where
  permit : Permit
  issuer : G
  epoch : Nat

structure Gates (G : Type) where
  site : G → Site
  held : List (Held G)

variable {G : Type} [DecidableEq G] {g : G} {site : Site} {held : List (Held G)}
  {gate : LocalPermitGate}

inductive Op (G : Type) where
  | take (g : G)
  | settle (completes : Bool) (g : G) (permit : Nat)
  | reset (g : G)

/-- The permit was issued by this gate, since its last reset. -/
def Held.isOf (h : Held G) (g : G) (resets : Nat) : Bool :=
  h.issuer = g ∧ h.epoch = resets

def Gates.put (w : Gates G) (g : G) (site : Site) (held : List (Held G)) : Gates G :=
  ⟨Function.update w.site g site, held⟩

/-- A permit can be handed to any gate, which takes it also when it refuses it. -/
def step (w : Gates G) : Op G → Option (Gates G)
  | .take g =>
    let site := w.site g
    match site.gate.tryAdmit with
    | (.error _, gate) => some (w.put g { site with gate } w.held)
    | (.ok permit, gate) =>
      some (w.put g { site with gate, issued := site.issued + 1 }
        (⟨permit, g, site.resets⟩ :: w.held))
  | .settle completes g permit => do
    let h ← w.held[permit]?
    let site := w.site g
    match site.gate.consume completes h.permit with
    | (.error _, gate) => some (w.put g { site with gate } (w.held.eraseIdx permit))
    | (.ok _, gate) =>
      let own := if h.isOf g site.resets then 1 else 0
      some (w.put g { site with gate, settled := site.settled + own } (w.held.eraseIdx permit))
  | .reset g =>
    let site := w.site g
    some (w.put g ⟨site.gate.reset, site.resets + 1, 0, 0⟩ w.held)

def start (gates : G → LocalPermitGate) : Gates G :=
  ⟨fun g => ⟨gates g, 0, 0, 0⟩, []⟩

/-- No gate is reset `2 ^ 64` times. -/
def FewResets (w : Gates G) : Op G → Prop
  | .reset g => (w.site g).resets + 1 < 2 ^ 64
  | _ => True

/-- Besides, a permit that is handed to another gate than its issuer's has not the generation which
that gate happens to be in. -/
def Apart (w : Gates G) : Op G → Prop
  | .settle _ g permit => ∀ h ∈ w.held[permit]?, h.issuer ≠ g →
      h.permit.generation ≠ (w.site g).gate.generation
  | op => FewResets w op

instance (w : Gates G) : DecidablePred (Apart w)
  | .settle .. => inferInstanceAs (Decidable (∀ h ∈ _, _ → _))
  | .reset _ => inferInstanceAs (Decidable (_ < _))
  | .take _ => isTrue trivial

/-- What holds of a gate and the permits that are out. -/
structure Counted (g : G) (site : Site) (held : List (Held G)) : Prop where
  generation : site.gate.generation = site.resets
  counted : site.gate.current + site.settled = site.issued
  bounded : site.gate.current ≤ site.gate.capacity
  outstanding : held.countP (·.isOf g site.resets) ≤ site.gate.current
  issued : ∀ h ∈ held, h.issuer = g → h.permit.generation = h.epoch ∧ h.epoch ≤ site.resets

section

variable (h : Counted g site held) {x : Held G}

include h

theorem Counted.sublist {held' : List (Held G)} (hsub : held'.Sublist held) :
    Counted g site held' :=
  { h with
    outstanding := Nat.le_trans hsub.countP_le h.outstanding
    issued := fun x hx => h.issued x (hsub.subset hx) }

theorem Counted.take {permit : Permit} (htaken : site.gate.tryAdmit = (.ok permit, gate)) :
    Counted g { site with gate, issued := site.issued + 1 } (⟨permit, g, site.resets⟩ :: held) := by
  unfold tryAdmit at htaken
  split at htaken
  · cases htaken
  next hroom =>
    cases htaken
    have hcounted := h.counted
    refine { h with counted := ?_, bounded := ?_, outstanding := ?_, issued := ?_ }
    · dsimp only
      omega
    · exact Nat.lt_of_not_le hroom
    · rw [countP_cons_of_pos (by simp [Held.isOf])]
      exact Nat.succ_le_succ h.outstanding
    · intro x hx hissuer
      rcases mem_cons.1 hx with rfl | hx
      · exact ⟨h.generation, Nat.le_refl _⟩
      · exact h.issued x hx hissuer

/-- A permit of the generation of its issuer is one of those that the gate still counts. -/
theorem Counted.isOf_of_eq (hx : x ∈ held)
    (hissuer : x.issuer = g) (heq : x.permit.generation = site.gate.generation) :
    x.isOf g site.resets = true := by
  have hepoch := (h.issued x hx hissuer).1
  simp [Held.isOf, hissuer, ← hepoch, heq, h.generation]

theorem Counted.settle {i : Nat} (hx : held[i]? = some x) (hown : x.isOf g site.resets = true)
    (hgeneration : gate.generation = site.gate.generation)
    (hcapacity : gate.capacity = site.gate.capacity)
    (hcurrent : gate.current = site.gate.current - 1) :
    Counted g { site with gate, settled := site.settled + 1 } (held.eraseIdx i) := by
  obtain ⟨hi, rfl⟩ := List.getElem?_eq_some_iff.1 hx
  have hcount := (getElem_cons_eraseIdx_perm hi).countP_eq (·.isOf g site.resets)
  rw [countP_cons_of_pos (by exact hown)] at hcount
  have houtstanding := h.outstanding
  have hcounted := h.counted
  have hbounded := h.bounded
  constructor
  · exact hgeneration.trans h.generation
  · dsimp only
    omega
  · dsimp only
    omega
  · dsimp only
    omega
  · exact fun y hy => h.issued y (mem_of_mem_eraseIdx hy)

theorem Counted.reset (hfew : site.resets + 1 < 2 ^ 64) :
    Counted g ⟨site.gate.reset, site.resets + 1, 0, 0⟩ held := by
  refine ⟨?_, rfl, Nat.zero_le _, ?_, fun x hx hissuer => ?_⟩
  · change min (site.gate.generation + 1) u64Max = site.resets + 1
    rw [h.generation, u64Max]
    omega
  · refine Nat.le_of_eq (countP_eq_zero.2 fun x hx hof => ?_)
    simp only [Held.isOf, Bool.decide_and, Bool.and_eq_true, decide_eq_true_eq] at hof
    have hepoch := (h.issued x hx hof.1).2
    omega
  · exact (h.issued x hx hissuer).imp_right Nat.le_succ_of_le

end

theorem Counted.step {w t : Gates G} {op : Op G} (h : ∀ g, Counted g (w.site g) w.held)
    (hop : Apart w op) (hstep : step w op = some t) (g' : G) : Counted g' (t.site g') t.held := by
  -- Only one gate changes: the others see at most that permits come and go.
  have hput : ∀ {g site held}, Counted g site held →
      (∀ g' ≠ g, Counted g' (w.site g') held) → ∀ g', Counted g' ((w.put g site held).site g')
        held := by
    intro g site held hsite hothers g'
    by_cases heq : g' = g
    · subst heq
      simpa [Gates.put] using hsite
    · simpa [Gates.put, heq] using hothers g' heq
  cases op with
  | take g =>
    unfold LocalPermits.step at hstep
    dsimp only at hstep
    split at hstep
    next gate htaken =>
      cases hstep
      have hgate : { (w.site g).gate with fullCount := nextAfter (w.site g).gate.fullCount } =
          gate := by
        unfold tryAdmit at htaken
        split at htaken <;> cases htaken
        rfl
      subst hgate
      refine hput ?_ (fun g' _ => h g') g'
      exact { h g with }
    next permit gate htaken =>
      cases hstep
      refine hput ((h g).take htaken) (fun g' hne => ?_) g'
      refine { h g' with outstanding := ?_, issued := fun x hx hissuer => ?_ }
      · rw [countP_cons_of_neg (by simp [Held.isOf, hne.symm])]
        exact (h g').outstanding
      rcases mem_cons.1 hx with rfl | hx
      · exact absurd hissuer hne.symm
      · exact (h g').issued x hx hissuer
  | settle completes g i =>
    obtain ⟨x, hx, hstep⟩ := Option.bind_eq_some_iff.1 hstep
    have hothers : ∀ g', Counted g' (w.site g') (w.held.eraseIdx i) := fun g' =>
      (h g').sublist (eraseIdx_sublist ..)
    by_cases heq : x.permit.generation = (w.site g).gate.generation
    · have hissuer : x.issuer = g := by_contra fun hne => hop x hx hne heq
      have hown := (h g).isOf_of_eq (mem_of_getElem? hx) hissuer heq
      obtain ⟨_, gate, hconsume, hgeneration, hcapacity, hcurrent⟩ :=
        consume_of_eq heq completes
      simp only [hconsume, if_pos hown] at hstep
      cases hstep
      exact hput ((h g).settle hx hown hgeneration hcapacity hcurrent) (fun g' _ => hothers g') g'
    · simp only [consume_of_ne heq] at hstep
      cases hstep
      refine hput ?_ (fun g' _ => hothers g') g'
      exact { hothers g with }
  | reset g =>
    cases hstep
    exact hput ((h g).reset hop) (fun g' _ => h g') g'

/-- In a run in which no permit is handed to another gate of its generation, every gate counts its
own permits and stays within its capacity, and a permit of another gate or from before a reset is
refused and changes nothing but the count of such attempts. There may be any number of gates, and
permits pass between them. -/
theorem gates_count_own_permits {gates : G → LocalPermitGate}
    (hgates : ∀ g, ∃ capacity, LocalPermitGate.withCapacity capacity = some (gates g)) {w : Gates G}
    (hrun : Run step Apart (start gates) w) (g : G) :
    (w.site g).gate.current + (w.site g).settled = (w.site g).issued ∧
    (w.site g).gate.current ≤ (w.site g).gate.capacity ∧
    ∀ completes i h, w.held[i]? = some h → Apart w (.settle completes g i) →
      h.isOf g (w.site g).resets = false →
      (w.site g).gate.consume completes h.permit =
        (.error (.staleOrUnknown h.permit.id h.permit.generation (w.site g).gate.generation),
          { (w.site g).gate with
            invalidReleaseCount := nextAfter (w.site g).gate.invalidReleaseCount }) := by
  have hcounted : ∀ g, Counted g (w.site g) w.held := by
    refine hrun.invariant (fun g => ?_) fun _ _ _ h hop hstep => Counted.step h hop hstep
    obtain ⟨capacity, hgate⟩ := hgates g
    rw [withCapacity] at hgate
    split at hgate
    · cases hgate
    change Counted g ⟨gates g, 0, 0, 0⟩ []
    rw [← Option.some.inj hgate]
    exact ⟨rfl, rfl, Nat.zero_le _, Nat.zero_le _, by simp⟩
  refine ⟨(hcounted g).counted, (hcounted g).bounded, fun completes i h hheld happ hforeign => ?_⟩
  refine consume_of_ne (fun heq => ?_) completes
  have hissuer : h.issuer = g := by_contra fun hne => happ h hheld hne heq
  simp [(hcounted g).isOf_of_eq (mem_of_getElem? hheld) hissuer heq] at hforeign

/-- A gate that was reset refuses the permit it issued before and that of another gate, and takes
the one it issues then back. -/
theorem gates_count_own_permits_of_reset : ∃ w : Gates Bool,
    ((w.site true).gate.invalidReleaseCount = 2 ∧ (w.site true).gate.completedCount = 1) ∧
      (w.site true).gate.current + (w.site true).settled = (w.site true).issued := by
  obtain ⟨w, hrun, hend⟩ := exists_run step Apart
    (start fun _ : Bool => ⟨⟨1, 0, 0, 0, 0, 0, 0⟩, 0, 0⟩)
    [.take false, .take true, .reset true, .settle true true 0, .settle true true 0, .take true,
      .settle true true 0]
    (fun w => (w.site true).gate.invalidReleaseCount = 2 ∧ (w.site true).gate.completedCount = 1)
    (by decide +kernel)
  exact ⟨w, of_decide_eq_true hend, (gates_count_own_permits (fun _ => ⟨1, rfl⟩) hrun true).1⟩

/-- The second of two gates takes the permit of the first one for its own. -/
theorem permit_of_another_gate_released : ∃ w : Gates Bool,
    Run step FewResets (start fun _ => ⟨⟨1, 0, 0, 0, 0, 0, 0⟩, 0, 0⟩) w ∧
      ((w.site true).gate.current, (w.site true).issued, (w.site true).settled) = (0, 1, 0) :=
  ⟨_, .step (.settle true true 1) (.step (.take true) (.step (.take false) .start trivial rfl)
    trivial rfl) trivial rfl, rfl⟩

end LocalPermits

end Tina
