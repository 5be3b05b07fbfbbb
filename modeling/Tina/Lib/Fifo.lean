import Tina.Lib.ListUpdate

/-!
A bounded queue in which places can be reserved, and machines that answer as another one does.
-/

namespace Tina.Lib

open List

section

variable {σ τ Op Op' Answer Answer' : Type}

/-- What a machine answers to operations, and the state it ends in. -/
def answers (step : σ → Op → Answer × σ) : σ → List Op → List Answer × σ
  | s, [] => ([], s)
  | s, op :: ops => ((step s op).1 :: (answers step (step s op).2 ops).1,
      (answers step (step s op).2 ops).2)

/-- A machine that answers each operation as another one does answers every list of them so. -/
theorem answers_of_simulates {step : σ → Op → Answer × σ} {step' : τ → Op' → Answer' × τ}
    {f : Op → Op'} {g : Answer' → Answer} {R : σ → τ → Prop}
    (hstep : ∀ s t op, R s t → (step s op).1 = g (step' t (f op)).1 ∧
      R (step s op).2 (step' t (f op)).2) {s : σ} {t : τ} (hrel : R s t) (ops : List Op) :
    (answers step s ops).1 = (answers step' t (ops.map f)).1.map g ∧
      R (answers step s ops).2 (answers step' t (ops.map f)).2 := by
  induction ops generalizing s t with
  | nil => exact ⟨rfl, hrel⟩
  | cons op _ ih =>
  obtain ⟨hanswer, hnext⟩ := hstep s t op hrel
  obtain ⟨hrest, hend⟩ := ih hnext
  exact ⟨congrArg₂ cons hanswer hrest, hend⟩

end

/-- A reservation holds a place without an item. -/
structure Fifo (T : Type) where
  capacity : Nat
  items : List T
  held : Nat
  closed : Bool

namespace Fifo

variable {T : Type} {q : Fifo T}

inductive Op (T : Type) where
  | push (item : T)
  | pushHeld (item : T)
  | pop
  | reserve
  | release
  | close

inductive Answer (T : Type) where
  | done
  | full (returned : Option T)
  | closed (returned : Option T)
  | popped (item : Option T)
  | released (held : Bool)

def new (capacity : Nat) : Fifo T where
  capacity
  items := []
  held := 0
  closed := false

/-- An item comes in through a free place, or through a place that is held for it. -/
def step (q : Fifo T) : Op T → Answer T × Fifo T
  | .push item =>
    if q.closed then (.closed (some item), q)
    else if q.capacity ≤ q.items.length + q.held then (.full (some item), q)
    else (.done, { q with items := q.items ++ [item] })
  | .pushHeld item =>
    if q.held = 0 then (.full (some item), q)
    else if q.closed then (.closed (some item), { q with held := q.held - 1 })
    else (.done, { q with held := q.held - 1, items := q.items ++ [item] })
  | .pop => (.popped q.items.head?, { q with items := q.items.tail })
  | .reserve =>
    if q.closed then (.closed none, q)
    else if q.capacity ≤ q.items.length + q.held then (.full none, q)
    else (.done, { q with held := q.held + 1 })
  | .release => (.released (q.held ≠ 0), { q with held := q.held - 1 })
  | .close => (.done, { q with closed := true })

def Bounded (q : Fifo T) : Prop :=
  q.items.length + q.held ≤ q.capacity

theorem Bounded.step (h : q.Bounded) (op : Op T) : (q.step op).2.Bounded := by
  unfold Bounded at h ⊢
  cases op with
  | push | reserve =>
    rw [Fifo.step]
    split
    · exact h
    split
    · exact h
    · simp only [length_append, length_singleton]
      omega
  | pushHeld =>
    rw [Fifo.step]
    split
    · exact h
    · split <;> simp only [length_append, length_singleton] <;> omega
  | pop =>
    simp only [Fifo.step, length_tail]
    omega
  | release =>
    simp only [Fifo.step]
    omega
  | close => exact h

/-- The item that an operation put into the queue. -/
def accepted : Op T × Answer T → Option T
  | (.push item, .done) | (.pushHeld item, .done) => some item
  | _ => none

def popped : Answer T → Option T
  | .popped item => item
  | _ => none

theorem step_conserved (q : Fifo T) (op : Op T) : q.items ++ (accepted (op, (q.step op).1)).toList =
      (popped (q.step op).1).toList ++ (q.step op).2.items := by
  cases op with
  | push | pushHeld | reserve =>
    rw [step]
    split
    · simp [accepted, popped]
    · split <;> simp [accepted, popped]
  | pop => cases hitems : q.items <;> simp [step, hitems, accepted, popped]
  | release | close => simp [step, accepted, popped]

/-- What came out is what went in, in order, up to what is still there. -/
theorem items_conserved (q : Fifo T) (ops : List (Op T)) :
    q.items ++ (ops.zip (answers step q ops).1).filterMap accepted =
      (answers step q ops).1.filterMap popped ++ (answers step q ops).2.items := by
  induction ops generalizing q with
  | nil => simp [answers]
  | cons _ _ ih =>
    rw [answers, zip_cons_cons, filterMap_cons_toList, filterMap_cons_toList,
      ← append_assoc, step_conserved, append_assoc, append_assoc, ih]

/-- A queue that was closed stays closed. -/
theorem closed_of_mem {ops : List (Op T)} (h : .close ∈ ops ∨ q.closed = true) :
    (answers step q ops).2.closed = true := by
  induction ops generalizing q with
  | nil => simpa [answers] using h
  | cons op _ ih =>
  apply ih
  rcases h with hmem | hclosed
  · rcases mem_cons.1 hmem with rfl | hmem
    · exact .inr rfl
    · exact .inl hmem
  right
  cases op with
  | push | pushHeld | reserve => rw [step]; split_ifs <;> exact hclosed
  | pop | release => exact hclosed
  | close => rfl

section

variable {σ : Type} {step' : σ → Op T → Answer T × σ} {fifo : σ → Fifo T}

/-- A run of a machine, its answers and where it ends, is one of the queue. It stays within the
capacity, gives out what it accepted, delivers into a held place while it is open, and returns an
item that it does not take. -/
structure RefinedBy (step' : σ → Op T → Answer T × σ) (fifo : σ → Fifo T) (capacity : Nat)
    (ops : List (Op T)) (run : List (Answer T) × σ) : Prop where
  same : run.map id fifo = answers step (.new capacity) ops
  bounded : (fifo run.2).Bounded
  conserved : (ops.zip run.1).filterMap accepted = run.1.filterMap popped ++ (fifo run.2).items
  delivers (item : T) : (fifo run.2).closed = false → 0 < (fifo run.2).held →
    (step' run.2 (.pushHeld item)).1 = .done
  returns (item : T) : (step' run.2 (.push item)).1 = .done ∨
    (step' run.2 (.push item)).1 ∈ [.full (some item), .closed (some item)] ∧
      (step' run.2 (.push item)).2 = run.2

theorem refinedBy_of_steps (hstep : ∀ s, (fifo s).Bounded → ∀ op,
      (step' s op).map id fifo = (fifo s).step op) (hinj : ∀ s t, fifo s = fifo t → s = t)
    {capacity : Nat} {start : σ} (hstart : fifo start = .new capacity) (ops : List (Op T)) :
    RefinedBy step' fifo capacity ops (answers step' start ops) := by
  have hsimulates : ∀ s q op, fifo s = q ∧ q.Bounded → (step' s op).1 = id (q.step (id op)).1 ∧
        fifo (step' s op).2 = (q.step (id op)).2 ∧ (q.step (id op)).2.Bounded := by
    rintro s _ op ⟨rfl, hs⟩
    have heq := hstep s hs op
    exact ⟨congrArg Prod.fst heq, congrArg Prod.snd heq, hs.step op⟩
  obtain ⟨hanswers, hfifo, hend⟩ := answers_of_simulates hsimulates ⟨hstart, Nat.zero_le _⟩ ops
  simp only [map_id] at hanswers hfifo hend
  rw [← hfifo] at hend
  have hlast := hstep _ hend
  refine ⟨Prod.ext hanswers hfifo, hend, ?_, fun item hopen hheld => ?_, fun item => ?_⟩
  · rw [hanswers, hfifo]
    exact items_conserved (.new capacity) ops
  · refine (congrArg Prod.fst (hlast (.pushHeld item))).trans ?_
    simp [step, hopen, Nat.ne_of_gt hheld]
  obtain ⟨hanswer, hafter⟩ := Prod.ext_iff.1 (hlast (.push item))
  rw [step] at hanswer hafter
  split_ifs at hanswer hafter
  · exact .inr ⟨by simpa using .inr hanswer, hinj _ _ hafter⟩
  · exact .inr ⟨by simpa using .inl hanswer, hinj _ _ hafter⟩
  · exact .inl hanswer

end

end Fifo

end Tina.Lib
