import Mathlib.Data.List.Nodup
import Tina.Connect.Attempts
import Tina.Lib.Runs

/-!
The race of the attempts of one connect. There is one winner at most, the caps hold, and a settled
race has one row for each attempt. Its storage for answers is as large as the number of attempts
that may be live, so an attempt that is started in the place of a failed one may find no room for
its answer.
-/

namespace Tina.Connect

open Lib Option CallGroup ConnectAttempts List SocketAddr ConnectPolicy
open Http (CallError)

variable {R : Type}

/-- One connect, with the attempts that were started on it. -/
structure Race (R : Type) where
  attempts : ConnectAttempts R
  started : List (SocketAddr × CallGroupToken)

open Race

inductive Move (R : Type) where
  /-- Take a candidate, if there is one to take, and start it. -/
  | start (handle : HandleId)
  /-- An answer to a started attempt arrives. -/
  | reply (attempt : Nat) (outcome : CallOutcome R) (classify : R → ConnectAttemptOutcome)
  | cancelled (attempt : Nat) (outcome : CancelOutcome)
  | drain

namespace Race

/-- A connect begins with what DNS answered. -/
def begin (policy : ConnectPolicy) (result : Except CallError (List SocketAddr)) :
    Option (Race R) := do
  let attempts ← ConnectAttempts.new policy
  let (attempts, _) ← attempts.recordDns result
  return { attempts, started := [] }

def step (w : Race R) : Move R → Option (Race R)
  | .start handle =>
    match w.attempts.takeCandidate with
    | (attempts, none) => some { w with attempts }
    | (attempts, some addr) => do
      let (attempts, result) ← attempts.start addr handle
      match result with
      | .ok token => return { attempts, started := w.started ++ [(addr, token)] }
      | .error _ => return { w with attempts }
  | .reply attempt outcome classify => do
    let (addr, token) ← w.started[attempt]?
    let (attempts, _) ← w.attempts.recordAttempt addr token outcome classify
    return { w with attempts }
  | .cancelled attempt outcome => do
    let (addr, token) ← w.started[attempt]?
    return { w with attempts := (w.attempts.recordCancel addr token outcome).1 }
  | .drain => some { w with attempts := w.attempts.drainForCancel.1 }

/-- A reply or a cancel outcome is about an attempt that was started. -/
def Available (w : Race R) : Move R → Prop
  | .reply attempt _ _ | .cancelled attempt _ => attempt < w.started.length
  | .start _ | .drain => True

/-- No attempt is started while another is live and the answers stored since the group was last
empty leave no room for one more. -/
def Roomy (w : Race R) : Move R → Prop
  | .start _ => w.attempts.canStart = true → w.attempts.group.entries = [] ∨
      w.attempts.group.branchOutcomes.length + w.attempts.group.entries.length <
        w.attempts.policy.happyEyeballs.maxConcurrentAttempts
  | .reply .. | .cancelled .. | .drain => True

instance (w : Race R) : DecidablePred w.Roomy
  | .start _ => inferInstanceAs (Decidable (_ → _ ∨ _))
  | .reply .. | .cancelled .. | .drain => inferInstanceAs (Decidable True)

end Race

variable {concurrent cap : Nat} {group group' : CallGroup SocketAddr R}
  {candidates : List SocketAddr} {startedTotal : Nat}
  {result : Except (CallGroupRecordReplyError SocketAddr R) (CallGroupReplyStep SocketAddr)}
  {success : Bool}

section

/-- What holds between the group, the candidates and the attempts that were started. -/
structure Kept (concurrent cap : Nat) (group : CallGroup SocketAddr R)
    (candidates : List SocketAddr) (winner : Option SocketAddr) (startedTotal : Nat)
    (log : List SocketAddr) (started : List (SocketAddr × CallGroupToken)) : Prop where
  capacity : group.capacity = concurrent
  reserved : group.reservedTokens = []
  total : startedTotal = started.length
  budget : started.length + candidates.length ≤ cap
  generation : group.nextGeneration = started.length + 1
  distinct : (started.map Prod.fst ++ candidates).Nodup
  live : ∀ entry ∈ group.entries, (entry.key, entry.token) ∈ started
  slots : group.entries.length + group.expectedCancels.length ≤ group.capacity
  resting : group.raceState ≠ .collecting → group.entries = []
  calm : group.raceState ≠ .cancellingLosers → group.expectedCancels = []
  decided : group.raceState = .cancellingLosers → winner.isSome = true ∨ candidates = []
  once : log.Nodup
  accounted : ∀ addr ∈ started.map Prod.fst, addr ∈ group.entries.map (·.key) ∨
    addr ∈ group.expectedCancels.map (·.key) ∨ addr ∈ log

def ConnectAttempts.rows (attempts : ConnectAttempts R) : List SocketAddr :=
  attempts.attemptsLog.map (·.addr)

def ConnectAttempts.Kept (concurrent cap : Nat) (attempts : ConnectAttempts R)
    (started : List (SocketAddr × CallGroupToken)) : Prop :=
  Tina.Connect.Kept concurrent cap attempts.group attempts.candidates attempts.winner
    attempts.startedTotal attempts.rows started

variable {winner winner' : Option SocketAddr}
  {rows rows' : List SocketAddr} {started : List (SocketAddr × CallGroupToken)}
  {addr : SocketAddr} {token : CallGroupToken}

namespace Kept

section

variable (h : Kept concurrent cap group candidates winner startedTotal rows started)

include h

/-- A row is added, and a winner may be found. -/
theorem row (hwinner : winner.isSome = true → winner'.isSome = true) (hrows : rows'.Nodup)
    (hmore : ∀ addr ∈ rows, addr ∈ rows') :
    Kept concurrent cap group candidates winner' startedTotal rows' started :=
  { h with
    decided := fun hstate => (h.decided hstate).imp_left hwinner
    once := hrows
    accounted := fun addr hmem => (h.accounted addr hmem).imp_right fun hrest =>
      hrest.imp_right (hmore addr) }

/-- A recorded reply. Unless it is refused, the address has its row. -/
theorem recorded (hrecorded : group.Recorded addr token success group' result)
    (hwon : success = true → winner.isSome = true)
    (hrow : (∃ step, result = .ok step) → addr ∈ rows) :
    Kept concurrent cap group' candidates winner startedTotal rows started := by
  cases hrecorded with
  | late => exact { h with }
  | refused => exact h
  | won pos _ _ _ _ hsuccess hstate hentry =>
    have hperm := perm_cons_swapRemove hentry
    have hlength := hperm.length_eq
    have hnone := h.calm (by simp [hstate])
    have hslots := h.slots
    refine { h with
      live := by simp
      slots := ?slots
      resting := fun _ => rfl
      calm := ?calm
      decided := fun _ => .inl (hwon hsuccess)
      accounted := ?accounted }
    case slots =>
      simp only [hnone, nil_append, length_map, length_nil, length_cons] at hlength hslots ⊢
      omega
    case calm =>
      intro hover
      by_cases hlast : swapRemove group.entries pos = []
      · simp [hlast, hnone]
      · simp [hlast] at hover
    case accounted =>
      intro other hother
      rcases h.accounted other hother with hlive | hrest
      · rcases mem_cons.1 ((hperm.map _).mem_iff.1 hlive) with rfl | hloser
        · exact .inr (.inr (hrow ⟨_, rfl⟩))
        refine .inr (.inl ?_)
        simp only [map_append, mem_append, List.map_map]
        exact .inr hloser
      · simp only [hnone, map_nil, not_mem_nil, false_or] at hrest
        exact .inr (.inr hrest)
  | failed pos _ _ _ hstate hentry =>
    have hperm := perm_cons_swapRemove hentry
    have hlength := hperm.length_eq
    have hslots := h.slots
    have hnone := h.calm (by simp [hstate])
    refine { h with
      live := fun entry hmem => h.live entry (mem_of_mem_swapRemove hmem)
      slots := ?slots
      resting := ?resting
      calm := fun _ => hnone
      decided := ?decided
      accounted := ?accounted }
    case slots =>
      simp only [length_cons] at hlength ⊢
      omega
    case resting =>
      intro hover
      by_cases hlast : swapRemove group.entries pos = []
      · exact hlast
      · simp [hlast, hstate] at hover
    case decided =>
      intro hover
      by_cases hlast : swapRemove group.entries pos = [] <;> simp [hlast, hstate] at hover
    case accounted =>
      intro other hother
      rcases h.accounted other hother with hlive | hrest
      · rcases mem_cons.1 ((hperm.map _).mem_iff.1 hlive) with rfl | hloser
        · exact .inr (.inr (hrow ⟨_, rfl⟩))
        · exact .inl hloser
      · exact .inr hrest

/-- A recorded cancel outcome. The address has its row. -/
theorem acknowledged (hdone : group.Acknowledged addr token group') (hrow : addr ∈ rows) :
    Kept concurrent cap group' candidates winner startedTotal rows started := by
  cases hdone with
  | refused => exact h
  | done pos _ hexpected =>
  have hperm := perm_cons_swapRemove hexpected
  have hlength := hperm.length_eq
  have hslots := h.slots
  have hstate : group.raceState = .cancellingLosers := by
    by_contra hother
    simp [h.calm hother] at hexpected
  refine { h with
    slots := ?slots
    resting := fun _ => h.resting (by simp [hstate])
    calm := ?calm
    decided := fun _ => h.decided hstate
    accounted := ?accounted }
  case slots =>
    simp only [length_cons] at hlength ⊢
    omega
  case calm =>
    intro hover
    by_cases hlast : swapRemove group.expectedCancels pos = []
    · exact hlast
    · simp [hlast, hstate] at hover
  case accounted =>
    intro other hother
    rcases h.accounted other hother with hlive | hcancel | hlogged
    · exact .inl hlive
    · rcases mem_cons.1 ((hperm.map _).mem_iff.1 hcancel) with rfl | hloser
      · exact .inr (.inr hrow)
      · exact .inr (.inl hloser)
    · exact .inr (.inr hlogged)

theorem drained :
    Kept concurrent cap group.drainPendingForCancel.1 [] winner startedTotal rows started := by
  have hslots := h.slots
  refine { h with
    budget := Nat.le_trans (Nat.le_add_right _ _) h.budget
    distinct := by
      rw [append_nil]
      exact h.distinct.sublist (sublist_append_left _ _)
    live := by simp [drainPendingForCancel, drainEntriesForCancel]
    slots := ?slots
    resting := fun _ => rfl
    calm := ?calm
    decided := fun _ => .inr rfl
    accounted := ?accounted }
  case slots =>
    simp only [drainPendingForCancel, drainEntriesForCancel, length_append, length_map, length_nil]
    omega
  case calm =>
    intro hover
    simp only [drainPendingForCancel, drainEntriesForCancel] at hover ⊢
    by_cases hnone : group.expectedCancels ++
        group.entries.map (fun entry => (⟨entry.key, entry.token⟩ : ExpectedCancel SocketAddr)) = []
    · exact hnone
    · simp only [List.isEmpty_iff, hnone, and_false, if_false, ne_eq, not_true_eq_false] at hover
  case accounted =>
    intro other hother
    simp only [drainPendingForCancel, drainEntriesForCancel, map_append, mem_append, List.map_map]
    rcases h.accounted other hother with hlive | hcancel | hlogged
    · exact .inr (.inl (.inr hlive))
    · exact .inr (.inl (.inl hcancel))
    · exact .inr (.inr hlogged)

end

variable (h : Kept concurrent cap group (addr :: candidates) none startedTotal rows started)

include h

theorem not_cancelling : group.raceState ≠ .cancellingLosers := by
  intro hstate
  rcases h.decided hstate with hwinner | hnone
  · cases hwinner
  · cases hnone

/-- Before an attempt is started the group collects answers, as a completed race is reset. -/
theorem reset : group.resetCompletedIfEmpty.raceState = .collecting ∧
      group.resetCompletedIfEmpty.expectedCancels = [] := by
  unfold resetCompletedIfEmpty
  split
  · exact ⟨rfl, rfl⟩
  next hnot =>
  refine ⟨?_, h.calm h.not_cancelling⟩
  cases hstate : group.raceState with
  | collecting => rfl
  | cancellingLosers => exact absurd hstate h.not_cancelling
  | complete => exact absurd ⟨by simp [h.resting (by simp [hstate])], hstate⟩ hnot

/-- The next candidate is started. -/
theorem begun (handle : HandleId) (hroom : group.entries.length < concurrent)
    (hcount : started.length + 2 < 2 ^ 64) :
    ∃ group', group.startCancelable addr handle = some (group', .ok ⟨group.nextGeneration⟩) ∧
      group' = { group.resetCompletedIfEmpty with
        entries := group.entries ++ [⟨addr, ⟨group.nextGeneration⟩, handle⟩]
        nextGeneration := group.nextGeneration + 1 } ∧
      Kept concurrent cap group' candidates none (startedTotal + 1) rows
        (started ++ [(addr, ⟨group.nextGeneration⟩)]) := by
  obtain ⟨hcollecting, hnone⟩ := h.reset
  have hsame : group.resetCompletedIfEmpty.entries = group.entries ∧
      group.resetCompletedIfEmpty.capacity = group.capacity ∧
      group.resetCompletedIfEmpty.reservedTokens = group.reservedTokens ∧
      group.resetCompletedIfEmpty.nextGeneration = group.nextGeneration := by
    unfold resetCompletedIfEmpty
    split <;> exact ⟨rfl, rfl, rfl, rfl⟩
  obtain ⟨hentries, hcapacity, hreserved, hgeneration⟩ := hsame
  have hfresh : addr ∉ started.map Prod.fst := by
    intro hmem
    exact (nodup_append.1 h.distinct).2.2 addr hmem addr mem_cons_self rfl
  have hkey : ¬ (group.resetCompletedIfEmpty.entries.any (·.key = addr)) = true := by
    rw [hentries, List.any_eq_true]
    rintro ⟨entry, hmem, hsame⟩
    rw [← of_decide_eq_true hsame] at hfresh
    exact hfresh (mem_map.2 ⟨_, h.live entry hmem, rfl⟩)
  have hslot : ¬ group.resetCompletedIfEmpty.isFull = true := by
    simp [isFull, hentries, hcapacity, hreserved, h.capacity, h.reserved, hroom]
  refine ⟨_, ?_, rfl, ?_⟩
  · have htoken : group.nextGeneration + 1 < 2 ^ 64 := by
      rw [h.generation]
      omega
    unfold startCancelable
    rw [if_neg hkey, if_neg hslot]
    simp only [nextToken, hgeneration, htoken, if_true, hentries]
    rfl
  have hbudget := h.budget
  have hdistinct := h.distinct
  constructor
  case capacity => exact hcapacity.trans h.capacity
  case reserved => exact hreserved.trans h.reserved
  case total => simp [h.total]
  case budget =>
    simp only [length_append, length_cons, length_nil] at hbudget ⊢
    omega
  case generation => simp [h.generation]
  case distinct => simpa using hdistinct
  case live =>
    intro entry hentry
    simp only [mem_append, mem_singleton] at hentry ⊢
    rcases hentry with hold | rfl
    · exact .inl (h.live entry hold)
    · exact .inr rfl
  case slots =>
    simp only [hnone, hcapacity, h.capacity, length_append, length_cons, length_nil]
    omega
  case resting => exact fun hother => absurd hcollecting hother
  case calm => exact fun _ => hnone
  case decided =>
    intro hstate
    rw [hcollecting] at hstate
    cases hstate
  case once => exact h.once
  case accounted =>
    intro other hother
    simp only [map_append, mem_append] at hother ⊢
    rcases hother with hold | hnew
    · rcases h.accounted other hold with hlive | hcancel | hlogged
      · exact .inl (.inl hlive)
      · simp [h.calm h.not_cancelling] at hcancel
      · exact .inr (.inr hlogged)
    · exact .inl (.inr hnew)

end Kept

end

section

variable {winner : Option SocketAddr}
  {rows : List SocketAddr} {started : List (SocketAddr × CallGroupToken)}
  {addr : SocketAddr} {token : CallGroupToken} {outcome : CallGroupBranchOutcome SocketAddr R}

/-- The cancelled branches that have not answered. -/
def unanswered (group : CallGroup SocketAddr R) : List (ExpectedCancel SocketAddr) :=
  group.expectedCancels.filter (!group.hasOutcome ·.token)

/-- There is room for the answers of all branches that may still answer. -/
structure Roomed (group : CallGroup SocketAddr R) : Prop where
  storage : group.branchOutcomes.length + group.entries.length + (unanswered group).length ≤
    group.capacity
  opening : group.raceState = .collecting → group.entries = [] → group.branchOutcomes = []

theorem hasOutcome_append {other : CallGroupToken} :
    ({ group with branchOutcomes := group.branchOutcomes ++ [outcome] } :
      CallGroup SocketAddr R).hasOutcome other =
        (group.hasOutcome other || decide (outcome.token = other)) := by
  simp [hasOutcome, Bool.or_comm]

theorem unanswered_le (group : CallGroup SocketAddr R) :
    (unanswered group).length ≤ group.expectedCancels.length :=
  length_filter_le _ _

namespace Roomed

/-- A cancelled branch that answers leaves one fewer to answer. -/
theorem unanswered_lt (hawaits : group.awaitsCancel addr token = true)
    (hfirst : group.hasOutcome token = false) (htoken : outcome.token = token) :
    (unanswered { group with branchOutcomes := group.branchOutcomes ++ [outcome] }).length <
      (unanswered group).length := by
  obtain ⟨expected, hmem, hmatch⟩ := any_eq_true.1 hawaits
  simp only [Bool.and_eq_true, decide_eq_true_eq] at hmatch
  have hsplit : unanswered { group with branchOutcomes := group.branchOutcomes ++ [outcome] } =
      (unanswered group).filter fun other => !decide (outcome.token = other.token) := by
    simp only [unanswered, hasOutcome_append, List.filter_filter, Bool.not_or]
    simp only [Bool.and_comm]
  rw [hsplit]
  apply length_filter_lt_length_iff_exists.2
  refine ⟨expected, mem_filter.2 ⟨hmem, ?_⟩, ?_⟩
  · simp [hmatch.2, hfirst]
  · simp [hmatch.2, htoken]

variable (h : Roomed group)

include h

theorem recorded (hkept : Kept concurrent cap group candidates winner startedTotal rows started)
    (hrecorded : group.Recorded addr token success group' result) : Roomed group' := by
  have hstorage := h.storage
  cases hrecorded with
  | late outcome hstate hawaits hfirst htoken =>
    have hfewer := unanswered_lt hawaits hfirst htoken
    refine ⟨?_, fun hcollecting => absurd hcollecting hstate⟩
    simp only [length_append, length_singleton]
    omega
  | refused => exact h
  | won pos _ _ _ _ _ hstate hentry =>
    have hlength := (perm_cons_swapRemove hentry).length_eq
    have hnone := hkept.calm (by simp [hstate])
    refine ⟨?_, fun hcollecting => ?_⟩
    · refine Nat.le_trans (Nat.add_le_add_left (unanswered_le _) _) ?_
      simp only [hnone, nil_append, length_append, length_map, length_nil, length_cons] at hlength ⊢
      omega
    · by_cases hlast : swapRemove group.entries pos = [] <;> simp [hlast] at hcollecting
  | failed pos _ _ _ hstate hentry =>
  have hlength := (perm_cons_swapRemove hentry).length_eq
  have hnone := hkept.calm (by simp [hstate])
  refine ⟨?_, fun hcollecting hempty => ?_⟩
  · refine Nat.le_trans (Nat.add_le_add_left (unanswered_le _) _) ?_
    simp only [hnone, length_append, length_nil, length_cons] at hlength ⊢
    omega
  · simp [show swapRemove group.entries pos = [] from hempty] at hcollecting

theorem acknowledged (hdone : group.Acknowledged addr token group') : Roomed group' := by
  cases hdone with
  | refused => exact h
  | done pos _ hexpected =>
  have hstorage := h.storage
  have hperm := (perm_cons_swapRemove hexpected).filter fun expected =>
    !group.hasOutcome expected.token
  have hfewer : ((swapRemove group.expectedCancels pos).filter fun expected =>
      !group.hasOutcome expected.token).length ≤ (unanswered group).length := by
    rw [unanswered, hperm.length_eq]
    exact ((sublist_cons_self _ _).filter _).length_le
  refine ⟨?_, fun hcollecting hempty => ?_⟩
  · exact Nat.le_trans (Nat.add_le_add_left hfewer _) hstorage
  refine h.opening ?_ hempty
  by_cases hlast : group.raceState = .cancellingLosers ∧ swapRemove group.expectedCancels pos = []
  · simp [hlast] at hcollecting
  · simpa [hlast] using hcollecting

theorem drained : Roomed group.drainPendingForCancel.1 := by
  have hstorage := h.storage
  constructor
  case storage =>
    have hsplit : (unanswered group.drainPendingForCancel.1).length ≤
        (unanswered group).length + group.entries.length := by
      simp only [unanswered, drainPendingForCancel, drainEntriesForCancel,
        hasOutcome, filter_append, length_append]
      refine Nat.add_le_add_left (Nat.le_trans (length_filter_le _ _) ?_) _
      exact Nat.le_of_eq (length_map _)
    simp only [drainPendingForCancel, drainEntriesForCancel, length_nil] at hsplit ⊢
    omega
  case opening =>
    intro hcollecting
    simp only [drainPendingForCancel] at hcollecting
    split at hcollecting <;> cases hcollecting

/-- A branch that may answer finds room. -/
theorem recordReply_isSome (outcome : CallOutcome R) (isSuccess : R → Bool) :
    (group.recordReply addr token outcome isSuccess).isSome = true := by
  have hstorage := h.storage
  apply CallGroup.recordReply_isSome
  · intro _ hlive
    have := length_pos_of_ne_nil hlive
    omega
  intro _ hawaits hfirst
  obtain ⟨expected, hmem, hmatch⟩ := any_eq_true.1 hawaits
  simp only [Bool.and_eq_true, decide_eq_true_eq] at hmatch
  have hwaiting : expected ∈ unanswered group := mem_filter.2 ⟨hmem, by simp [hmatch.2, hfirst]⟩
  have := length_pos_of_mem hwaiting
  omega

/-- An attempt is started with room for its answer. -/
theorem begun
    (hkept : Kept concurrent cap group (addr :: candidates) none startedTotal rows started)
    (hroom : group.entries = [] ∨
      group.branchOutcomes.length + group.entries.length < group.capacity)
    (hcapacity : 0 < group.capacity) (handle : HandleId) :
    Roomed ({ group.resetCompletedIfEmpty with
      entries := group.entries ++ [⟨addr, ⟨group.nextGeneration⟩, handle⟩]
      nextGeneration := group.nextGeneration + 1 } : CallGroup SocketAddr R) := by
  have hnone := hkept.reset.2
  have hcollecting := hkept.reset.1
  have hstored : group.resetCompletedIfEmpty.branchOutcomes.length + group.entries.length <
      group.resetCompletedIfEmpty.capacity := by
    unfold resetCompletedIfEmpty at hcollecting ⊢
    split
    · next hreset => simpa [isEmpty_iff.1 hreset.1] using hcapacity
    next hreset =>
    rw [if_neg hreset] at hcollecting
    rcases hroom with hempty | hfree
    · simpa [h.opening hcollecting hempty, hempty] using hcapacity
    · exact hfree
  constructor
  case storage =>
    refine Nat.le_trans (Nat.add_le_add_left (unanswered_le _) _) ?_
    simp only [hnone, length_append, length_cons, length_nil]
    omega
  case opening => simp

end Roomed

end

section

variable {a a' : ConnectAttempts R}
  {started : List (SocketAddr × CallGroupToken)} {addr : SocketAddr} {token : CallGroupToken}

/-- The rows after an outcome was recorded for an address. -/
def ConnectAttempts.logged (a : ConnectAttempts R) (addr : SocketAddr)
    (outcome : ConnectAttemptOutcome) : List ConnectAttemptReport :=
  if a.attemptsLog.any fun row => row.addr = addr then a.attemptsLog
  else a.attemptsLog ++ [.new addr outcome]

theorem ConnectAttempts.recordTerminal_eq (a : ConnectAttempts R) (addr : SocketAddr)
    (outcome : ConnectAttemptOutcome) :
    a.recordTerminal addr outcome = { a with attemptsLog := a.logged addr outcome } := by
  unfold recordTerminal logged
  split <;> rfl

/-- The address has its row, no other row goes, and none is doubled. -/
theorem ConnectAttempts.logged_rows (h : a.rows.Nodup) (addr : SocketAddr)
    (outcome : ConnectAttemptOutcome) :
    ((a.logged addr outcome).map (·.addr)).Nodup ∧
      (∀ other ∈ a.rows, other ∈ (a.logged addr outcome).map (·.addr)) ∧
      addr ∈ (a.logged addr outcome).map (·.addr) := by
  unfold logged
  split
  · next hthere =>
    obtain ⟨row, hmem, hrow⟩ := any_eq_true.1 hthere
    exact ⟨h, fun _ => id, mem_map.2 ⟨row, hmem, of_decide_eq_true hrow⟩⟩
  next hnew =>
  have hfresh : addr ∉ a.rows := by
    intro hmem
    obtain ⟨row, hrow, heq⟩ := mem_map.1 hmem
    exact hnew (any_eq_true.2 ⟨row, hrow, decide_eq_true heq⟩)
  simp only [map_append, map_cons, map_nil, ConnectAttemptReport.new]
  refine ⟨?_, fun other hother => mem_append_left _ hother, by simp⟩
  exact nodup_append_comm.2 (nodup_cons.2 ⟨hfresh, h⟩)

/-- A reply to an attempt. -/
theorem ConnectAttempts.recordAttempt_kept {outcome : CallOutcome R}
    {classify : R → ConnectAttemptOutcome} {step : ConnectStep} (h : a.Kept concurrent cap started)
    (hrun : a.recordAttempt addr token outcome classify = some (a', step)) :
    a'.Kept concurrent cap started ∧ (Roomed a.group → Roomed a'.group) ∧ a'.policy = a.policy ∧
      ∀ winner, a.winner = some winner → a'.winner = some winner := by
  unfold recordAttempt at hrun
  split at hrun
  · next =>
    obtain ⟨⟨group, result⟩, hreply, heq⟩ := bind_eq_some_iff.1 hrun
    have hrecorded := recordReply_recorded hreply
    have hfailed : succeeded outcome (fun _ => false) = false := by
      cases outcome <;> rfl
    obtain ⟨honce, hmore, hrow⟩ := a.logged_rows h.once addr .lateCompletion
    rw [hfailed] at hrecorded
    simp only [recordTerminal_eq] at heq
    cases heq
    refine ⟨?_, (·.recorded h hrecorded), rfl, fun _ => id⟩
    exact (h.row id honce hmore).recorded hrecorded (by simp) fun _ => hrow
  next hopen =>
  obtain ⟨⟨group, result⟩, hreply, heq⟩ := bind_eq_some_iff.1 hrun
  have hrecorded := recordReply_recorded hreply
  have hundecided : ∀ winner, a.winner ≠ some winner := by
    intro winner hwinner
    simp [hwinner] at hopen
  cases result with
  | ok =>
    simp only [recordTerminal_eq] at heq
    by_cases hconnected : (typedOutcome outcome classify).isConnected = true
    · -- a success, also one that arrives while the attempts are being cancelled
      obtain ⟨honce, hmore, hrow⟩ := a.logged_rows h.once addr .connected
      rw [if_pos hconnected] at heq
      cases heq
      refine ⟨?_, (·.recorded h hrecorded), rfl,
        fun winner hwinner => absurd hwinner (hundecided winner)⟩
      have hwon : Tina.Connect.Kept concurrent cap a.group a.candidates (some addr)
          a.startedTotal ((a.logged addr .connected).map (·.addr)) started :=
        h.row (fun _ => rfl) honce hmore
      exact hwon.recorded hrecorded (fun _ => rfl) fun _ => hrow
    · obtain ⟨honce, hmore, hrow⟩ := a.logged_rows h.once addr (typedOutcome outcome classify)
      rw [if_neg hconnected] at heq
      have hfailed : succeeded outcome
          (fun _ => (typedOutcome outcome classify).isConnected) ≠ true := by
        cases outcome <;> simp [succeeded, typedOutcome] at hconnected ⊢
        exact hconnected
      have hkept := (h.row id honce hmore).recorded hrecorded
        (absurd · hfailed) fun _ => hrow
      split at heq <;> cases heq <;>
        exact ⟨hkept, (·.recorded h hrecorded), rfl, fun _ => id⟩
  | error =>
  cases heq
  cases hrecorded
  exact ⟨h, id, rfl, fun _ => id⟩

theorem ConnectAttempts.recordAttempt_isSome (h : Roomed a.group) (addr : SocketAddr)
    (token : CallGroupToken) (outcome : CallOutcome R)
    (classify : R → ConnectAttemptOutcome) :
    (a.recordAttempt addr token outcome classify).isSome = true := by
  unfold recordAttempt
  dsimp only
  split
  · obtain ⟨⟨group, result⟩, hreply⟩ :=
      isSome_iff_exists.1 (Roomed.recordReply_isSome h outcome fun _ => false)
    rw [hreply]
    rfl
  obtain ⟨⟨group, result⟩, hreply⟩ := isSome_iff_exists.1
    (h.recordReply_isSome outcome fun _ => (typedOutcome outcome classify).isConnected)
  rw [hreply]
  cases result with
  | ok =>
    simp only [bind_eq_bind, bind_some]
    split
    · rfl
    · split <;> rfl
  | error => rfl

theorem ConnectAttempts.recordCancel_kept (outcome : CancelOutcome)
    (h : a.Kept concurrent cap started) :
    (a.recordCancel addr token outcome).1.Kept concurrent cap started ∧
      (Roomed a.group → Roomed (a.recordCancel addr token outcome).1.group) ∧
      (a.recordCancel addr token outcome).1.policy = a.policy ∧
      (a.recordCancel addr token outcome).1.winner = a.winner := by
  have hdone := a.group.recordCancel_acknowledged addr token outcome
  obtain ⟨honce, hmore, hrow⟩ := a.logged_rows h.once addr .cancelled
  have hkept := (h.row id honce hmore).acknowledged hdone hrow
  unfold recordCancel
  simp only [recordTerminal_eq]
  split <;> split <;> exact ⟨hkept, (·.acknowledged hdone), rfl, rfl⟩

namespace Race

variable {w w' : Race R}

/-- The books of a connect, and the room for its answers. -/
structure Sound (policy : ConnectPolicy) (cap : Nat) (w : Race R) : Prop where
  under : w.attempts.policy = policy
  kept : w.attempts.Kept policy.happyEyeballs.maxConcurrentAttempts cap w.started
  roomed : Roomed w.attempts.group

variable {policy : ConnectPolicy}

section

variable (h : w.Sound policy cap) (hconcurrent : 0 < policy.happyEyeballs.maxConcurrentAttempts)
  (hfew : cap + 1 < 2 ^ 64)

include h hconcurrent hfew

/-- The next candidate is started, if one may be. -/
theorem Sound.start {handle : HandleId} (hroomy : w.Roomy (.start handle)) :
    ∃ w', w.step (.start handle) = some w' ∧ w'.Sound policy cap ∧
      w'.attempts.winner = w.attempts.winner := by
  by_cases hcan : w.attempts.canStart = true
  · cases hcandidates : w.attempts.candidates with
    | nil => simp [canStart, hcandidates] at hcan
    | cons addr candidates =>
    have hready := hcan
    simp only [canStart, Bool.and_eq_true, isNone_iff_eq_none,
      decide_eq_true_eq, Bool.not_eq_true'] at hready
    obtain ⟨⟨⟨⟨⟨hwinner, -⟩, -⟩, -⟩, hlive⟩, -⟩ := hready
    have hkept := h.kept
    rw [ConnectAttempts.Kept, hcandidates, hwinner] at hkept
    have hbudget := hkept.budget
    have hroom := hroomy hcan
    rw [h.under] at hlive hroom
    obtain ⟨group, hstart, hgroup, hkept'⟩ := hkept.begun handle hlive (by
      simp only [length_cons] at hbudget
      omega)
    have hroomed := h.roomed.begun hkept (by rwa [hkept.capacity]) (by rwa [hkept.capacity]) handle
    rw [← hgroup] at hroomed
    refine ⟨{
      attempts :=
        { w.attempts with candidates, group, startedTotal := w.attempts.startedTotal + 1 }
      started := w.started ++ [(addr, ⟨w.attempts.group.nextGeneration⟩)] }, ?_,
      ⟨h.under, ?_, hroomed⟩, rfl⟩
    · simp [step, takeCandidate, hcan, hcandidates, ConnectAttempts.start, hstart]
    · rw [← hwinner] at hkept'
      exact hkept'
  · exact ⟨w, by simp [step, takeCandidate, hcan], h, rfl⟩

/-- What one move does. -/
theorem Sound.step {move : Move R} (hroomy : w.Roomy move) (hstep : w.step move = some w') :
    w'.Sound policy cap ∧
      ∀ winner, w.attempts.winner = some winner → w'.attempts.winner = some winner := by
  cases move with
  | start =>
    obtain ⟨after, hrun, hsound, hwinner⟩ := h.start hconcurrent hfew hroomy
    obtain rfl : after = w' := some.inj (hrun.symm.trans hstep)
    exact ⟨hsound, fun _ => hwinner.trans⟩
  | reply =>
    obtain ⟨⟨addr, token⟩, -, hrest⟩ := bind_eq_some_iff.1 hstep
    obtain ⟨⟨attempts, step⟩, hrecord, heq⟩ := bind_eq_some_iff.1 hrest
    cases heq
    obtain ⟨hkept, hroomed, hunder, hwinner⟩ := recordAttempt_kept h.kept hrecord
    exact ⟨⟨hunder.trans h.under, hkept, hroomed h.roomed⟩, hwinner⟩
  | cancelled _ outcome =>
    obtain ⟨⟨addr, token⟩, -, heq⟩ := bind_eq_some_iff.1 hstep
    cases heq
    obtain ⟨hkept, hroomed, hunder, hwinner⟩ :=
      recordCancel_kept outcome h.kept
    exact ⟨⟨hunder.trans h.under, hkept, hroomed h.roomed⟩, fun _ => hwinner.trans⟩
  | drain =>
    cases hstep
    exact ⟨⟨h.under, h.kept.drained, h.roomed.drained⟩, fun _ => id⟩

end

/-- A settled race has no live attempt, and none that is being cancelled. -/
theorem Sound.settled (h : w.Sound policy cap) (hsettled : w.attempts.isSettled = true) :
    ∀ attempt ∈ w.started, w.attempts.report.attempted.countP (·.addr = attempt.1) = 1 := by
  have hcomplete : w.attempts.group.raceState = .complete := by
    simp only [isSettled, reportReady, Bool.and_eq_true, decide_eq_true_eq] at hsettled
    exact hsettled.2
  have hentries := h.kept.resting (by simp [hcomplete])
  have hexpected := h.kept.calm (by simp [hcomplete])
  intro attempt hattempt
  have hrow : attempt.1 ∈ w.attempts.rows := by
    have haccounted := h.kept.accounted attempt.1 (mem_map_of_mem hattempt)
    simpa [hentries, hexpected] using haccounted
  have hcount := count_eq_one_of_mem h.kept.once hrow
  rw [rows, count, countP_map] at hcount
  simpa [report, Function.comp_def, Bool.beq_eq_decide_eq] using hcount

/-- The addresses are reordered and cut. -/
theorem orderAddresses_spec (policy : ConnectPolicy) {addrs : List SocketAddr}
    (hdistinct : addrs.Nodup) :
    (policy.orderAddresses addrs).Nodup ∧ (policy.orderAddresses addrs).length ≤ addrs.length := by
  have hcut {ordered : List SocketAddr} (hperm : ordered.Perm addrs) (n : Nat) :
      (ordered.take n).Nodup ∧ (ordered.take n).length ≤ addrs.length := by
    constructor
    · exact (hperm.nodup_iff.2 hdistinct).sublist (take_sublist _ _)
    · rw [← hperm.length_eq]
      exact length_take_le' _ _
  have hsplit : (addrs.filter isIpv6 ++ addrs.filter isIpv4).Perm addrs := by
    have hother : isIpv4 = fun addr => !addr.isIpv6 := by
      funext addr
      cases addr <;> rfl
    simpa [hother] using filter_append_perm isIpv6 addrs
  unfold orderAddresses
  cases policy.addressFamily with
  | preserveOrder => exact hcut (.refl _) _
  | ipv6First => exact hcut hsplit _
  | ipv4First => exact hcut (perm_append_comm.trans hsplit) _

/-- The candidates are the first addresses of the answer, in the order of the policy. -/
theorem begin_sound (hconcurrent : 0 < policy.happyEyeballs.maxConcurrentAttempts)
    {addrs : List SocketAddr} (hdistinct : addrs.Nodup) :
    ∃ w : Race R, begin policy (.ok addrs) = some w ∧
      w.Sound policy (min policy.maxTotalAttempts addrs.length) := by
  obtain ⟨hordered, hlength⟩ := orderAddresses_spec policy hdistinct
  have hmax : max policy.happyEyeballs.maxConcurrentAttempts 1 =
      policy.happyEyeballs.maxConcurrentAttempts := by omega
  obtain ⟨taken, htaken⟩ : ∃ taken,
      (policy.orderAddresses addrs).take policy.effectiveAttemptCap = taken := ⟨_, rfl⟩
  have htake : taken.length ≤ policy.effectiveAttemptCap := htaken ▸ length_take_le _ _
  have hshort : taken.length ≤ addrs.length :=
    htaken ▸ Nat.le_trans (length_take_le' _ _) hlength
  have hcap : policy.effectiveAttemptCap ≤ policy.maxTotalAttempts := Nat.min_le_right _ _
  have hbounded : boundedItems (max policy.effectiveAttemptCap 1) taken = some taken :=
    if_neg (by omega)
  obtain ⟨w, hbegin⟩ : ∃ w : Race R, begin policy (.ok addrs) = some w := by
    simp [begin, new, withCapacity, hmax, hconcurrent, recordDns, htaken, hbounded]
  refine ⟨w, hbegin, ?_⟩
  simp [begin, new, withCapacity, hmax, hconcurrent, recordDns, htaken, hbounded] at hbegin
  subst hbegin
  refine ⟨rfl, ?_, Nat.zero_le _, fun _ _ => rfl⟩
  constructor
  case budget =>
    change 0 + taken.length ≤ _
    omega
  case distinct => exact hordered.sublist (htaken ▸ take_sublist _ _)
  case slots => exact Nat.zero_le _
  all_goals simp [rows]

end Race

theorem ConnectPolicy.concurrent_pos {policy : ConnectPolicy} (hvalid : policy.validate = .ok ()) :
    0 < policy.happyEyeballs.maxConcurrentAttempts := by
  by_contra hzero
  have hnone : policy.happyEyeballs.maxConcurrentAttempts = 0 := by omega
  simp only [validate, hnone] at hvalid
  split at hvalid
  · cases hvalid
  · split at hvalid <;> cases hvalid

/-- In a connect in which an attempt is started only when there is room for its answer, no assertion
fires, the caps hold, the first winner stays the winner, and a settled race has one row for each
attempt. Attempts answer, time out and are cancelled in any order. The bound on the answer is that
of a vector. -/
theorem connect_race {policy : ConnectPolicy} (hvalid : policy.validate = .ok ())
    {addrs : List SocketAddr} (hdistinct : addrs.Nodup) (hlength : addrs.length < 2 ^ 63) :
    ∃ first : Race R, Race.begin policy (.ok addrs) = some first ∧
      ∀ w, Run Race.step Race.Roomy first w →
        (∀ move, w.Available move → w.Roomy move → (w.step move).isSome = true) ∧
        w.started.length ≤ policy.maxTotalAttempts ∧
        w.attempts.group.entries.length + w.attempts.group.expectedCancels.length ≤
          policy.happyEyeballs.maxConcurrentAttempts ∧
        (∀ winner w', w.attempts.winner = some winner → Run Race.step Race.Roomy w w' →
          w'.attempts.winner = some winner) ∧
        (w.attempts.isSettled = true → ∀ attempt ∈ w.started,
          w.attempts.report.attempted.countP (·.addr = attempt.1) = 1) := by
  have hconcurrent := concurrent_pos hvalid
  obtain ⟨first, hbegin, hfirst⟩ := begin_sound hconcurrent hdistinct
  have hfew : min policy.maxTotalAttempts addrs.length + 1 < 2 ^ 64 := by omega
  refine ⟨first, hbegin, fun w hrun => ?_⟩
  have h : w.Sound policy (min policy.maxTotalAttempts addrs.length) :=
    hrun.invariant hfirst fun _ _ _ h hroomy hstep => (h.step hconcurrent hfew hroomy hstep).1
  refine ⟨?_, ?_, ?_, ?_, h.settled⟩
  · intro move havailable hroomy
    cases move with
    | start =>
      obtain ⟨w', hstep, -⟩ := h.start hconcurrent hfew hroomy
      rw [hstep]
      rfl
    | reply attempt outcome classify =>
      obtain ⟨⟨addr, token⟩, hpair⟩ : ∃ pair, w.started[attempt]? = some pair :=
        ⟨_, getElem?_eq_getElem havailable⟩
      obtain ⟨⟨attempts, step⟩, hrecord⟩ := isSome_iff_exists.1
        (recordAttempt_isSome h.roomed addr token outcome classify)
      simp [Race.step, hpair, hrecord]
    | cancelled => simp [Race.step, getElem?_eq_getElem havailable]
    | drain => rfl
  · have hbudget := h.kept.budget
    omega
  · rw [← h.kept.capacity]
    exact h.kept.slots
  · intro winner w' hwinner hrun'
    have hboth : w'.Sound policy (min policy.maxTotalAttempts addrs.length) ∧
        w'.attempts.winner = some winner := by
      refine hrun'.invariant (I := fun w : Race R =>
        w.Sound policy (min policy.maxTotalAttempts addrs.length) ∧
          w.attempts.winner = some winner) ⟨h, hwinner⟩ fun _ _ _ hboth hroomy hstep => ?_
      obtain ⟨hsound, hkeep⟩ := hboth.1.step hconcurrent hfew hroomy hstep
      exact ⟨hsound, hkeep winner hboth.2⟩
    exact hboth.2

/-- Three addresses under the balanced policy, with two attempts at a time. The first attempt fails
and the third takes its place; when the second has failed too, there is no room for the answer of
the third. -/
theorem replaced_attempt_panics : ConnectPolicy.balanced.validate = .ok () ∧
    ∃ (first w : Race Unit),
      Race.begin ConnectPolicy.balanced (.ok [.v4 1 80, .v4 2 80, .v4 3 80]) = some first ∧
      Run Race.step (fun _ _ => True) first w ∧
      w.Available (.reply 2 .timeout fun _ => .connectIo) ∧
      w.step (.reply 2 .timeout fun _ => .connectIo) = none := by
  refine ⟨by decide, ?_⟩
  obtain ⟨first, hfirst⟩ : ∃ first : Race Unit,
      begin balanced (.ok [.v4 1 80, .v4 2 80, .v4 3 80]) = some first := ⟨_, rfl⟩
  obtain ⟨w, hrun, hw⟩ := exists_run step (fun _ _ => True) first
    [.start 1, .start 2, .reply 0 .timeout fun _ => .connectIo, .start 3,
      .reply 1 .timeout fun _ => .connectIo]
    (fun w => 2 < w.started.length ∧ (w.step (.reply 2 .timeout fun _ => .connectIo)).isNone = true)
    (by cases hfirst; decide)
  obtain ⟨havailable, hnone⟩ := of_decide_eq_true hw
  exact ⟨first, w, hfirst, hrun, havailable, isNone_iff_eq_none.1 hnone⟩

/-- Two attempts, the second of which wins. -/
theorem connect_race_of_two :
    ∃ w : Race Unit, w.attempts.winner = some (.v4 2 80) ∧ w.attempts.isSettled = true ∧
      ∀ attempt ∈ w.started, w.attempts.report.attempted.countP (·.addr = attempt.1) = 1 := by
  have hvalid : ConnectPolicy.balanced.validate = .ok () := by decide
  have hdistinct : [SocketAddr.v4 1 80, .v4 2 80].Nodup := by decide
  obtain ⟨first, hfirst, hall⟩ := connect_race (R := Unit) hvalid hdistinct (by decide)
  obtain ⟨w, hrun, hw⟩ := exists_run step Roomy first
    [.start 1, .start 2, .reply 0 .timeout fun _ => .connectIo,
      .reply 1 (.replied ()) fun _ => .connected]
    (fun w => w.attempts.winner = some (.v4 2 80) ∧ w.attempts.isSettled = true)
    (by cases hfirst; decide)
  obtain ⟨hwinner, hsettled⟩ := of_decide_eq_true hw
  exact ⟨w, hwinner, hsettled, (hall w hrun).2.2.2.2 hsettled⟩

end

end Tina.Connect
