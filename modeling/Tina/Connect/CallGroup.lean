import Tina.Lib.SwapRemove
import Tina.Runtime.Types

/-!
A group of named calls that race for the first success. The storage for what the branches answered
has as many places as the group has slots for live branches.
-/

namespace Tina.Connect

open List Option

open Lib (swapRemove)

structure CallGroupToken where
  generation : Nat
deriving DecidableEq

structure Entry (K : Type) where
  key : K
  token : CallGroupToken
  handle : HandleId

structure ExpectedCancel (K : Type) where
  key : K
  token : CallGroupToken

inductive RaceState where
  | collecting
  | cancellingLosers
  | complete
deriving DecidableEq

structure CallGroupCancelRequest (K : Type) where
  key : K
  token : CallGroupToken
  handle : HandleId

structure CallGroupBranchOutcome (K R : Type) where
  key : K
  token : CallGroupToken
  outcome : CallOutcome R
  classifiedSuccess : Bool

structure CallGroupCancelOutcome (K : Type) where
  key : K
  token : CallGroupToken
  outcome : CancelOutcome

inductive CallGroupStartError (K : Type) where
  | full (key : K)
  | duplicateKey (key : K)

inductive CallGroupRecordReplyError (K R : Type) where
  | unknownToken (key : K) (token : CallGroupToken) (outcome : CallOutcome R)
  | keyMismatch (key : K) (token : CallGroupToken) (outcome : CallOutcome R)
  | raceAlreadyWon (key : K) (token : CallGroupToken) (outcome : CallOutcome R)

inductive CallGroupRecordCancelError (K : Type) where
  | unexpectedCancel (key : K) (token : CallGroupToken) (outcome : CancelOutcome)
  | storageFull (key : K) (token : CallGroupToken) (outcome : CancelOutcome)

structure CallGroupReplyStep (K : Type) where
  cancelLosers : List (CallGroupCancelRequest K)
  reportReady : Bool

structure CallGroup (K R : Type) where
  entries : List (Entry K)
  reservedTokens : List CallGroupToken
  expectedCancels : List (ExpectedCancel K)
  capacity : Nat
  nextGeneration : Nat
  branchOutcomes : List (CallGroupBranchOutcome K R)
  cancelOutcomes : List (CallGroupCancelOutcome K)
  raceState : RaceState

namespace CallGroup

variable {K R : Type} [DecidableEq K]

/-- `none` is the panic on a group without slots. -/
def withCapacity (capacity : Nat) : Option (CallGroup K R) :=
  if 0 < capacity then
    some
      { entries := []
        reservedTokens := []
        expectedCancels := []
        capacity
        nextGeneration := 1
        branchOutcomes := []
        cancelOutcomes := []
        raceState := .collecting }
  else none

def isFull (group : CallGroup K R) : Bool :=
  group.capacity ≤ group.entries.length + group.reservedTokens.length

def reportReady (group : CallGroup K R) : Bool :=
  group.raceState = .complete

/-- The generation counter is a `u64`; `none` is the panic when it is exhausted. -/
def nextToken (group : CallGroup K R) : Option (CallGroup K R × CallGroupToken) :=
  if group.nextGeneration + 1 < 2 ^ 64 then
    some ({ group with nextGeneration := group.nextGeneration + 1 }, ⟨group.nextGeneration⟩)
  else none

def resetCompletedIfEmpty (group : CallGroup K R) : CallGroup K R :=
  if group.entries.isEmpty = true ∧ group.raceState = .complete then
    { group with
      branchOutcomes := []
      cancelOutcomes := []
      expectedCancels := []
      raceState := .collecting }
  else group

/-- Reserve a token, and keep the branch under it. The effect that is returned to the caller is the
call with that token; `handle` is the handle it is cancelled by. -/
def startCancelable (group : CallGroup K R) (key : K) (handle : HandleId) :
    Option (CallGroup K R × Except (CallGroupStartError K) CallGroupToken) :=
  let group := group.resetCompletedIfEmpty
  if group.entries.any fun entry => entry.key = key then some (group, .error (.duplicateKey key))
  else if group.isFull then some (group, .error (.full key))
  else do
    -- the reservation is taken and given back within the call
    let (group, token) ← group.nextToken
    some ({ group with entries := group.entries ++ [⟨key, token, handle⟩] }, .ok token)

def drainEntriesForCancel (group : CallGroup K R) :
    CallGroup K R × List (CallGroupCancelRequest K) :=
  ({ group with
      entries := []
      expectedCancels :=
        group.expectedCancels ++ group.entries.map fun entry => ⟨entry.key, entry.token⟩ },
    group.entries.map fun entry => ⟨entry.key, entry.token, entry.handle⟩)

/-- Store what a branch answered; `none` is the assertion about the fixed capacity. -/
def pushOutcome (group : CallGroup K R) (outcome : CallGroupBranchOutcome K R) :
    Option (CallGroup K R) :=
  if group.branchOutcomes.length < group.capacity then
    some { group with branchOutcomes := group.branchOutcomes ++ [outcome] }
  else none

def awaitsCancel (group : CallGroup K R) (key : K) (token : CallGroupToken) : Bool :=
  group.expectedCancels.any fun expected => expected.key = key && expected.token = token

def hasOutcome (group : CallGroup K R) (token : CallGroupToken) : Bool :=
  group.branchOutcomes.any (·.token = token)

def succeeded (outcome : CallOutcome R) (isSuccess : R → Bool) : Bool :=
  match outcome with
  | .replied reply => isSuccess reply
  | .full | .closed | .timeout | .rejected _ => false

/-- The first success ends the race; so does the last failure. -/
def concludeReply (group : CallGroup K R) (classifiedSuccess : Bool) :
    CallGroup K R × CallGroupReplyStep K :=
  if classifiedSuccess then
    let (group, cancelLosers) := group.drainEntriesForCancel
    ({ group with raceState := if cancelLosers.length = 0 then .complete else .cancellingLosers },
      { cancelLosers, reportReady := cancelLosers.length = 0 })
  else
    let group := if group.entries.isEmpty then { group with raceState := .complete } else group
    (group, { cancelLosers := [], reportReady := group.reportReady })

def recordReply (group : CallGroup K R) (key : K) (token : CallGroupToken) (outcome : CallOutcome R)
    (isSuccess : R → Bool) :
    Option (CallGroup K R × Except (CallGroupRecordReplyError K R) (CallGroupReplyStep K)) :=
  if group.raceState ≠ .collecting then
    if group.awaitsCancel key token = true ∧ group.hasOutcome token = false then do
      let group ← group.pushOutcome { key, token, outcome, classifiedSuccess := false }
      some (group, .ok { cancelLosers := [], reportReady := group.reportReady })
    else some (group, .error (.raceAlreadyWon key token outcome))
  else
    match group.entries.findIdx? fun entry => entry.token = token with
    | none => some (group, .error (.unknownToken key token outcome))
    | some pos => do
      let entry ← group.entries[pos]?
      if entry.key ≠ key then some (group, .error (.keyMismatch key token outcome))
      else
        let classifiedSuccess := succeeded outcome isSuccess
        let group ← { group with entries := swapRemove group.entries pos }.pushOutcome
          { key := entry.key, token, outcome, classifiedSuccess }
        let (group, step) := group.concludeReply classifiedSuccess
        some (group, .ok step)

def recordCancel (group : CallGroup K R) (key : K) (token : CallGroupToken)
    (outcome : CancelOutcome) :
    CallGroup K R × Except (CallGroupRecordCancelError K) Bool :=
  match group.expectedCancels.findIdx? fun expected =>
    expected.key = key && expected.token = token with
  | none => (group, .error (.unexpectedCancel key token outcome))
  | some pos =>
    if group.capacity ≤ group.cancelOutcomes.length then
      (group, .error (.storageFull key token outcome))
    else
      let group :=
        { group with
          expectedCancels := swapRemove group.expectedCancels pos
          cancelOutcomes := group.cancelOutcomes ++ [⟨key, token, outcome⟩] }
      let group :=
        if group.raceState = .cancellingLosers ∧ group.expectedCancels.isEmpty = true then
          { group with raceState := .complete }
        else group
      (group, .ok group.reportReady)

def drainPendingForCancel (group : CallGroup K R) :
    CallGroup K R × List (CallGroupCancelRequest K) :=
  let (group, drained) := group.drainEntriesForCancel
  ({ group with
      raceState :=
        if drained.isEmpty = true ∧ group.expectedCancels.isEmpty = true then .complete
        else .cancellingLosers },
    drained)

variable {group group' : CallGroup K R} {key : K} {token : CallGroupToken}
  {outcome : CallOutcome R} {isSuccess : R → Bool}

/-- What recording a reply can come to; `success` says whether it counts as a success. -/
inductive Recorded (group : CallGroup K R) (key : K) (token : CallGroupToken) (success : Bool) :
    CallGroup K R → Except (CallGroupRecordReplyError K R) (CallGroupReplyStep K) → Prop
  /-- A branch that is being cancelled answers for the first time. -/
  | late (outcome : CallGroupBranchOutcome K R) (hstate : group.raceState ≠ .collecting)
      (hawaits : group.awaitsCancel key token = true) (hfirst : group.hasOutcome token = false)
      (htoken : outcome.token = token) (ready : Bool) :
      Recorded group key token success
        { group with branchOutcomes := group.branchOutcomes ++ [outcome] } (.ok ⟨[], ready⟩)
  | refused (error : CallGroupRecordReplyError K R) :
      Recorded group key token success group (.error error)
  /-- The first success: all other branches are to be cancelled. -/
  | won (pos : Nat) (handle : HandleId) (outcome : CallGroupBranchOutcome K R)
      (requests : List (CallGroupCancelRequest K)) (ready : Bool)
      (hsuccess : success = true) (hstate : group.raceState = .collecting)
      (hentry : group.entries[pos]? = some ⟨key, token, handle⟩) :
      Recorded group key token success
        { group with
          entries := []
          expectedCancels := group.expectedCancels ++
            (swapRemove group.entries pos).map fun entry => ⟨entry.key, entry.token⟩
          branchOutcomes := group.branchOutcomes ++ [outcome]
          raceState := if swapRemove group.entries pos = [] then .complete else .cancellingLosers }
        (.ok ⟨requests, ready⟩)
  | failed (pos : Nat) (handle : HandleId) (outcome : CallGroupBranchOutcome K R) (ready : Bool)
      (hstate : group.raceState = .collecting)
      (hentry : group.entries[pos]? = some ⟨key, token, handle⟩) :
      Recorded group key token success
        { group with
          entries := swapRemove group.entries pos
          branchOutcomes := group.branchOutcomes ++ [outcome]
          raceState := if swapRemove group.entries pos = [] then .complete else group.raceState }
        (.ok ⟨[], ready⟩)

theorem recordReply_recorded
    {result : Except (CallGroupRecordReplyError K R) (CallGroupReplyStep K)}
    (hreply : group.recordReply key token outcome isSuccess = some (group', result)) :
    Recorded group key token (succeeded outcome isSuccess) group' result := by
  unfold recordReply at hreply
  split at hreply
  · next hstate =>
    split at hreply
    · next hlate =>
      obtain ⟨middle, hpush, hdone⟩ := bind_eq_some_iff.1 hreply
      unfold pushOutcome at hpush
      split at hpush
      · cases hpush
        cases hdone
        exact .late _ hstate hlate.1 hlate.2 rfl _
      · cases hpush
    · cases hreply
      exact .refused _
  next hstate =>
  have hcollecting : group.raceState = .collecting := not_not.1 hstate
  split at hreply
  · cases hreply
    exact .refused _
  next pos hpos =>
  obtain ⟨entry, hentry, hrest⟩ := bind_eq_some_iff.1 hreply
  split at hrest
  · cases hrest
    exact .refused _
  next hkey =>
  obtain ⟨middle, hpush, hdone⟩ := bind_eq_some_iff.1 hrest
  have htoken : entry.token = token := by
    obtain ⟨_, hfound, -⟩ := findIdx?_eq_some_iff_getElem.1 hpos
    obtain ⟨_, rfl⟩ := List.getElem?_eq_some_iff.1 hentry
    exact of_decide_eq_true hfound
  have hself : group.entries[pos]? = some ⟨key, token, entry.handle⟩ := by
    rw [hentry, ← not_not.1 hkey, ← htoken]
  unfold pushOutcome at hpush
  split at hpush
  · cases hpush
    by_cases hsuccess : succeeded outcome isSuccess = true
    · simp only [concludeReply, hsuccess, if_true, drainEntriesForCancel, length_map,
        length_eq_zero_iff, some.injEq, Prod.mk.injEq] at hdone
      obtain ⟨rfl, rfl⟩ := hdone
      exact .won pos entry.handle _ _ _ hsuccess hcollecting hself
    have hfail : succeeded outcome isSuccess = false := by simpa using hsuccess
    have hfailed (ready : Bool) : Recorded group key token false _ (.ok ⟨[], ready⟩) :=
      .failed pos entry.handle { key := entry.key, token, outcome, classifiedSuccess := false }
        ready hcollecting hself
    rw [hfail]
    simp only [concludeReply, hfail, Bool.false_eq_true, if_false, List.isEmpty_iff] at hdone
    by_cases hlast : swapRemove group.entries pos = []
    · simp only [hlast, if_true] at hdone hfailed
      cases hdone
      exact hfailed _
    · simp only [hlast, if_false] at hdone hfailed
      cases hdone
      exact hfailed _
  · cases hpush

/-- A branch that may answer finds a place for its answer. -/
theorem recordReply_isSome (hlive : group.raceState = .collecting → group.entries ≠ [] →
      group.branchOutcomes.length < group.capacity)
    (hlate : group.raceState ≠ .collecting → group.awaitsCancel key token = true →
      group.hasOutcome token = false → group.branchOutcomes.length < group.capacity) :
    (group.recordReply key token outcome isSuccess).isSome = true := by
  unfold recordReply
  split
  · next hstate =>
    split
    · next hanswer =>
      simp [pushOutcome, hlate hstate hanswer.1 hanswer.2]
    · rfl
  next hstate =>
  have hcollecting : group.raceState = .collecting := not_not.1 hstate
  split
  · rfl
  next _ hpos =>
  obtain ⟨hlt, -⟩ := findIdx?_eq_some_iff_getElem.1 hpos
  have hsome : group.entries ≠ [] := ne_nil_of_length_pos (by omega)
  rw [getElem?_eq_getElem hlt, bind_eq_bind, bind_some]
  split
  · rfl
  · simp [pushOutcome, hlive hcollecting hsome]

/-- What recording a cancel outcome can come to. -/
inductive Acknowledged (group : CallGroup K R) (key : K) (token : CallGroupToken) :
    CallGroup K R → Prop
  | refused : Acknowledged group key token group
  | done (pos : Nat) (cancelOutcomes : List (CallGroupCancelOutcome K))
      (hexpected : group.expectedCancels[pos]? = some ⟨key, token⟩) :
      Acknowledged group key token
        { group with
          expectedCancels := swapRemove group.expectedCancels pos
          cancelOutcomes
          raceState :=
            if group.raceState = .cancellingLosers ∧ swapRemove group.expectedCancels pos = [] then
              .complete
            else group.raceState }

theorem recordCancel_acknowledged (group : CallGroup K R) (key : K) (token : CallGroupToken)
    (outcome : CancelOutcome) :
    Acknowledged group key token (group.recordCancel key token outcome).1 := by
  unfold recordCancel
  split
  · exact .refused
  next pos hpos =>
  split
  · exact .refused
  obtain ⟨hlt, hfound, -⟩ := findIdx?_eq_some_iff_getElem.1 hpos
  have hself : group.expectedCancels[pos]? = some ⟨key, token⟩ := by
    rw [getElem?_eq_getElem hlt]
    simp only [Bool.and_eq_true, decide_eq_true_eq] at hfound
    rw [← hfound.1, ← hfound.2]
  have hdone := Acknowledged.done pos (group.cancelOutcomes ++ [⟨key, token, outcome⟩]) hself
  simp only [List.isEmpty_iff]
  by_cases hlast : group.raceState = .cancellingLosers ∧ swapRemove group.expectedCancels pos = []
  · simp only [hlast, and_self, if_true] at hdone ⊢
    exact hdone
  · simp only [hlast, if_false] at hdone ⊢
    exact hdone

end CallGroup

end Tina.Connect
