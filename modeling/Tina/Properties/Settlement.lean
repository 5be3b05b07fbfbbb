import Tina.Runtime.Scripted
import Tina.Spec.Reachable

/-!
An isolate call ends once. Replies, rejections, deferred replies, deadlines, cancellation,
the stop of the owner and shutdown all race to end it; whichever comes first takes it out of
the call table, and the others find nothing.
-/

namespace Tina

open Lib List Tina.Runtime

variable {h : Host} {s t : Runtime h} {kind : Kind} {callId : CallId}

/-- A handle of this shard that is not pending was moved to its state by an event. -/
def HandlesMoved (s : Runtime h) : Prop :=
  ∀ handle, (s.handles handle).shardId = some s.shardId → (s.handles handle).state ≠ .pending →
    .handleMoved handle (s.handles handle).state ∈ s.history

namespace HandlesMoved

theorem frame (hs : HandlesMoved s) (hhandles : t.handles = s.handles)
    (hshard : t.shardId = s.shardId) (hmem : ∀ happening ∈ s.history, happening ∈ t.history) :
    HandlesMoved t := by
  intro handle hstamped hstate
  rw [hhandles] at hstamped hstate ⊢
  rw [hshard] at hstamped
  exact hmem _ (hs handle hstamped hstate)

/-- A stamp changes no state, and an unstamped handle is pending. -/
theorem stamp (hs : HandlesMoved s) {handle : Option HandleId}
    (hpending : ∀ id, handle = some id → (s.handles id).state = .pending) :
    HandlesMoved (s.stamp handle callId) := by
  intro id hstamped hstate
  simp only [Runtime.stamp] at hstamped hstate ⊢
  split at hstate
  · rename_i heq
    exact absurd (hpending id heq.symm) hstate
  rename_i hne
  rw [if_neg hne] at hstamped ⊢
  exact hs id hstamped hstate

theorem move (hs : HandlesMoved s) {handles : List HandleId} {state : CallHandleState}
    {happenings : List (Happening h)}
    (hmoved : ∀ handle ∈ handles, .handleMoved handle state ∈ happenings) :
    HandlesMoved ((s.moveHandles handles state).logAll happenings) := by
  intro handle hstamped hstate
  simp only [moveHandles, logAll] at hstamped hstate ⊢
  split
  · rename_i hmem
    exact mem_append_right _ (hmoved handle hmem)
  rename_i hmem
  rw [if_neg hmem] at hstamped hstate
  exact mem_append_left _ (hs handle hstamped hstate)

end HandlesMoved

theorem Act.keeps_handlesMoved (hact : Act kind s t) (hcalls : Calls s)
    (hs : HandlesMoved s) : HandlesMoved t := by
  have hmem : ∀ happening ∈ s.history, happening ∈ t.history := fun _ hmem => hact.appends.mem hmem
  by_cases hkind : kind = .call
  · subst hkind
    cases hact with
    | opened _ hopenable | openedLocally _ _ hopenable =>
      exact (hs.stamp fun id heq =>
        hcalls.unstamped id (hopenable.2.2.2 id heq).1).frame rfl rfl hmem
    | refused _ _ _ hopenable =>
      refine (hs.stamp fun id heq => hcalls.unstamped id (hopenable.2.2.2 id heq).1).move ?_
      intro id hid
      exact mem_append_left _ (mem_handleEvents.2 ⟨id, Option.mem_toList.1 hid, rfl⟩)
    | completed _ table _ ring evictions slots =>
      refine .move (s := { s with
        callTable := table, cancelledCalls := ring, cancelledCallCauseEvictions := evictions
        promotedSlots := slots }) (hs.frame rfl rfl fun _ => id) ?_
      intro id hid
      exact mem_append_left _ (mem_handleEvents.2 ⟨id, Option.mem_toList.1 hid, rfl⟩)
    | cancelled _ table _ ring evictions slots =>
      refine .move (s := { s with
        callTable := table, cancelledCalls := ring, cancelledCallCauseEvictions := evictions
        promotedSlots := slots }) (hs.frame rfl rfl fun _ => id) ?_
      intro id hid
      obtain ⟨call, hcall, hshared⟩ := mem_filterMap.1 hid
      refine mem_flatMap.2 ⟨call, hcall, mem_append_left _ ?_⟩
      exact mem_handleEvents.2 ⟨id, hshared, rfl⟩
    | foreignHandle handle _ _ hafter =>
      intro id hstamp hstate
      by_cases heq : id = handle
      · exact absurd (by simpa [heq] using hstamp) hafter
      · simp only [if_neg heq] at hstamp hstate ⊢
        exact hs id hstamp hstate
    | _ => exact hs.frame rfl rfl hmem
  · exact hs.frame (hact.callState_eq hkind).2.1 hact.fixed.2 hmem

/-- Every path that could end the call `callId` finds that it has ended. Replies, rejections,
deferred replies, dropped slots and replies from other shards all go through
`completeIsolateCall`. -/
structure Runtime.FindsEnded (s : Runtime h) (callId : CallId) : Prop where
  complete : ∀ outcome, completeIsolateCall callId outcome s = .ok (false, s)
  expire : expireIsolateCall callId s = .ok ((), s)
  cancel : ∀ handle, (s.handles handle).callId = some callId →
    ∃ outcome, cancelOutcome handle s = .ok (outcome, s)
  ownerStop : ∀ owner generation,
    ∀ call ∈ (s.callTable.takeIsolateCallsForOwner owner generation).1, call.callId ≠ callId
  shutdown : ∀ call ∈ s.callTable.drainIsolate.1, call.callId ≠ callId

theorem removeIsolateCall_of_not_pending (hpending : ¬ s.Pending callId) :
    removeIsolateCall callId s = .ok (none, s) := by
  have hnone : s.callTable.isolate[callId]? = none := not_not.1 hpending
  have hremove : s.callTable.removeIsolate callId = none := by
    simp [CallTable.removeIsolate, hnone]
  refine (run_bind_of_ok (t := s) rfl).trans ?_
  rw [hremove]
  rfl

theorem cancelOutcome_of_not_pending (hs : Consistent s) {handle : HandleId}
    (hpending : ¬ s.Pending callId) (hstamp : (s.handles handle).callId = some callId) :
    ∃ outcome, cancelOutcome handle s = .ok (outcome, s) := by
  unfold cancelOutcome
  rw [run_bind_of_ok (x := (get : RuntimeM h _)) (t := s) rfl, hstamp]
  cases hstate : (s.handles handle).state with
  | settled | cancelled => exact ⟨_, rfl⟩
  | pending =>
  split
  · exact ⟨_, rfl⟩
  -- The handle of this shard would belong to a pending call.
  rename_i hshard
  have hcell : s.handles handle = ⟨.pending, some callId, some s.shardId⟩ := by
    rw [← hstate, ← hstamp, ← not_not.1 hshard]
  obtain ⟨_, hcall, -⟩ := hs.handles handle callId hcell
  exact absurd (show s.Pending callId by simp [Pending, hcall]) hpending

theorem findsEnded_of_not_pending (hs : Consistent s)
    (hpending : ¬ s.Pending callId) : s.FindsEnded callId where
  complete _ := (run_bind_of_ok (removeIsolateCall_of_not_pending hpending)).trans rfl
  expire := (run_bind_of_ok (removeIsolateCall_of_not_pending hpending)).trans rfl
  cancel _ := cancelOutcome_of_not_pending hs hpending
  ownerStop owner generation call hcall := by
    rintro rfl
    have hkeys : ∀ (id : CallId) call, s.callTable.isolate[id]? = some call → call.callId = id :=
      fun id call hfound => (hs.calls.pending id call hfound).1
    have hfound := (takeIsolateCalls_spec s.callTable _ hkeys).1 call hcall
    exact hpending (by simp [Pending, hfound])
  shutdown call hcall := by
    rintro rfl
    obtain ⟨⟨id, found⟩, hmem, rfl⟩ := mem_map.1 hcall
    have hfound := Std.TreeMap.mem_toList_iff_getElem?_eq_some.1 hmem
    rw [← (hs.calls.pending id found hfound).1] at hfound
    exact hpending (by simp [Pending, hfound])

/-- Every isolate call has ended at most once, every handle has moved at most once, and the handle
of a call that has ended has moved. -/
structure SettlesOnce (s : Runtime h) : Prop where
  endsOnce : s.history.Pairwise fun x y => ∀ callId, x.Ends callId → ¬ y.Ends callId
  movesOnce : s.history.Pairwise fun x y => ∀ handle, x.Moves handle → ¬ y.Moves handle
  /-- A call in the table has no outcome yet, nor has its handle a terminal state. -/
  pending : ∀ (callId : CallId) call, s.callTable.isolate[callId]? = some call →
    ¬ s.Ended callId ∧ ∀ handle, call.handleShared = some handle →
      (s.handles handle).state = .pending ∧ ∀ happening ∈ s.history, ¬ happening.Moves handle
  /-- A handle of this shard is not pending because it was moved. -/
  moved : ∀ handle, (s.handles handle).shardId = some s.shardId →
    (s.handles handle).state ≠ .pending →
    .handleMoved handle (s.handles handle).state ∈ s.history
  /-- The handle that was stamped with a call has left `Pending` when the call has ended. -/
  left : ∀ callId handle, s.Ended callId → (s.handles handle).callId = some callId →
    (s.handles handle).shardId = some s.shardId → (s.handles handle).state ≠ .pending
  ended : ∀ callId, s.Ended callId → s.FindsEnded callId

/-- In every run, every isolate call is settled at most once, and every later attempt to settle it
leaves the whole state as it is. Its handle leaves `Pending` exactly once: it is pending while the
call is in the table, it has left when the call has ended, and it leaves only by a recorded move, of
which there is never a second one. A run is any sequence of the operations of one shard, with any
isolates, and with replies, rejections, deadlines, cancellations, stops and shutdown in any
order. -/
theorem isolate_calls_settle_once (hs : Reachable s) : SettlesOnce s := by
  have hconsistent := hs.consistent
  have hcalls := hconsistent.calls
  have hmoved : HandlesMoved s := by
    refine hs.induct (fun _ _ _ _ _ handle hstamped _ => ?_)
      fun _ _ _ hact hs hmoved => hact.keeps_handlesMoved hs.calls hmoved
    cases hstamped
  have hnot : ∀ callId, s.Ended callId → ¬ s.Pending callId := by
    intro callId hended hpending
    obtain ⟨call, hcall⟩ := hpending.exists_call
    exact (hcalls.pending callId call hcall).2.2 hended
  refine ⟨hcalls.endsOnce, hcalls.movesOnce, fun callId call hcall => ?_, hmoved,
    fun callId handle hended hstamp hshard hstate => ?_,
    fun callId hended => findsEnded_of_not_pending hconsistent (hnot callId hended)⟩
  · refine ⟨(hcalls.pending callId call hcall).2.2, fun handle hshared => ?_⟩
    have hstate : (s.handles handle).state = .pending := by
      rw [hcalls.stamped callId call handle hcall hshared]
    exact ⟨hstate, hcalls.unmoved handle (.inl hstate)⟩
  -- A pending handle of this shard has its call in the table, where no ended call is.
  · have hcell : s.handles handle = ⟨.pending, some callId, some s.shardId⟩ := by
      rw [← hstate, ← hstamp, ← hshard]
    obtain ⟨_, hcall, -⟩ := hconsistent.handles handle callId hcell
    exact hnot callId hended (by simp [Pending, hcall])

/-- Isolate 2 calls isolate 1, which replies. -/
def callerScript : Script
  | 2, 1 => some (.io (.isolateCall
      { targetSystem := 1, targetShard := 0, targetIsolate := 1, targetGeneration := 0
        message := 9 } 10 (fun _ => 77) 0 (some 0)))
  | 1, 9 => some (.reply 5)
  | _, _ => some .noop

/-- A call that got its reply, and whose handle is settled, settles once. -/
theorem replied_call_settles_once : ∃ s : Runtime callerScript.host, Reachable s ∧
    (s.handles 0).state = .settled ∧ SettlesOnce s := by
  obtain ⟨s, hs, hrun⟩ := callerScript.exists_reachable 0
    [.registerWithCapacity 1 4, .registerWithCapacity 2 4, .trySend (scriptAddress 0 2) 1,
      .step, .step] (fun s => (s.handles 0).state = .settled) (by decide +kernel)
  exact ⟨s, hs, of_decide_eq_true hrun, isolate_calls_settle_once hs⟩

/-- In every reachable state, what the runtime keeps in the name of a local caller belongs to a call
that is pending or has ended, calls in flight carry what calls were started with, and a pending
handle of this shard has its call in the table. -/
theorem callers_backed (hs : Reachable s) : Contexts s ∧ InFlight s ∧ HandlesBacked s :=
  ⟨hs.consistent.contexts, hs.consistent.inFlight, hs.consistent.handles⟩

/-- The call waits in the mailbox of isolate 1. -/
theorem callers_backed_of_call : ∃ s : Runtime callerScript.host,
    s.callTable.isolate.size = 1 ∧ Contexts s ∧ InFlight s ∧ HandlesBacked s := by
  obtain ⟨s, hs, hrun⟩ := callerScript.exists_reachable 0
    [.registerWithCapacity 1 4, .registerWithCapacity 2 4, .trySend (scriptAddress 0 2) 1, .step]
    (·.callTable.isolate.size = 1) (by decide +kernel)
  exact ⟨s, of_decide_eq_true hrun, callers_backed hs⟩

end Tina
