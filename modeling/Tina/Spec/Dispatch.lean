import Tina.Spec.Stopping

/-!
Runtime calls as acts: completions that come back from the backend, and the dispatch of a
call that a handler asked for.
-/

namespace Tina

open Lib Ensures CallTable List Kind Steps

variable {h : Host} {s t : Runtime h} {kinds : Kind → Prop}

section

variable {address : RegisteredAddress}

theorem Runtime.entryIndex_some (hs : Registry s) {index : Nat}
    (hindex : s.entryIndex address = some index) :
    address = s.addressOf address.isolate ∧
      ∃ entry, s.entries[index]? = some entry ∧ entry.id = address.isolate := by
  unfold entryIndex at hindex
  split at hindex
  · cases hindex
  rename_i hlocal
  obtain ⟨_, _⟩ := not_or.1 hlocal
  cases hfound : s.entryIndexes address.isolate with
  | none => simp [hfound] at hindex
  | some =>
  obtain ⟨entry, hentry, hid⟩ := hs.entryIndexes_eq_some.1 hfound
  have hzero := hs.generation_eq (mem_of_getElem? hentry)
  simp only [hfound, hentry] at hindex
  split at hindex
  · rename_i hgeneration
    cases hindex
    refine ⟨?_, entry, hentry, hid⟩
    cases address
    simp_all [addressOf]
  · cases hindex

theorem Runtime.entryIndex_none (hs : Registry s) (hlocal : s.Local address)
    (hgeneration : address.generation = 0) (hindex : s.entryIndex address = none) :
    ¬ s.Live address.isolate := by
  rintro ⟨entry, hentry, hid, -⟩
  obtain ⟨_, hposition⟩ := mem_iff_getElem?.1 hentry
  have hfound := hs.entryIndexes_eq_some.2 ⟨entry, hposition, hid⟩
  have hzero := hs.generation_eq hentry
  simp [entryIndex, hlocal.1, hlocal.2, hfound, hposition, hgeneration, hzero] at hindex

end

variable {callId : CallId} {index : Nat}

/-- A continuation that the queues cannot refuse. -/
theorem continue_performs {message : h.Message} {continuationContext : Option MessageCallContext}
    (hqueue : kinds .queue) (hcarried : s.Carried continuationContext) :
    Does kinds (do
      note (.continued callId continuationContext)
      let _ ← enqueueCallContinuation index message continuationContext
      return () : RuntimeM h PUnit) s := by
  have hact := Act.continued callId continuationContext hcarried.2
  unfold Does Performs
  simp only [bind_iff, ensures_note, pure_iff]
  refine mono (enqueueCallContinuation_performs hqueue (hact.known hcarried.1)) ?_
  exact fun _ _ hpost => ⟨(act hact hqueue).trans hpost.1, trivial⟩

section

variable (hkinds : AllowStop kinds) (hs : Consistent s)

include hkinds hs

theorem deliverBackendCompletionAction_performs {head : DriverCallHead}
    {completion : ErasedRuntimeCallCompletion h} (hcarried : s.Carried head.continuationContext)
    (hid : ∀ entry, s.entries[index]? = some entry → entry.id = head.requester.isolate) :
    Does kinds (deliverBackendCompletionAction index head completion) s := by
  cases completion with
  | message =>
    exact continue_performs hkinds.queue hcarried
  | stopRequester =>
    exact ((stopEntryFull_performs hs hid (by simp) (by simp)).weaken
      fun _ hkind => hkind.imp hkinds).mono fun _ _ _ _ => trivial
  | noop => exact .pure trivial

theorem deliverCompletion_performs {result : h.CallOutput} :
    Does kinds (deliverCompletion callId result) s := by
  refine .get_bind ?_
  rcases hremove : s.callTable.removeDriver callId with _ | ⟨call, table⟩
  · exact .pure trivial
  have hsteps := steps_removeDriver hkinds.call hs hremove
  have hcarried := hsteps.carried hs (hs.carried_driver (removeDriver_some hremove).1)
  refine .bind hs (R := fun _ t => t = { s with callTable := table }) ?_ ?_
  · exact (set_iff _).2 ⟨hsteps, rfl⟩
  rintro _ t ht - rfl
  split
  · exact .pure trivial
  · exact .pure trivial
  refine get_bind.2 ?_
  cases hindex : Runtime.entryIndex _ call.head.requester with
  | none => exact Performs.pure trivial
  | some =>
  simp only [bind_iff, ensures_entryAt, ite_iff, pure_iff]
  intro entry hentry
  refine ⟨fun _ => ⟨.refl _, trivial⟩, fun _ => ?_⟩
  obtain ⟨-, found, hfound, hid⟩ := Runtime.entryIndex_some ht.registry hindex
  obtain rfl : found = entry := Option.some.inj (hfound.symm.trans hentry)
  refine deliverBackendCompletionAction_performs hkinds ht hcarried ?_
  refine of_eq_some hfound ?_
  exact hid

theorem purgeCancelledByClose_performs :
    Does kinds (purgeCancelledByClose : RuntimeM h PUnit) s := by
  refine .get_bind ?_
  have hdriver : Steps kinds s { s with driver := (h.takeCancelledByClose s.driver).2 } :=
    .act (.backend _ s.pendingCompletions s.driverCompletionDrainBudget) hkinds.queue
  refine .bind hs (.set hdriver) ?_
  intro _ t ht _ _
  refine .forM ht trivial ?_
  intro callId _ u hu _ _
  have hdropped : Steps kinds u { u with
      pendingCompletions := u.pendingCompletions.filter fun op => op.callId ≠ callId } :=
    .act (.backend u.driver _ u.driverCompletionDrainBudget) hkinds.queue
  refine .bind hu (.modify hdropped) ?_
  intro _ v hv _ _
  unfold cancelInFlightCallForResourceClose Performs
  rw [modify_iff]
  rcases hremove : v.callTable.removeDriver callId with _ | ⟨_, _⟩
  · exact ⟨.refl v, trivial⟩
  · exact ⟨steps_removeDriver hkinds.call hv hremove, trivial⟩

theorem deliverCarriedCompletions_performs {budget : Nat} :
    Does kinds (deliverCarriedCompletions budget : RuntimeM h PUnit) s := by
  induction budget generalizing s with
  | zero => exact .pure trivial
  | succ _ ih =>
  refine .get_bind ?_
  cases s.pendingCompletions with
  | nil => exact .pure trivial
  | cons _ rest =>
  have htaken : Steps kinds s { s with pendingCompletions := rest } :=
    .act (.backend s.driver rest s.driverCompletionDrainBudget) hkinds.queue
  refine .bind hs (.set htaken) ?_
  intro _ t ht _ _
  exact .bind ht (deliverCompletion_performs hkinds ht) fun _ _ hu _ _ => ih hu

theorem advanceDriver_performs {now : Instant} :
    Does kinds (advanceDriver now : RuntimeM h PUnit) s := by
  refine .get_bind ?_
  have hharvested : Steps kinds s { s with
      driver := (h.advance s.driver now).2
      pendingCompletions := s.pendingCompletions ++ (h.advance s.driver now).1 } :=
    .act (.backend _ _ s.driverCompletionDrainBudget) hkinds.queue
  refine .bind hs (.set hharvested) ?_
  intro _ t ht _ _
  exact .bind ht (deliverCarriedCompletions_performs hkinds ht)
    fun _ _ hu _ _ => purgeCancelledByClose_performs hkinds hu

end

section

variable {context : CallDispatchContext} {translator : SendOutcome → h.Message}
  {continuationContext : Option MessageCallContext} {requester : RegisteredAddress}
  {send : ErasedSend h}

@[simp] theorem ensures_nextCallId {Q : CallId → Runtime h → Prop} :
    Ensures nextCallId s Q ↔ Q s.nextCallId { s with nextCallId := s.nextCallId + 1 } := by
  simp [nextCallId]

@[simp] theorem ensures_stampHandle {handle : Option HandleId} {Q : PUnit → Runtime h → Prop} :
    Ensures (stampHandle handle callId) s Q ↔
      ((∀ id, handle = some id → (s.handles id).callId = none ∧ (s.handles id).shardId = none) →
        Q ⟨⟩ (s.stamp handle callId)) := by
  cases handle with
  | none => simp [stampHandle, Runtime.stamp]
  | some =>
  simp only [stampHandle, bind_iff, get_iff, ite_iff,
    throw_iff, implies_true, true_and, set_iff, not_or, ne_eq, not_not,
    Option.some.injEq, forall_eq', Runtime.stamp]

/-- An allocated call id that no call has had yet. -/
def Runtime.Unused (s : Runtime h) (callId : CallId) : Prop :=
  callId < s.nextCallId ∧ ¬ s.Pending callId ∧ ¬ s.Ended callId

open Tina.Runtime

/-- The id that the counter hands out next has no call yet. -/
theorem Consistent.unused (hs : Consistent s) :
    ({ s with nextCallId := s.nextCallId + 1 } : Runtime h).Unused s.nextCallId := by
  refine ⟨Nat.lt_succ_self _, ?_, ?_⟩
  · intro hpending
    obtain ⟨call, hcall⟩ := Option.ne_none_iff_exists'.1 hpending
    exact Nat.lt_irrefl _ (hs.calls.pending _ call hcall).2.1
  · intro hended
    exact Nat.lt_irrefl _ (hs.calls.ended _ hended)

theorem dispatchDriverCall_performs {request : h.CallInput}
    {translator : h.CallOutput → ErasedRuntimeCallCompletion h} (hkinds : AllowStop kinds)
    (hs : Consistent s) (hcarried : s.Carried context.continuationContext) :
    Does kinds (dispatchDriverCall context request translator) s := by
  refine .get_bind ?_
  cases hinsert : s.callTable.insertDriver _ with
  | error => exact .throw
  | ok table =>
  have hsteps : Steps kinds s { s with callTable := table } := by
    unfold insertDriver at hinsert
    split at hinsert
    · cases hinsert
    cases hinsert
    refine .act (.driverCalls _ ?_) hkinds.call
    intro callId call hcall
    rw [Std.TreeMap.getElem?_insert] at hcall
    split at hcall
    · cases hcall
      exact hcarried
    · exact hs.carried_driver hcall
  refine .bind hs (.set hsteps) ?_
  intro _ t ht _ _
  have hsubmitted : Steps kinds t { t with
      clockReads := t.clockReads + 1
      driver := (h.submit t.driver context.callId request (h.clock t.clockReads)).2 } :=
    (act (.clock (t.clockReads + 1) t.nextIsolateCallOrdinal) hkinds.queue).trans
      (.act (.backend _ t.pendingCompletions t.driverCompletionDrainBudget) hkinds.queue)
  unfold Performs
  simp only [bind_iff, ensures_clockNow, get_iff, set_iff]
  have hu := hsubmitted.consistent ht
  cases (h.submit t.driver context.callId request (h.clock t.clockReads)).1 with
  | none =>
    exact mono (purgeCancelledByClose_performs hkinds hu)
      fun _ _ hpost => ⟨hsubmitted.trans hpost.1, trivial⟩
  | some =>
  refine mono (Performs.bind hu (deliverCompletion_performs hkinds hu)
    fun _ _ hv _ _ => purgeCancelledByClose_performs hkinds hv) ?_
  exact fun _ _ hpost => ⟨hsubmitted.trans hpost.1, trivial⟩

theorem deliverObservedSendOutcome_performs {outcome : SendOutcome} (hqueue : kinds .queue)
    (hcarried : s.Carried continuationContext) :
    Does kinds (deliverObservedSendOutcome callId requester outcome translator
      continuationContext) s := by
  unfold deliverObservedSendOutcome Does Performs
  rw [get_bind]
  cases s.entryIndex requester with
  | none => exact Performs.pure trivial
  | some =>
  simp only [bind_iff, ensures_entryAt, ite_iff, ensures_note, pure_iff]
  intro entry _
  exact ⟨fun _ => ⟨.refl s, trivial⟩, fun _ => enqueueContinuation_performs hqueue hcarried⟩

theorem dispatchObservedSend_performs (hqueue : kinds .queue)
    (hnet : kinds .net) (hs : Consistent s) (hcarried : s.Carried context.continuationContext) :
    Does kinds (dispatchObservedSend context send translator) s := by
  unfold dispatchObservedSend Does Performs
  rw [get_bind, ite_iff]
  refine ⟨fun _ => deliverObservedSendOutcome_performs hqueue hcarried, fun _ => ?_⟩
  rw [ite_iff]
  refine ⟨fun _ => Performs.bind hs (dispatchLocalSend_performs hqueue) ?_,
    fun _ => Performs.bind hs (routeRemote_performs hnet (by simp)) ?_⟩
  · intro delivery t _ hsteps _
    exact deliverObservedSendOutcome_performs hqueue (hsteps.carried hs hcarried)
  · intro delivery t _ hsteps _
    exact deliverObservedSendOutcome_performs hqueue (hsteps.carried hs hcarried)

theorem Runtime.Unused.frame (hunused : s.Unused callId) (hframe : CallFrame s t) :
    t.Unused callId :=
  ⟨Nat.lt_of_lt_of_le hunused.1 hframe.next,
    fun hpending => hunused.2.1 ((hframe.pending_iff callId).1 hpending),
    fun hended => hunused.2.2 ((hframe.ended_iff callId).1 hended)⟩

section

variable {translator : CallOutcome h.Message → h.Message} {handle : Option HandleId}
  {timeout : Duration} {expected : TypeId}

theorem refuseIsolateCall_performs {outcome : CallOutcome h.Message} (hqueue : kinds .queue)
    (hcall : kinds .call) (hunused : s.Unused context.callId)
    (hcarried : s.Carried context.continuationContext) :
    Does kinds (refuseIsolateCall context outcome translator handle) s := by
  unfold refuseIsolateCall Does Performs
  simp only [bind_iff, ensures_stampHandle, ensures_setHandleState]
  intro hhandle
  have hact : Act .call s (((s.stamp handle context.callId).moveHandles handle.toList
      .settled).logAll (outcomeEvents context.callId handle outcome)) :=
    .refused _ _ _ ⟨hunused.1, hunused.2.1, hunused.2.2, hhandle⟩
  have hlast : ∀ u : Runtime h, (u.logAll (handleEvents handle .settled)).log
      (.outcomeDelivered context.callId outcome) =
      u.logAll (outcomeEvents context.callId handle outcome) := by
    intro u
    simp [logAll, log, outcomeEvents]
  refine mono (deliverIsolateCallOutcome_spec ?_) ?_
  · rw [hlast]
    exact hact.carried hcarried
  intro _ t hsteps
  rw [hlast] at hsteps
  exact ⟨(act hact hcall).trans (hsteps.weaken fun _ hkind => hkind ▸ hqueue), trivial⟩

/-- The registration of a call that was taken: stamp, deadline and table entry. -/
theorem openIsolateCall_spec {ordinal : Nat} : Ensures (do
      stampHandle handle context.callId
      let now ← clockNow
      let t ← get
      match t.callTable.insertIsolate {
          callId := context.callId, requester := context.requester
          deadline := now + timeout, insertionOrder := ordinal
          continuationContext := context.continuationContext, translator
          expectedReplyTypeId := expected, handleShared := handle } with
      | .error panic => throw panic
      | .ok table => set { t with callTable := table } : RuntimeM h PUnit) s fun _ t =>
        ∃ call : PendingIsolateCall h, call.callId = context.callId ∧ call.handleShared = handle ∧
          call.continuationContext = context.continuationContext ∧
          (∀ id, handle = some id → (s.handles id).callId = none ∧ (s.handles id).shardId = none) ∧
          t = { s with clockReads := s.clockReads + 1 }.openCall call := by
  simp only [bind_iff, ensures_stampHandle, ensures_clockNow, get_iff]
  intro hhandle
  unfold insertIsolate
  split
  · exact (throw_iff _).2 trivial
  rename_i hinsert
  split at hinsert
  · cases hinsert
  cases hinsert
  rw [set_iff]
  exact ⟨_, rfl, rfl, rfl, hhandle, rfl⟩

theorem dispatchIsolateCall_performs (hqueue : kinds .queue)
    (hcall : kinds .call) (hnet : kinds .net) (hs : Consistent s)
    (hunused : s.Unused context.callId) (hcarried : s.Carried context.continuationContext) :
    Does kinds (dispatchIsolateCall context send timeout translator expected handle) s := by
  unfold dispatchIsolateCall Does Performs
  rw [get_bind, ite_iff]
  refine ⟨fun _ => refuseIsolateCall_performs hqueue hcall hunused hcarried, fun _ => ?_⟩
  refine .ite (fun _ => ?_) fun _ => ?_
  · refine bind dispatchLocalSendWithContext_spec ?_
    rintro delivery t (⟨rfl, index, entry, hentry, hopen, hroom, rfl⟩ | ⟨_, rfl, hrefused⟩)
    · -- The message is in the queue; the act is complete once the call is in the table.
      rw [get_bind, bind_iff, set_iff]
      refine mono openIsolateCall_spec ?_
      rintro _ _ ⟨call, hcallId, hshared, hcontext, hhandle, rfl⟩
      have hclock : Steps kinds s { s with
          clockReads := s.clockReads + 1
          nextIsolateCallOrdinal := s.nextIsolateCallOrdinal + 1 } :=
        .act (.clock _ _) hqueue
      refine ⟨hclock.trans ?_, trivial⟩
      rw [← hcallId] at hunused
      rw [← hcontext] at hcarried
      rw [← hcallId]
      subst hshared
      exact .act (.openedLocally (s := { s with
        clockReads := s.clockReads + 1
        nextIsolateCallOrdinal := s.nextIsolateCallOrdinal + 1 }) send.message call
        ⟨hunused.1, hunused.2.1, hunused.2.2, hhandle⟩ hcarried hentry hopen hroom) hcall
    · have hsteps : Steps IsQueue s t := by
        rcases hrefused with rfl | ⟨_, _, _, hentry, hsame, rfl⟩
        · exact .refl t
        · exact steps_sameMailbox (by rfl) hentry hsame
      refine mono (refuseIsolateCall_performs hqueue hcall
        (hunused.frame (hsteps.callFrame hs)) (hsteps.carried hs hcarried)) ?_
      exact fun _ _ hpost =>
        ⟨(hsteps.weaken fun _ hkind => hkind ▸ hqueue).trans hpost.1, trivial⟩
  · refine bind routeRemote_spec ?_
    rintro delivery _ ⟨net, hroute, rfl⟩
    have hact : Act .net s (s.transmit net _) := .routed _ _ _ (by simp) hroute
    generalize s.transmit net _ = u at hact ⊢
    have hrouted : Steps kinds s u := .act hact hnet
    have hunused' := hunused.frame (hact.callFrame (by simp))
    have hcarried' := hact.carried hcarried
    cases delivery with
    | error =>
      exact mono (refuseIsolateCall_performs hqueue hcall hunused' hcarried')
        fun _ _ hpost => ⟨hrouted.trans hpost.1, trivial⟩
    | ok =>
    rw [get_bind, bind_iff, set_iff]
    refine mono openIsolateCall_spec ?_
    rintro _ _ ⟨call, hcallId, hshared, hcontext, hhandle, rfl⟩
    rw [← hcallId] at hunused'
    rw [← hcontext] at hcarried'
    subst hshared
    refine ⟨hrouted.trans (.trans (.act (.clock (u.clockReads + 1)
      (u.nextIsolateCallOrdinal + 1)) hqueue) ?_), trivial⟩
    exact .act (.opened call ⟨hunused'.1, hunused'.2.1, hunused'.2.2, hhandle⟩ hcarried') hcall

end

variable {handle : HandleId}

theorem cancelOutcome_performs (hcall : kinds .call) (hs : Consistent s) :
    Does kinds (cancelOutcome handle : RuntimeM h CancelOutcome) s := by
  refine .get_bind ?_
  dsimp only
  cases hstate : (s.handles handle).state with
  | settled | cancelled => exact .pure trivial
  | pending =>
  cases hid : (s.handles handle).callId with
  | none => exact .pure trivial
  | some callId =>
  refine .ite (fun _ => Performs.pure trivial) fun hshard => ?_
  have hcell : s.handles handle = ⟨.pending, some callId, some s.shardId⟩ := by
    rw [← hstate, ← hid, ← not_not.1 hshard]
  obtain ⟨call, hfound, hshared⟩ := hs.handles handle callId hcell
  refine bind removeIsolateCall_spec ?_
  rintro _ t (⟨rfl, -, rfl⟩ | ⟨found, table, rfl, hremove, rfl⟩)
  · exact Performs.pure trivial
  obtain ⟨hfound', hdriver, htable⟩ := removeIsolate_some hremove
  obtain rfl : call = found := Option.some.inj (hfound.symm.trans hfound')
  obtain ⟨rfl, -, -⟩ := hs.calls.pending callId call hfound
  simp only [bind_iff, ensures_setHandleState]
  refine mono recordCancelledCall_spec ?_
  rintro _ _ ⟨ring, evictions, rfl⟩
  refine mono closeDeferredSlotForCall_spec ?_
  rintro _ _ ⟨slots, hslots, rfl⟩
  rw [ensures_note, pure_iff]
  have hsteps : Steps kinds s (s.endCalls table ring evictions slots
      ([call].filterMap (·.handleShared)) .cancelled
      ([call].flatMap (cancelEvents .callerCancelled))) :=
    .act (.cancelled _ _ _ _ _ _ (by simpa using hfound) (by simp)
      (fun _ _ hmem => hdriver ▸ hmem) (by simpa using htable) hslots) hcall
  refine ⟨?_, trivial⟩
  simpa [endCalls, moveHandles, logAll, log, cancelEvents, hshared] using hsteps

theorem dispatchCancelCall_performs {translator : CancelOutcome → h.Message} (hqueue : kinds .queue)
    (hcall : kinds .call) (hs : Consistent s) (hcarried : s.Carried context.continuationContext) :
    Does kinds (dispatchCancelCall context handle translator) s := by
  refine .bind hs (cancelOutcome_performs hcall hs) ?_
  intro outcome t ht hsteps _
  refine get_bind.2 ?_
  cases t.entryIndex context.requester with
  | none => exact Performs.pure trivial
  | some =>
  refine entryAt_bind fun entry _ => ?_
  rw [ite_iff]
  exact ⟨fun _ => Performs.pure trivial, fun _ =>
    continue_performs hqueue (hsteps.carried hs hcarried)⟩

/-- The start of a runtime call is one act; whatever follows starts no other. -/
theorem dispatchCall_performs {call : ErasedCall h} (hkinds : AllowStop kinds)
    (hnet : kinds .net) (hs : Consistent s) (hknown : s.Known continuationContext) :
    Ensures (dispatchCall call requester continuationContext) s fun _ t =>
      Steps kinds (({ s with nextCallId := s.nextCallId + 1 } : Runtime h).log
        (.callStarted s.nextCallId continuationContext)) t := by
  unfold dispatchCall
  simp only [bind_iff, ensures_nextCallId, ensures_note]
  have hallocated : Act .call s { s with nextCallId := s.nextCallId + 1 } := .allocated
  have hstarted := Act.started (s := { s with nextCallId := s.nextCallId + 1 }) s.nextCallId
    continuationContext
  have hunused := hs.unused.frame (hstarted.callFrame (by simp))
  have ht := hstarted.consistent (hallocated.consistent hs)
  have hcarried : (log _ (.callStarted s.nextCallId continuationContext)).Carried
      continuationContext :=
    ⟨hstarted.known (hallocated.known hknown), mem_filterMap.2 ⟨_,
      mem_append_right s.history (mem_singleton_self _), rfl⟩⟩
  cases call with
  | backend =>
    exact mono (dispatchDriverCall_performs hkinds ht hcarried) fun _ _ hpost => hpost.1
  | observedSend =>
    exact mono (dispatchObservedSend_performs hkinds.queue hnet ht hcarried)
      fun _ _ hpost => hpost.1
  | isolateCall =>
    exact mono (dispatchIsolateCall_performs hkinds.queue hkinds.call hnet ht hunused
      hcarried) fun _ _ hpost => hpost.1
  | cancelCall =>
    exact mono (dispatchCancelCall_performs hkinds.queue hkinds.call ht hcarried)
      fun _ _ hpost => hpost.1

end

end Tina
