import Tina.Spec.Registration

/-!
The ends of isolate calls as acts. Whoever ends a call takes it out of the table, writes
its handle and leaves its ending in the history in one act; the message to the requester
is an ordinary send after it.
-/

namespace Tina

open Lib List Ensures CallTable Std.TreeMap Tina.Runtime Steps

variable {h : Host} {s : Runtime h} {kinds : Kind → Prop} {requester : RegisteredAddress}

namespace CallTable

variable {P : Payload} {table table' : CallTable P} {callId : CallId}

theorem removeIsolate_some {call : PendingIsolateCall P}
    (hremove : table.removeIsolate callId = some (call, table')) :
    table.isolate[callId]? = some call ∧ table'.driver = table.driver ∧
      ∀ id : CallId, table'.isolate[id]? = if id = callId then none else table.isolate[id]? := by
  unfold removeIsolate at hremove
  cases hcall : table.isolate[callId]? with
  | none => simp [hcall] at hremove
  | some =>
  simp only [hcall, Option.some.injEq, Prod.mk.injEq] at hremove
  obtain ⟨rfl, rfl⟩ := hremove
  refine ⟨rfl, rfl, fun id => ?_⟩
  rw [getElem?_erase]
  by_cases heq : id = callId
  · rw [if_pos heq, heq, if_pos Std.ReflCmp.compare_self]
  · rw [if_neg heq, if_neg fun hcmp => heq (Std.LawfulEqCmp.eq_of_compare hcmp).symm]

theorem removeIsolate_none (hremove : table.removeIsolate callId = none) :
    table.isolate[callId]? = none := by
  unfold removeIsolate at hremove
  cases hcall : table.isolate[callId]? with
  | none => rfl
  | some => simp [hcall] at hremove

theorem removeDriver_some {call : DriverCall P}
    (hremove : table.removeDriver callId = some (call, table')) :
    table.driver[callId]? = some call ∧ table' = { table with driver := table'.driver } ∧
      ∀ (id : CallId) found, table'.driver[id]? = some found → table.driver[id]? = some found := by
  unfold removeDriver at hremove
  cases hcall : table.driver[callId]? with
  | none => simp [hcall] at hremove
  | some =>
  simp only [hcall, Option.some.injEq, Prod.mk.injEq] at hremove
  obtain ⟨rfl, rfl⟩ := hremove
  refine ⟨rfl, rfl, fun id other hother => ?_⟩
  rw [getElem?_erase, Option.ite_none_left_eq_some] at hother
  exact hother.2

end CallTable

section

variable {envelope : QueuedRemoteEnvelope h}

/-- The state after envelopes were offered to the transport. -/
def Runtime.transmit (s : Runtime h) (net : h.Net) (events : List (Happening h)) :
    Runtime h :=
  { s with net, history := s.history ++ events }

theorem transmit_transmit {net net' : h.Net} {events events' : List (Happening h)} :
    (s.transmit net events).transmit net' events' = s.transmit net' (events ++ events') := by
  simp [transmit]

theorem transmit_nil : s.transmit s.net [] = s := by
  simp [transmit]

theorem routeRemote_spec : Ensures (routeRemote envelope) s fun answer t =>
    ∃ net, h.route s.net s.shardId envelope = .ok (answer, net) ∧
      t = s.transmit net [.routed envelope answer.isOk] := by
  refine get_bind.2 ?_
  rcases hroute : h.route s.net s.shardId envelope with _ | ⟨_ | _, net⟩
  · exact (throw_iff _).2 trivial
  · simp only [bind_iff, set_iff, ensures_note, pure_iff]
    exact ⟨net, rfl, rfl⟩
  · simp only [bind_iff, set_iff, ensures_note, pure_iff]
    exact ⟨net, rfl, rfl⟩

theorem routeRemote_performs (hnet : kinds .net)
    (hrequest : ∀ request, envelope ≠ .spawnRequest request) :
    Performs kinds (routeRemote envelope) s fun answer t =>
      ∃ net, h.route s.net s.shardId envelope = .ok (answer, net) ∧
        t = s.transmit net [.routed envelope answer.isOk] := by
  refine .of_ensures routeRemote_spec ?_
  rintro answer t ⟨net, hroute, rfl⟩
  exact ⟨.act (.routed envelope answer net hrequest hroute) hnet, net, hroute, rfl⟩

end

section

variable {send : ErasedSend h} {callContext : Option MessageCallContext}

/-- A local send is accepted with its context, or leaves the queues as they are. -/
theorem dispatchLocalSendWithContext_spec :
    Ensures (dispatchLocalSendWithContext send callContext) s fun result t =>
      (result = .ok () ∧ ∃ index entry, s.entries[index]? = some entry ∧
        entry.mailbox.IsOpen ∧ entry.mailbox.HasRoom ∧
        t = (s.putEntry index (entry.accept send.message callContext)).log
          (.accepted entry.id send.message callContext)) ∨
      (∃ reason, result = .error reason ∧ (t = s ∨ ∃ index entry mailbox,
        s.entries[index]? = some entry ∧ entry.mailbox.SameMailbox mailbox ∧
        t = s.putEntry index { entry with mailbox })) := by
  unfold dispatchLocalSendWithContext
  simp only [bind_iff, get_iff, ite_iff, pure_iff, throw_iff, implies_true, true_and]
  refine ⟨fun _ => .inr ⟨_, rfl, .inl trivial⟩, fun _ _ => ?_⟩
  cases s.entryIndexes send.targetIsolate with
  | none => exact .pure (.inr ⟨_, rfl, .inl rfl⟩)
  | some index =>
  simp only [bind_iff, ensures_entryAt, ite_iff, pure_iff]
  intro found hfound
  refine ⟨fun _ => .inr ⟨_, rfl, .inl trivial⟩, fun _ => ?_⟩
  refine mono enqueueEntryMessage_spec ?_
  rintro _ t ⟨entry, hentry, ⟨rfl, hopen, hroom, rfl⟩ | ⟨error, mailbox, rfl, hsame, rfl⟩⟩
  · exact .pure (.inl ⟨rfl, index, entry, hentry, hopen, hroom, rfl⟩)
  · cases error <;> exact (pure_iff _).2
      (.inr ⟨_, rfl, .inr ⟨index, entry, mailbox, hentry, hsame, rfl⟩⟩)

theorem dispatchLocalSendWithContext_performs (hqueue : kinds .queue)
    (hknown : s.Known callContext) :
    Does kinds (dispatchLocalSendWithContext send callContext) s := by
  refine .of_ensures dispatchLocalSendWithContext_spec ?_
  rintro _ t (⟨-, index, entry, hentry, hopen, hroom, rfl⟩ |
    ⟨_, -, rfl | ⟨_, _, _, hentry, hsame, rfl⟩⟩)
  · exact ⟨steps_accept hqueue hentry hopen hroom hknown, trivial⟩
  · exact ⟨.refl t, trivial⟩
  · exact ⟨steps_sameMailbox hqueue hentry hsame, trivial⟩

theorem dispatchLocalSend_performs (hqueue : kinds .queue) :
    Does kinds (dispatchLocalSend send) s :=
  dispatchLocalSendWithContext_performs hqueue known_none

end

section

variable {outcome : CallOutcome h.Message} {state : CallHandleState}
  {continuationContext : Option MessageCallContext} {table : CallTable h}
  {slots : List DeferredSlotRecord}

@[simp] theorem ensures_setHandleState {handle : Option HandleId} {Q : PUnit → Runtime h → Prop} :
    Ensures (setHandleState handle state) s Q ↔
      Q ⟨⟩ ((s.moveHandles handle.toList state).logAll (handleEvents handle state)) := by
  cases handle with
  | none => simp [setHandleState, moveHandles, logAll, handleEvents]
  | some =>
    simp [setHandleState, moveHandles, logAll, log, handleEvents]

/-- A continuation is offered to the queues with the context its call was started with. -/
theorem enqueueContinuation_performs {index : Nat} {message : h.Message} (hqueue : kinds .queue)
    (hcarried : s.Carried continuationContext) :
    Ensures (enqueueEntryMessage index message continuationContext)
      (s.log (.continued callId continuationContext)) fun _ t => Steps kinds s t ∧ True := by
  have hact := Act.continued callId continuationContext hcarried.2
  refine mono (enqueueEntryMessage_performs hqueue (hact.known hcarried.1)) ?_
  exact fun _ _ hpost => ⟨(act hact hqueue).trans hpost.1, trivial⟩

/-- The outcome is in the history before the requester's queue is looked at. -/
theorem deliverIsolateCallOutcome_spec {translator : CallOutcome h.Message → h.Message}
    (hcarried : (s.log (.outcomeDelivered callId outcome)).Carried continuationContext) :
    Ensures (deliverIsolateCallOutcome callId requester outcome translator
      continuationContext) s fun _ t =>
        Steps Kind.IsQueue (s.log (.outcomeDelivered callId outcome)) t := by
  unfold deliverIsolateCallOutcome
  simp only [bind_iff, ensures_note, get_iff]
  cases entryIndex _ requester with
  | none => exact .pure (.refl _)
  | some =>
  simp only [bind_iff, ensures_entryAt, ite_iff, ensures_note, pure_iff]
  intro entry hentry
  refine ⟨fun _ => .refl _, fun _ => ?_⟩
  have hqueue : Kind.IsQueue .queue := rfl
  exact mono (enqueueContinuation_performs hqueue hcarried) fun _ _ hpost => hpost.1

theorem removeIsolateCall_spec : Ensures (removeIsolateCall callId : RuntimeM h _) s fun result t =>
      (result = none ∧ ¬ s.Pending callId ∧ t = s) ∨
      (∃ call table, result = some call ∧ s.callTable.removeIsolate callId = some (call, table) ∧
        t = { s with callTable := table }) := by
  refine get_bind.2 ?_
  rcases hremove : s.callTable.removeIsolate callId with _ | ⟨call, table⟩
  · refine .pure (.inl ⟨rfl, ?_, rfl⟩)
    simp [Pending, removeIsolate_none hremove]
  · simp only [bind_iff, set_iff, pure_iff]
    exact .inr ⟨call, table, rfl, rfl, rfl⟩

/-- The table without one call, as far as isolate calls go. -/
theorem pending_without {ring : List (CallId × CancelCause)} {evictions : Nat}
    {handles : List HandleId} {happenings : List (Happening h)}
    (htable : ∀ id : CallId, table.isolate[id]? =
      if id = callId then none else s.callTable.isolate[id]?) :
    ¬ (s.endCalls table ring evictions slots handles state happenings).Pending callId := by
  change ¬ table.isolate[callId]? ≠ none
  simp [htable]

/-- Queue acts leave pending calls pending and ended calls ended. -/
theorem Steps.callFrame {t : Runtime h} (hsteps : Steps Kind.IsQueue s t) (hs : Consistent s) :
    CallFrame s t := by
  refine hsteps.induct (I := fun u => CallFrame s u) hs ?_
    (.of_history_eq rfl rfl rfl (Nat.le_refl _) rfl)
  rintro _ a b rfl hact - hframe
  exact hframe.trans (hact.callFrame (by simp))

/-- The end of one pending call, from the state in which only its outcome is missing: the
act, then the message to the requester. -/
theorem deliverOutcome_of_pending {call : PendingIsolateCall h}
    (ring : List (CallId × CancelCause)) (evictions : Nat) {u : Runtime h} (hs : Consistent s)
    (hqueue : kinds .queue) (hcall : kinds .call)
    (hremove : s.callTable.removeIsolate callId = some (call, table))
    (hslots : ∀ slot ∈ slots, slot ∈ s.promotedSlots)
    (hstate : u.log (.outcomeDelivered callId outcome) = s.endCalls table ring evictions slots
      call.handleShared.toList .settled (outcomeEvents callId call.handleShared outcome)) :
    Ensures (deliverIsolateCallOutcome callId call.requester outcome call.translator
      call.continuationContext) u fun _ t =>
        Steps kinds s t ∧ ¬ t.Pending callId ∧ t.Ended callId := by
  obtain ⟨hfound, hdriver, htable⟩ := removeIsolate_some hremove
  have hcarried := hs.carried_isolate hfound
  obtain ⟨rfl, -⟩ := hs.calls.pending callId call hfound
  have hact : Act .call s (u.log (.outcomeDelivered call.callId outcome)) := by
    rw [hstate]
    exact .completed call table outcome ring evictions slots hfound hdriver htable hslots
  refine mono (deliverIsolateCallOutcome_spec (hact.carried hcarried)) ?_
  intro _ t hsteps
  have hframe := hsteps.callFrame (hact.consistent hs)
  refine ⟨(act hact hcall).trans (hsteps.weaken (by rintro _ rfl; exact hqueue)), ?_, ?_⟩
  · rw [hframe.pending_iff, hstate]
    exact pending_without htable
  · rw [hframe.ended_iff]
    exact ⟨.outcomeDelivered call.callId outcome, mem_append_right _ (mem_singleton_self _), rfl⟩

/-- After `completeIsolateCall` the call is not pending, and it has ended if it ever
was. -/
theorem completeIsolateCall_performs (hqueue : kinds .queue) (hcall : kinds .call)
    (hs : Consistent s) :
    Performs kinds (completeIsolateCall callId outcome) s fun _ t =>
      ¬ t.Pending callId ∧ (s.Pending callId ∨ s.Ended callId → t.Ended callId) := by
  refine bind removeIsolateCall_spec ?_
  rintro _ t (⟨rfl, hpending, rfl⟩ | ⟨_, _, rfl, hremove, rfl⟩)
  · exact .pure ⟨.refl t, hpending, (·.resolve_left hpending)⟩
  simp only [bind_iff, ensures_setHandleState]
  refine mono (deliverOutcome_of_pending s.cancelledCalls
    s.cancelledCallCauseEvictions hs hqueue hcall hremove (fun _ => id) ?_) ?_
  · simp [endCalls, moveHandles, logAll, log, outcomeEvents]
  · rintro _ u ⟨hsteps, hpending, hended⟩
    exact .pure ⟨hsteps, hpending, fun _ => hended⟩

end

section

variable {now : Instant}

theorem recordCancelledCall_spec {cause : CancelCause} :
    Ensures (recordCancelledCall callId cause : RuntimeM h PUnit) s fun _ t =>
      ∃ ring evictions, t = { s with
        cancelledCalls := ring, cancelledCallCauseEvictions := evictions } := by
  unfold recordCancelledCall
  rw [modify_iff]
  split <;> exact ⟨_, _, rfl⟩

theorem closeDeferredSlotForCall_spec :
    Ensures (closeDeferredSlotForCall callId : RuntimeM h PUnit) s fun _ t =>
      ∃ slots, (∀ slot ∈ slots, slot ∈ s.promotedSlots) ∧
        t = { s with promotedSlots := slots } := by
  unfold closeDeferredSlotForCall
  rw [modify_iff]
  cases s.promotedSlots.findIdx? (fun slot =>
      slot.routing = .localCaller ∧ slot.callId = callId) with
  | none => exact ⟨s.promotedSlots, fun _ => id, rfl⟩
  | some => exact ⟨_, fun _ hslot => mem_of_mem_swapRemove hslot, rfl⟩

section

variable (hqueue : kinds .queue) (hcall : kinds .call) (hs : Consistent s)

include hqueue hcall hs

theorem expireIsolateCall_performs : Does kinds (expireIsolateCall callId) s := by
  refine bind removeIsolateCall_spec ?_
  rintro _ t (⟨rfl, -, rfl⟩ | ⟨call, _, rfl, hremove, rfl⟩)
  · exact .pure ⟨.refl t, trivial⟩
  obtain ⟨hfound, -, -⟩ := removeIsolate_some hremove
  obtain ⟨rfl, -⟩ := hs.calls.pending callId call hfound
  simp only [bind_iff, ensures_setHandleState]
  refine mono recordCancelledCall_spec ?_
  rintro _ _ ⟨ring, evictions, rfl⟩
  refine mono closeDeferredSlotForCall_spec ?_
  rintro _ _ ⟨_, hslots, rfl⟩
  refine mono (deliverOutcome_of_pending ring evictions hs hqueue hcall hremove
    hslots ?_) fun _ u hpost => ⟨hpost.1, trivial⟩
  simp [endCalls, moveHandles, logAll, log, outcomeEvents]

theorem expireDueCalls_performs {fuel : Nat} :
    Does kinds (expireDueCalls now fuel : RuntimeM h PUnit) s := by
  induction fuel generalizing s with
  | zero => exact .throw
  | succ _ ih =>
  refine .get_bind ?_
  cases s.callTable.nextDueIsolate now with
  | none => exact .pure trivial
  | some =>
    exact .bind hs (expireIsolateCall_performs hqueue hcall hs) fun _ t ht _ _ => ih ht

theorem harvestIsolateCallTimeouts_performs :
    Does kinds (harvestIsolateCallTimeouts now : RuntimeM h PUnit) s := by
  refine .get_bind ?_
  exact expireDueCalls_performs hqueue hcall hs

end

/-- Several calls taken out of a table one after the other. -/
theorem takeIsolateCalls_spec {P : Payload} (table : CallTable P) (ids : List CallId)
    (hkeys : ∀ (id : CallId) call, table.isolate[id]? = some call → call.callId = id) :
    (∀ call ∈ (table.takeIsolateCalls ids).1, table.isolate[call.callId]? = some call) ∧
      ((table.takeIsolateCalls ids).1.map (·.callId)).Nodup ∧
      (table.takeIsolateCalls ids).2.driver = table.driver ∧
      ∀ id : CallId, (table.takeIsolateCalls ids).2.isolate[id]? =
        if id ∈ (table.takeIsolateCalls ids).1.map (·.callId) then none
        else table.isolate[id]? := by
  induction ids generalizing table with
  | nil => simp [takeIsolateCalls]
  | cons callId rest ih =>
  unfold takeIsolateCalls
  rcases hremove : table.removeIsolate callId with _ | ⟨call, table'⟩
  · exact ih table hkeys
  obtain ⟨hfound, hdriver, htable⟩ := removeIsolate_some hremove
  have hid := hkeys callId call hfound
  have hkeys' : ∀ (id : CallId) other, table'.isolate[id]? = some other → other.callId = id := by
    intro id other hother
    rw [htable, Option.ite_none_left_eq_some] at hother
    exact hkeys id other hother.2
  obtain ⟨hcalls, hnodup, hdriver', htable'⟩ := ih table' hkeys'
  have hnot : callId ∉ (table'.takeIsolateCalls rest).1.map (·.callId) := by
    intro hmem
    obtain ⟨other, hother, hotherId⟩ := mem_map.1 hmem
    have hlookup := hcalls other hother
    rw [hotherId, htable, if_pos rfl] at hlookup
    cases hlookup
  refine ⟨?_, ?_, hdriver'.trans hdriver, ?_⟩
  · intro other hother
    rcases mem_cons.1 hother with rfl | hother
    · rw [hid]
      exact hfound
    have hlookup := hcalls other hother
    rw [htable, Option.ite_none_left_eq_some] at hlookup
    exact hlookup.2
  · rw [map_cons, nodup_cons, hid]
    exact ⟨hnot, hnodup⟩
  · intro id
    rw [htable', htable, map_cons, hid]
    by_cases heq : id = callId <;> simp [heq]

theorem endCalls_endCalls {table table' : CallTable h}
    {ring ring' : List (CallId × CancelCause)} {evictions evictions' : Nat}
    {slots slots' : List DeferredSlotRecord} {handles handles' : List HandleId}
    {state : CallHandleState} {happenings happenings' : List (Happening h)} :
    (s.endCalls table ring evictions slots handles state happenings).endCalls table' ring'
        evictions' slots' handles' state happenings' =
      s.endCalls table' ring' evictions' slots' (handles ++ handles') state
        (happenings ++ happenings') := by
  simp only [endCalls, moveHandles, logAll, append_assoc, Runtime.mk.injEq, true_and, and_true]
  funext id
  by_cases hfirst : id ∈ handles <;> by_cases hsecond : id ∈ handles' <;> simp [hfirst, hsecond]

/-- A loop that ends calls one after the other, when each round ends one call and touches
the ring and the captured slots besides. -/
theorem cancelLoop_spec (cause : CancelCause) {body : PendingIsolateCall h → RuntimeM h PUnit}
    (hbody : ∀ call u, Ensures (body call) u fun _ t => ∃ ring evictions slots,
      (∀ slot ∈ slots, slot ∈ u.promotedSlots) ∧
        t = u.endCalls u.callTable ring evictions slots call.handleShared.toList .cancelled
          (cancelEvents cause call))
    (calls : List (PendingIsolateCall h)) :
    Ensures (calls.forM body) s fun _ t => ∃ ring evictions slots,
      (∀ slot ∈ slots, slot ∈ s.promotedSlots) ∧
        t = s.endCalls s.callTable ring evictions slots (calls.filterMap (·.handleShared))
          .cancelled (calls.flatMap (cancelEvents cause)) := by
  induction calls generalizing s with
  | nil =>
    refine .pure ⟨s.cancelledCalls, s.cancelledCallCauseEvictions, s.promotedSlots, fun _ => id, ?_⟩
    simp [endCalls, moveHandles, logAll]
  | cons call rest ih =>
  refine bind (hbody call s) ?_
  rintro _ _ ⟨_, _, _, hslots, rfl⟩
  refine mono ih ?_
  rintro _ _ ⟨ring', evictions', slots', hslots', rfl⟩
  refine ⟨ring', evictions', slots', fun slot hslot => hslots slot (hslots' slot hslot), ?_⟩
  have hhandles : (call :: rest).filterMap (·.handleShared) =
      call.handleShared.toList ++ rest.filterMap (·.handleShared) := by
    cases hshared : call.handleShared <;> simp [hshared]
  rw [endCalls_endCalls, flatMap_cons, hhandles]
  rfl

theorem cancelPendingIsolateCallsForOwner_performs {owner : IsolateId}
    {generation : AddressGeneration} (hcall : kinds .call) (hs : Consistent s) :
    Does kinds (cancelPendingIsolateCallsForOwner owner generation : RuntimeM h PUnit) s := by
  unfold cancelPendingIsolateCallsForOwner takeIsolateCallsForOwner Does Performs
  rw [get_bind]
  obtain ⟨hcalls, hnodup, hdriver, htable⟩ := takeIsolateCalls_spec s.callTable
    (s.callTable.isolateCallIdsForOwner owner generation)
    fun id call hfound => (hs.calls.pending id call hfound).1
  generalize htaken : s.callTable.takeIsolateCalls
    (s.callTable.isolateCallIdsForOwner owner generation) = taken at hcalls hnodup hdriver htable
  obtain ⟨calls, table⟩ := taken
  simp only [bind_iff, set_iff]
  -- The ring first, for all of them.
  refine mono (forM _ (fun t => ∃ ring evictions, t = { s with
    callTable := table, cancelledCalls := ring, cancelledCallCauseEvictions := evictions })
    calls ?_ ⟨_, _, rfl⟩) ?_
  · rintro call - _ ⟨ring, evictions, rfl⟩
    refine mono recordCancelledCall_spec ?_
    rintro _ _ ⟨ring', evictions', rfl⟩
    exact ⟨ring', evictions', rfl⟩
  rintro _ _ ⟨_, _, rfl⟩
  refine mono (cancelLoop_spec .ownerStopped ?_ calls) ?_
  · intro call u
    simp only [bind_iff, ensures_setHandleState]
    refine mono closeDeferredSlotForCall_spec ?_
    rintro _ _ ⟨slots, hslots, rfl⟩
    rw [ensures_note]
    exact ⟨u.cancelledCalls, u.cancelledCallCauseEvictions, slots, hslots, by
      simp [endCalls, moveHandles, logAll, log, cancelEvents]⟩
  · rintro _ _ ⟨_, _, _, hslots, rfl⟩
    exact ⟨.act (.cancelled _ _ _ _ _ _ hcalls hnodup (fun _ _ hfound => hdriver ▸ hfound) htable
      hslots) hcall, trivial⟩

theorem cancelInFlightCallsForShutdown_performs (hqueue : kinds .queue) (hcall : kinds .call)
    (hs : Consistent s) :
    Does kinds (cancelInFlightCallsForShutdown : RuntimeM h PUnit) s := by
  unfold cancelInFlightCallsForShutdown Does Performs
  have hmem : ∀ call, call ∈ s.callTable.isolate.toList.map (·.2) ↔
      s.callTable.isolate[call.callId]? = some call := by
    intro call
    simp only [mem_map, Prod.exists, exists_eq_right]
    constructor
    · rintro ⟨callId, hpair⟩
      have hfound := mem_toList_iff_getElem?_eq_some.1 hpair
      rw [(hs.calls.pending callId call hfound).1]
      exact hfound
    · intro hfound
      exact ⟨call.callId, mem_toList_iff_getElem?_eq_some.2 hfound⟩
  refine mono (cancelLoop_spec .runtimeStopped ?_ _) ?_
  · intro call u
    simp only [bind_iff, ensures_setHandleState]
    refine mono recordCancelledCall_spec ?_
    rintro _ _ ⟨ring, evictions, rfl⟩
    rw [ensures_note]
    exact ⟨ring, evictions, u.promotedSlots, fun _ => id, by
      simp [endCalls, moveHandles, logAll, log, cancelEvents]⟩
  rintro _ _ ⟨_, _, _, hslots, rfl⟩
  refine ⟨?_, trivial⟩
  have hbackend : Act .queue s { s with
      driver := h.cancelPending s.driver, pendingCompletions := [] } := .backend _ _ _
  refine (act hbackend hqueue).trans ?_
  refine .act (.cancelled _ _ _ _ _ _ (fun call hmem' => (hmem call).1 hmem') ?_ ?_ ?_ hslots) hcall
  · rw [map_map]
    refine pairwise_map.2 (.imp_of_mem ?_ distinct_keys_toList)
    rintro ⟨a, call⟩ ⟨b, other⟩ ha hb hne heq
    have hfound := mem_toList_iff_getElem?_eq_some.1 ha
    have hfound' := mem_toList_iff_getElem?_eq_some.1 hb
    have hab : a = b := ((hs.calls.pending a call hfound).1.symm.trans heq).trans
      (hs.calls.pending b other hfound').1
    exact hne (hab ▸ Std.ReflCmp.compare_self)
  · intro callId call hfound
    simp at hfound
  · intro id
    split
    · simp
    rename_i hnot
    cases hfound : s.callTable.isolate[id]? with
    | none => simp
    | some call =>
      have hid := (hs.calls.pending id call hfound).1
      exact absurd (mem_map.2 ⟨call, (hmem call).2 (hid.symm ▸ hfound), hid⟩) hnot

end

/-- Backend calls leave the table. -/
theorem steps_removeDriver {callId : CallId} {call : DriverCall h}
    {table : CallTable h} (hcall : kinds .call) (hs : Consistent s)
    (hremove : s.callTable.removeDriver callId = some (call, table)) :
    Steps kinds s { s with callTable := table } := by
  obtain ⟨-, htable, hsub⟩ := removeDriver_some hremove
  rw [htable]
  exact .act (.driverCalls table.driver fun id found hfound =>
    hs.carried_driver (hsub id found hfound)) hcall

theorem cancelDriverCallsForRequester_performs
    (hqueue : kinds .queue) (hcall : kinds .call) (hs : Consistent s) :
    Does kinds (cancelDriverCallsForRequester requester : RuntimeM h PUnit) s := by
  refine .get_bind ?_
  refine .forM hs trivial ?_
  intro callId _ t ht _ _
  refine get_bind.2 ?_
  rcases hremove : t.callTable.removeDriver callId with _ | ⟨_, _⟩
  · exact (throw_iff _).2 trivial
  rw [set_iff]
  refine ⟨(steps_removeDriver hcall ht hremove).trans ?_, trivial⟩
  exact .act (.backend _ _ _) hqueue

/-- The callers a stop or a panic gives up: a local one has ended afterwards. -/
theorem closeDrainedLocalCallContext_performs {message : DeliveredMessage h} (hqueue : kinds .queue)
    (hcall : kinds .call) (hs : Consistent s) (hknown : s.Known message.callContext) :
    Does kinds (closeDrainedLocalCallContext message) s := by
  unfold closeDrainedLocalCallContext
  rcases hcontext : message.callContext with _ | ⟨callId⟩ | ⟨callId, requester, expected⟩
  · exact .pure trivial
  · refine .bind hs (completeIsolateCall_performs hqueue hcall hs) ?_
    rintro _ t - - ⟨hpending, hended⟩
    unfold Performs
    rw [bind_iff, ensures_note, pure_iff]
    refine ⟨.act (.discarded _ _ ?_ ?_) hcall, trivial⟩
    · rintro id ⟨⟩
      exact ⟨hpending, hended (hknown callId hcontext)⟩
    · rintro id requester expected ⟨⟩
  · unfold Does Performs
    rw [bind_iff, ensures_note, pure_iff]
    refine ⟨.act (.discarded _ _ ?_ ?_) hcall, trivial⟩
    · rintro id ⟨⟩
    · rintro _ _ _ - ⟨⟩

end Tina
