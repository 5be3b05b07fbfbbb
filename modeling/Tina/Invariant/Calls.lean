import Tina.Invariant.History
import Tina.Invariant.Slots

/-!
Isolate calls: a call is pending, or it has ended, and it ends once. The handle a caller
keeps is stamped with the call it belongs to and is written once, when that call ends.
-/

namespace Tina

open List Tina.Runtime Std Lib Option

variable {h : Host} {s t : Runtime h} {kind : Kind} {calls : List (PendingIsolateCall h)}
  {happenings : List (Happening h)} {ring : List (CallId × CancelCause)}
  {slots : List DeferredSlotRecord} {table : CallTable h} {state : CallHandleState}
  {handle : HandleId} {evictions : Nat}

/-- The event neither ends a call nor writes a handle. -/
def Happening.CallQuiet {P : Payload} (happening : Happening P) : Prop :=
  (∀ callId, ¬ happening.Ends callId) ∧ ∀ handle, ¬ happening.Moves handle

open Happening

/-- Nothing about isolate calls has changed but the id counter. -/
structure CallFrame (s t : Runtime h) : Prop where
  history : ∃ happenings, t.history = s.history ++ happenings ∧
    ∀ happening ∈ happenings, happening.CallQuiet
  isolate : t.callTable.isolate = s.callTable.isolate
  handles : t.handles = s.handles
  next : s.nextCallId ≤ t.nextCallId
  shard : t.shardId = s.shardId

namespace CallFrame

theorem of_history_eq (hhistory : t.history = s.history)
    (hisolate : t.callTable.isolate = s.callTable.isolate) (hhandles : t.handles = s.handles)
    (hnext : s.nextCallId ≤ t.nextCallId) (hshard : t.shardId = s.shardId) : CallFrame s t :=
  ⟨⟨[], by simp [hhistory], by simp⟩, hisolate, hhandles, hnext, hshard⟩

theorem of_event {happening : Happening h} (hquiet : happening.CallQuiet)
    (hhistory : t.history = s.history ++ [happening])
    (hisolate : t.callTable.isolate = s.callTable.isolate) (hhandles : t.handles = s.handles)
    (hnext : s.nextCallId ≤ t.nextCallId) (hshard : t.shardId = s.shardId) : CallFrame s t :=
  ⟨⟨[happening], hhistory, by simpa using hquiet⟩, hisolate, hhandles, hnext, hshard⟩

theorem trans {u : Runtime h} (hst : CallFrame s t) (htu : CallFrame t u) : CallFrame s u := by
  obtain ⟨first, hfirst, hquiet⟩ := hst.history
  obtain ⟨second, hsecond, hquiet'⟩ := htu.history
  refine ⟨⟨first ++ second, by rw [hsecond, hfirst, append_assoc], ?_⟩,
    htu.isolate.trans hst.isolate, htu.handles.trans hst.handles, Nat.le_trans hst.next htu.next,
    htu.shard.trans hst.shard⟩
  intro happening hmem
  exact (mem_append.1 hmem).elim (hquiet happening) (hquiet' happening)

theorem pending_iff (hframe : CallFrame s t) (callId : CallId) :
    t.Pending callId ↔ s.Pending callId := by
  rw [Pending, Pending, hframe.isolate]

theorem ended_iff (hframe : CallFrame s t) (callId : CallId) : t.Ended callId ↔ s.Ended callId := by
  obtain ⟨_, hhistory, hquiet⟩ := hframe.history
  simp only [Ended, hhistory, mem_append]
  constructor
  · rintro ⟨happening, hmem | hmem, hends⟩
    · exact ⟨happening, hmem, hends⟩
    · exact absurd hends ((hquiet happening hmem).1 callId)
  · rintro ⟨happening, hmem, hends⟩
    exact ⟨happening, .inl hmem, hends⟩

end CallFrame

theorem Happening.callQuiet_of_tag {P : Payload} {happening : Happening P}
    (htag : happening.tag ∉ [Tag.outcomeDelivered, .callCancelled, .handleMoved]) :
    happening.CallQuiet := by
  cases happening <;> simp_all [tag, CallQuiet, Ends, Moves]

theorem Runtime.Settle.callState_eq {index : Nat} (hsettle : Settle index s t) :
    t.callTable = s.callTable ∧ t.handles = s.handles ∧ s.nextCallId ≤ t.nextCallId := by
  cases hsettle <;> exact ⟨rfl, rfl, Nat.le_refl _⟩

/-- Acts outside the calls leave the call table and the handles alone. -/
theorem Act.callState_eq (hact : Act kind s t) (hkind : kind ≠ .call) :
    t.callTable = s.callTable ∧ t.handles = s.handles ∧ s.nextCallId ≤ t.nextCallId := by
  cases hact with
  | settled hsettle => exact hsettle.callState_eq
  | stopped _ _ _ _ hsettle =>
    rcases hsettle with ⟨rfl, -⟩ | ⟨_, _, -, -, -, hsettle⟩
    · exact ⟨rfl, rfl, Nat.le_refl _⟩
    · exact hsettle.callState_eq
  | connected _ _ hnext => exact ⟨rfl, rfl, hnext⟩
  | _ => first | exact ⟨rfl, rfl, Nat.le_refl _⟩ | exact absurd rfl hkind

theorem Act.callFrame (hact : Act kind s t) (hkind : kind ≠ .call) : CallFrame s t := by
  obtain ⟨htable, hhandles, hnext⟩ := hact.callState_eq hkind
  obtain ⟨happenings, hhistory, htags⟩ := hact.appends
  refine ⟨⟨happenings, hhistory, fun happening hmem => ?_⟩, by rw [htable], hhandles,
    hnext, hact.fixed.2⟩
  have hdisjoint : ∀ tag ∈ [Tag.outcomeDelivered, .callCancelled, .handleMoved],
      tag ∉ kind.tags := by
    cases kind <;> simp [Kind.tags] at hkind ⊢
  exact callQuiet_of_tag fun hends => hdisjoint _ hends (htags happening hmem)

structure Calls (s : Runtime h) : Prop where
  pending : ∀ (callId : CallId) (call : PendingIsolateCall h),
    s.callTable.isolate[callId]? = some call →
    call.callId = callId ∧ callId < s.nextCallId ∧ ¬ s.Ended callId
  ended : ∀ callId, s.Ended callId → callId < s.nextCallId
  stamped : ∀ (callId : CallId) (call : PendingIsolateCall h) handle,
    s.callTable.isolate[callId]? = some call → call.handleShared = some handle →
    s.handles handle = { state := .pending, callId := some callId, shardId := some s.shardId }
  unmoved : ∀ handle, ((s.handles handle).state = .pending ∨
    (s.handles handle).shardId ≠ some s.shardId) →
    ∀ happening ∈ s.history, ¬ happening.Moves handle
  unstamped : ∀ handle, (s.handles handle).callId = none → (s.handles handle).state = .pending
  endsOnce : s.history.Pairwise fun x y => ∀ callId, x.Ends callId → ¬ y.Ends callId
  movesOnce : s.history.Pairwise fun x y => ∀ handle, x.Moves handle → ¬ y.Moves handle

namespace Calls

/-- Calls end and handles are written together: what ends had not ended and is pending no more, and
what is written was pending and belongs to no pending call any more. -/
theorem advance (hs : Calls s) (hhistory : t.history = s.history ++ happenings)
    (hshard : t.shardId = s.shardId) (hnext : s.nextCallId ≤ t.nextCallId)
    (hkept : ∀ (callId : CallId) call, t.callTable.isolate[callId]? = some call →
      s.callTable.isolate[callId]? = some call)
    (hcells : ∀ handle, t.handles handle = s.handles handle ∨ (t.handles handle).callId ≠ none ∧
      (t.handles handle).state ≠ .pending ∧ (t.handles handle).shardId = some s.shardId ∧
      ∀ (callId : CallId) call, t.callTable.isolate[callId]? = some call →
        call.handleShared ≠ some handle)
    (hends : ∀ happening ∈ happenings, ∀ callId, happening.Ends callId →
      callId < t.nextCallId ∧ ¬ s.Ended callId ∧ ¬ t.Pending callId)
    (hmoves : ∀ happening ∈ happenings, ∀ handle, happening.Moves handle →
      (s.handles handle).state = .pending ∧ t.handles handle ≠ s.handles handle)
    (hendsOnce : happenings.Pairwise fun x y => ∀ callId, x.Ends callId → ¬ y.Ends callId)
    (hmovesOnce : happenings.Pairwise fun x y => ∀ handle, x.Moves handle → ¬ y.Moves handle) :
    Calls t := by
  have hparts : ∀ {happening}, happening ∈ t.history →
      happening ∈ s.history ∨ happening ∈ happenings := by
    rw [hhistory]
    exact mem_append.1
  refine ⟨?_, ?_, ?_, ?_, ?_, ?_, ?_⟩
  · intro callId call hcall
    obtain ⟨hid, hlt, hnot⟩ := hs.pending callId call (hkept callId call hcall)
    refine ⟨hid, Nat.lt_of_lt_of_le hlt hnext, ?_⟩
    rintro ⟨happening, hmem, h⟩
    rcases hparts hmem with hold | hnew
    · exact hnot ⟨happening, hold, h⟩
    · exact (hends happening hnew callId h).2.2 (by rw [Pending, hcall]; simp)
  · rintro callId ⟨happening, hmem, h⟩
    rcases hparts hmem with hold | hnew
    · exact Nat.lt_of_lt_of_le (hs.ended callId ⟨happening, hold, h⟩) hnext
    · exact (hends happening hnew callId h).1
  · intro callId call handle hcall hshared
    rcases hcells handle with hsame | ⟨-, -, -, hfree⟩
    · rw [hsame, hshard]
      exact hs.stamped callId call handle (hkept callId call hcall) hshared
    · exact absurd hshared (hfree callId call hcall)
  · intro handle hcell happening hmem h
    have hsame := (hcells handle).resolve_right fun ⟨_, hstate, hhere, _⟩ =>
      hcell.elim hstate fun hne => hne (hshard ▸ hhere)
    rcases hparts hmem with hold | hnew
    · exact hs.unmoved handle (hshard ▸ hsame ▸ hcell) happening hold h
    · exact (hmoves happening hnew handle h).2 hsame
  · intro handle hcell
    rcases hcells handle with hsame | ⟨hstamped, -⟩
    · rw [hsame] at hcell ⊢
      exact hs.unstamped handle hcell
    · exact absurd hcell hstamped
  · rw [hhistory]
    exact pairwise_append.2 ⟨hs.endsOnce, hendsOnce, fun x hx y hy callId hxEnds hyEnds =>
      (hends y hy callId hyEnds).2.1 ⟨x, hx, hxEnds⟩⟩
  · rw [hhistory]
    exact pairwise_append.2 ⟨hs.movesOnce, hmovesOnce, fun x hx y hy handle hxMoves hyMoves =>
      hs.unmoved handle (.inl (hmoves y hy handle hyMoves).1) x hx hxMoves⟩

theorem frame (hs : Calls s) (hframe : CallFrame s t) : Calls t := by
  obtain ⟨_, hhistory, hquiet⟩ := hframe.history
  refine hs.advance hhistory hframe.shard hframe.next (by simp [hframe.isolate])
    (by simp [hframe.handles]) (fun x hx callId h => absurd h ((hquiet x hx).1 callId))
    (fun x hx handle h => absurd h ((hquiet x hx).2 handle)) ?_ ?_
  · exact pairwise_of_forall_mem_list fun x _ y hy callId _ => (hquiet y hy).1 callId
  · exact pairwise_of_forall_mem_list fun x _ y hy handle _ => (hquiet y hy).2 handle

/-- Two pending calls do not share a handle. -/
theorem callId_eq_of_handle (hs : Calls s) {a b : PendingIsolateCall h}
    (ha : s.callTable.isolate[a.callId]? = some a) (hb : s.callTable.isolate[b.callId]? = some b)
    (hhandle : a.handleShared = some handle) (hhandle' : b.handleShared = some handle)
    : a.callId = b.callId := by
  have hcell := hs.stamped a.callId a handle ha hhandle
  rw [hs.stamped b.callId b handle hb hhandle'] at hcell
  simpa using hcell.symm

end Calls

section

variable {P : Payload} {handle : Option HandleId} {state : CallHandleState}
  {happening : Happening P}

theorem mem_handleEvents : happening ∈ handleEvents handle state ↔
      ∃ id, handle = some id ∧ happening = .handleMoved id state := by
  cases handle <;> simp [handleEvents]

theorem not_ends_of_mem_handleEvents (hmem : happening ∈ handleEvents handle state)
    (callId : CallId) : ¬ happening.Ends callId := by
  obtain ⟨_, -, rfl⟩ := mem_handleEvents.1 hmem
  exact id

theorem moves_of_mem_handleEvents (hmem : happening ∈ handleEvents handle state) {id : HandleId}
    (hmoves : happening.Moves id) : handle = some id := by
  obtain ⟨moved, hhandle, rfl⟩ := mem_handleEvents.1 hmem
  rw [hhandle, show moved = id from hmoves]

/-- The events write `handle` and then end `callId`, and do nothing else to calls. -/
structure Ending (callId : CallId) (handle : Option HandleId) (events : List (Happening P))
    : Prop where
  ends : ∀ happening ∈ events, ∀ id, happening.Ends id → id = callId
  moves : ∀ happening ∈ events, ∀ id, happening.Moves id → handle = some id
  endsOnce : events.Pairwise fun x y => ∀ id, x.Ends id → ¬ y.Ends id
  movesOnce : events.Pairwise fun x y => ∀ id, x.Moves id → ¬ y.Moves id

theorem ending_of_last {callId : CallId} {last : Happening P}
    (hends : ∀ id, last.Ends id → id = callId) (hmoves : ∀ id, ¬ last.Moves id) :
    Ending callId handle (handleEvents handle state ++ [last]) where
  ends := forall_mem_concat
    (fun _ hmem id h => absurd h (not_ends_of_mem_handleEvents hmem id)) hends
  moves := forall_mem_concat (fun _ hmem _ h => moves_of_mem_handleEvents hmem h)
    fun id h => absurd h (hmoves id)
  endsOnce := by
    refine pairwise_concat ?_ fun x hx id h => absurd h (not_ends_of_mem_handleEvents hx id)
    exact pairwise_of_forall_mem_list
      fun x hx _ _ id h => absurd h (not_ends_of_mem_handleEvents hx id)
  movesOnce := by
    refine pairwise_concat ?_ fun x _ id _ => hmoves id
    cases handle <;> simp [handleEvents]

theorem ending_cancelEvents (cause : CancelCause) (call : PendingIsolateCall P) :
    Ending call.callId call.handleShared (cancelEvents cause call) :=
  ending_of_last (fun _ hends => Eq.symm hends) fun _ => id

theorem ending_outcomeEvents (callId : CallId) (handle : Option HandleId)
    (outcome : CallOutcome P.Message) :
    Ending callId handle (outcomeEvents callId handle outcome) :=
  ending_of_last (fun _ hends => Eq.symm hends) fun _ => id

end

namespace Calls

/-- Pending calls leave the table together with their endings. -/
theorem endCalls (hs : Calls s) {events : PendingIsolateCall h → List (Happening h)}
    (hevents : ∀ call, Ending call.callId call.handleShared (events call))
    (hstate : state ≠ .pending)
    (hcalls : ∀ call ∈ calls, s.callTable.isolate[call.callId]? = some call)
    (hnodup : (calls.map (·.callId)).Nodup)
    (htable : ∀ id : CallId, table.isolate[id]? =
      if id ∈ calls.map (·.callId) then none else s.callTable.isolate[id]?) :
    Calls (s.endCalls table ring evictions slots (calls.filterMap (·.handleShared)) state
      (calls.flatMap events)) := by
  have hkept : ∀ (callId : CallId) call, table.isolate[callId]? = some call →
      callId ∉ calls.map (·.callId) ∧ s.callTable.isolate[callId]? = some call := by
    intro callId call hcall
    rwa [htable, ite_none_left_eq_some] at hcall
  have hstamped : ∀ {handle}, handle ∈ calls.filterMap (·.handleShared) → ∃ call ∈ calls,
      s.handles handle =
        { state := .pending, callId := some call.callId, shardId := some s.shardId } := by
    intro handle hmem
    obtain ⟨call, hcall, hshared⟩ := mem_filterMap.1 hmem
    exact ⟨call, hcall, hs.stamped call.callId call handle (hcalls call hcall) hshared⟩
  refine hs.advance rfl rfl (Nat.le_refl _) (fun callId call hcall => (hkept callId call hcall).2)
    ?_ ?_ ?_ ?_ ?_
  · intro handle
    simp only [Runtime.endCalls, moveHandles, logAll]
    split
    · rename_i hin
      obtain ⟨_, hended, hcell⟩ := hstamped hin
      refine .inr ⟨by simp [hcell], hstate, by rw [hcell], fun callId call hcall hshared => ?_⟩
      obtain ⟨hnot, hcall⟩ := hkept callId call hcall
      rw [hs.stamped callId call handle hcall hshared] at hcell
      simp only [CallHandleShared.mk.injEq, some.injEq, true_and, and_true] at hcell
      exact hnot (hcell ▸ mem_map_of_mem hended)
    · exact .inl rfl
  · intro happening hmem callId h
    obtain ⟨call, hcall, hmem⟩ := mem_flatMap.1 hmem
    obtain rfl := (hevents call).ends happening hmem callId h
    obtain ⟨-, hlt, hended⟩ := hs.pending call.callId call (hcalls call hcall)
    refine ⟨hlt, hended, not_not.2 ?_⟩
    exact (htable _).trans (if_pos (mem_map_of_mem hcall))
  · intro happening hmem handle h
    obtain ⟨call, hcall, hmem⟩ := mem_flatMap.1 hmem
    have hin : handle ∈ calls.filterMap (·.handleShared) :=
      mem_filterMap.2 ⟨call, hcall, (hevents call).moves happening hmem handle h⟩
    obtain ⟨_, -, hcell⟩ := hstamped hin
    simp only [Runtime.endCalls, moveHandles, logAll, if_pos hin, hcell]
    simpa using hstate
  · refine pairwise_flatMap.2 ⟨fun call _ => (hevents call).endsOnce, ?_⟩
    refine (pairwise_map.1 hnodup).imp ?_
    intro a b hne x hx y hy callId hxEnds hyEnds
    exact hne (((hevents a).ends x hx callId hxEnds).symm.trans
      ((hevents b).ends y hy callId hyEnds))
  · refine pairwise_flatMap.2 ⟨fun call _ => (hevents call).movesOnce, ?_⟩
    refine .imp_of_mem ?_ (pairwise_map.1 hnodup)
    intro a b ha hb hne x hx y hy handle hxMoves hyMoves
    exact hne (hs.callId_eq_of_handle (hcalls a ha) (hcalls b hb)
      ((hevents a).moves x hx handle hxMoves) ((hevents b).moves y hy handle hyMoves))

variable {callId : CallId} {call : PendingIsolateCall h}

/-- A handle without a stamp belongs to no pending call. -/
theorem handle_ne_of_unstamped (hs : Calls s) {other : HandleId}
    (hcall : s.callTable.isolate[callId]? = some call) (hhandle : call.handleShared = some handle)
    (hother : (s.handles other).callId = none) :
    handle ≠ other := by
  rintro rfl
  rw [hs.stamped callId call handle hcall hhandle] at hother
  cases hother

theorem openCall (hs : Calls s) (hopenable : s.Openable call.callId call.handleShared) :
    Calls (s.openCall call) := by
  obtain ⟨hlt, _, hended, hhandle⟩ := hopenable
  have hlookup : ∀ (callId : CallId) found,
      (s.callTable.isolate.insert call.callId call)[callId]? = some found →
      (callId = call.callId ∧ found = call) ∨
        (callId ≠ call.callId ∧ s.callTable.isolate[callId]? = some found) := by
    intro callId found hfound
    rw [TreeMap.getElem?_insert] at hfound
    split at hfound
    · rename_i heq
      exact .inl ⟨(LawfulEqCmp.eq_of_compare heq).symm, (some.inj hfound).symm⟩
    · rename_i hne
      exact .inr ⟨fun heq => hne (heq ▸ ReflCmp.compare_self), hfound⟩
  refine ⟨?_, hs.ended, ?_, ?_, ?_, hs.endsOnce, hs.movesOnce⟩
  · intro callId found hfound
    rcases hlookup callId found hfound with ⟨rfl, rfl⟩ | ⟨-, hfound⟩
    · exact ⟨rfl, hlt, hended⟩
    · exact hs.pending callId found hfound
  · intro callId found handle hfound hshared
    simp only [Runtime.openCall, stamp]
    rcases hlookup callId found hfound with ⟨rfl, rfl⟩ | ⟨-, hfound⟩
    · rw [if_pos hshared.symm, hs.unstamped handle (hhandle handle hshared).1]
    rw [if_neg]
    · exact hs.stamped callId found handle hfound hshared
    · intro heq
      exact hs.handle_ne_of_unstamped hfound hshared (hhandle handle heq.symm).1 rfl
  · intro handle hcell
    simp only [Runtime.openCall, stamp] at hcell
    split at hcell
    · rename_i heq
      exact hs.unmoved handle (.inl (hs.unstamped handle (hhandle handle heq.symm).1))
    · exact hs.unmoved handle hcell
  · intro handle hcell
    simp only [Runtime.openCall, stamp] at hcell ⊢
    split at hcell
    · cases hcell
    rename_i hne
    rw [if_neg hne]
    exact hs.unstamped handle hcell

/-- A call that is refused at once ends without having been pending. -/
theorem refuse (hs : Calls s) {handle : Option HandleId} {outcome : CallOutcome h.Message}
    (hopenable : s.Openable callId handle) :
    Calls (((s.stamp handle callId).moveHandles handle.toList .settled).logAll
      (outcomeEvents callId handle outcome)) := by
  obtain ⟨hlt, hpending, hended, hhandle⟩ := hopenable
  have hcells : ∀ id, (if id ∈ handle.toList then
      { (s.stamp handle callId).handles id with state := .settled }
      else (s.stamp handle callId).handles id) =
      if some id = handle then
        { state := .settled, callId := some callId, shardId := some s.shardId }
      else s.handles id := by
    intro id
    cases handle with
    | none => simp [stamp]
    | some moved => by_cases heq : id = moved <;> simp [stamp, heq]
  have hending := ending_outcomeEvents callId handle outcome
  refine hs.advance rfl rfl (Nat.le_refl _) (fun _ _ hcall => hcall) ?_ ?_ ?_ hending.endsOnce
    hending.movesOnce
  · intro id
    simp only [moveHandles, logAll, hcells]
    split
    · rename_i heq
      refine .inr ⟨by simp, by simp, rfl, fun _ _ hcall hshared => ?_⟩
      exact hs.handle_ne_of_unstamped hcall hshared (hhandle id heq.symm).1 rfl
    · exact .inl rfl
  · intro happening hmem id h
    obtain rfl := hending.ends happening hmem id h
    exact ⟨hlt, hended, hpending⟩
  · intro happening hmem id h
    have heq := hending.moves happening hmem id h
    have hcell := hs.unstamped id (hhandle id heq).1
    refine ⟨hcell, fun hsame => ?_⟩
    simp only [moveHandles, logAll, hcells, if_pos heq.symm] at hsame
    simp [← hsame] at hcell

/-- Another shard writes a handle that is not stamped here. -/
theorem foreign (hs : Calls s) {cell : CallHandleShared}
    (hbefore : (s.handles handle).shardId ≠ some s.shardId) (hstamped : cell.callId ≠ none) :
    Calls { s with handles := fun id => if id = handle then cell else s.handles id } := by
  refine ⟨hs.pending, hs.ended, ?_, ?_, ?_, hs.endsOnce, hs.movesOnce⟩
  · intro callId call other hcall hshared
    have hcell := hs.stamped callId call other hcall hshared
    have hne : other ≠ handle := by
      rintro rfl
      exact hbefore (by rw [hcell])
    simpa only [if_neg hne] using hcell
  · intro other hcell
    by_cases heq : other = handle
    · exact hs.unmoved other (.inr (heq ▸ hbefore))
    · simp only [if_neg heq] at hcell
      exact hs.unmoved other hcell
  · intro other hcell
    by_cases heq : other = handle
    · simp only [if_pos heq] at hcell
      exact absurd hcell hstamped
    · simp only [if_neg heq] at hcell ⊢
      exact hs.unstamped other hcell

end Calls

theorem Act.keeps_calls (hact : Act kind s t) (hs : Calls s) : Calls t := by
  by_cases hkind : kind = .call
  · subst hkind
    cases hact with
    | allocated => exact hs.frame (.of_history_eq rfl rfl rfl (Nat.le_succ _) rfl)
    | driverCalls | slots => exact hs.frame (.of_history_eq rfl rfl rfl (Nat.le_refl _) rfl)
    | discarded =>
      exact hs.frame (.of_event ⟨fun _ => id, fun _ => id⟩ rfl rfl rfl (Nat.le_refl _) rfl)
    | opened _ hopenable => exact hs.openCall hopenable
    | @openedLocally _ index entry message call hopenable =>
      have hframe : CallFrame s ((s.putEntry index
          (entry.accept message (some (.localCaller call.callId)))).log
            (.accepted entry.id message (some (.localCaller call.callId)))) :=
        .of_event ⟨fun _ => id, fun _ => id⟩ rfl rfl rfl (Nat.le_refl _) rfl
      refine (hs.frame hframe).openCall ⟨hopenable.1, hopenable.2.1, ?_, hopenable.2.2.2⟩
      rw [hframe.ended_iff]
      exact hopenable.2.2.1
    | refused _ _ _ hopenable => exact hs.refuse hopenable
    | completed call table outcome ring evictions slots hcall _ htable =>
      have hlist : s.endCalls table ring evictions slots call.handleShared.toList .settled
          (outcomeEvents call.callId call.handleShared outcome) =
          s.endCalls table ring evictions slots ([call].filterMap (·.handleShared)) .settled
            ([call].flatMap fun call => outcomeEvents call.callId call.handleShared outcome) := by
        cases hshared : call.handleShared <;> simp [hshared]
      rw [hlist]
      refine hs.endCalls (fun call => ending_outcomeEvents call.callId call.handleShared outcome)
        (by simp) (by simpa using hcall) (by simp) ?_
      simpa using htable
    | cancelled _ _ cause _ _ _ hcalls hnodup _ htable =>
      exact hs.endCalls (ending_cancelEvents cause) (by simp) hcalls hnodup htable
    | foreignHandle _ _ hbefore _ hstamped =>
      exact hs.foreign hbefore hstamped
  · exact hs.frame (hact.callFrame hkind)

/-- A handle that is stamped on this shard and still pending belongs to a pending call. -/
def HandlesBacked (s : Runtime h) : Prop :=
  ∀ handle callId,
    s.handles handle = { state := .pending, callId := some callId, shardId := some s.shardId } →
    ∃ call, s.callTable.isolate[callId]? = some call ∧ call.handleShared = some handle

namespace HandlesBacked

theorem frame (hs : HandlesBacked s) (hhandles : t.handles = s.handles)
    (hisolate : t.callTable.isolate = s.callTable.isolate) (hshard : t.shardId = s.shardId) :
    HandlesBacked t := by
  intro handle callId hcell
  rw [hhandles, hshard] at hcell
  rw [hisolate]
  exact hs handle callId hcell

theorem openCall (hs : HandlesBacked s) {call : PendingIsolateCall h}
    (hpending : ¬ s.Pending call.callId) : HandlesBacked (s.openCall call) := by
  intro handle callId hcell
  simp only [Runtime.openCall, stamp] at hcell ⊢
  split at hcell
  · rename_i hshared
    obtain rfl : call.callId = callId := by simpa using congrArg CallHandleShared.callId hcell
    exact ⟨call, TreeMap.getElem?_insert_self, hshared.symm⟩
  obtain ⟨found, hfound, hshared⟩ := hs handle callId hcell
  refine ⟨found, ?_, hshared⟩
  rw [TreeMap.getElem?_insert, if_neg]
  · exact hfound
  intro heq
  rw [← LawfulEqCmp.eq_of_compare heq] at hfound
  exact hpending (by rw [Pending, hfound]; simp)

/-- The handles of calls that end are written, so none of them is pending any more. -/
theorem endCalls (hs : HandlesBacked s) (hstate : state ≠ .pending)
    (hcalls : ∀ call ∈ calls, s.callTable.isolate[call.callId]? = some call)
    (htable : ∀ id : CallId, table.isolate[id]? =
      if id ∈ calls.map (·.callId) then none else s.callTable.isolate[id]?) :
    HandlesBacked (s.endCalls table ring evictions slots (calls.filterMap (·.handleShared)) state
      happenings) := by
  intro handle callId hcell
  simp only [Runtime.endCalls, moveHandles, logAll] at hcell ⊢
  split at hcell
  · exact absurd (congrArg CallHandleShared.state hcell) hstate
  rename_i hnot
  obtain ⟨found, hfound, hshared⟩ := hs handle callId hcell
  refine ⟨found, ?_, hshared⟩
  rw [htable, if_neg]
  · exact hfound
  intro hmem
  obtain ⟨ended, hended, rfl⟩ := mem_map.1 hmem
  obtain rfl : ended = found := some.inj ((hcalls ended hended).symm.trans hfound)
  exact hnot (mem_filterMap.2 ⟨ended, hended, hshared⟩)

end HandlesBacked

theorem Act.keeps_handlesBacked (hact : Act kind s t) (hs : HandlesBacked s) : HandlesBacked t := by
  by_cases hkind : kind = .call
  · subst hkind
    cases hact with
    | allocated | driverCalls | slots | discarded => exact hs.frame rfl rfl rfl
    | opened _ hopenable => exact hs.openCall hopenable.2.1
    | openedLocally _ _ hopenable =>
      exact HandlesBacked.openCall (hs.frame rfl rfl rfl) hopenable.2.1
    | refused _ handle =>
      intro moved id hcell
      refine hs moved id ?_
      cases handle with
      | none => simpa [moveHandles, stamp, logAll] using hcell
      | some stamped =>
      by_cases heq : moved = stamped
      · simp [moveHandles, stamp, logAll, heq] at hcell
      · simpa [moveHandles, stamp, logAll, heq] using hcell
    | completed call table outcome ring evictions slots hcall _ htable =>
      have hended : HandlesBacked (s.endCalls table ring evictions slots
          ([call].filterMap (·.handleShared)) .settled
          (outcomeEvents call.callId call.handleShared outcome)) :=
        hs.endCalls (by simp) (by simpa using hcall) (by simpa using htable)
      cases hshared : call.handleShared <;> simpa [hshared] using hended
    | cancelled _ _ _ _ _ _ hcalls _ _ htable =>
      exact hs.endCalls (by simp) hcalls htable
    | foreignHandle handle _ _ hafter =>
    intro other callId hcell
    refine hs other callId ?_
    by_cases heq : other = handle
    · simp only [heq, if_true] at hcell
      exact absurd (congrArg CallHandleShared.shardId hcell) hafter
    · simpa only [if_neg heq] using hcell
  · have hframe := hact.callFrame hkind
    exact hs.frame hframe.handles hframe.isolate hframe.shard

end Tina
