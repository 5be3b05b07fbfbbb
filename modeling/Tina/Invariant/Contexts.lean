import Tina.Invariant.Calls

/-!
Where local call contexts can be. A context that is queued, parked, taken for the round,
captured or carried by a call in flight names a call that is pending or has ended, so
whoever answers it finds the call or comes too late.
-/

namespace Tina

open List Tina.Runtime Std Lib Option

variable {h : Host} {s t : Runtime h} {kind : Kind} {callId : CallId}
  {happenings : List (Happening h)} {call : PendingIsolateCall h} {index : Nat}

theorem Runtime.Ended.of_history (hended : s.Ended callId)
    (hhistory : t.history = s.history ++ happenings) :
    t.Ended callId := by
  obtain ⟨happening, hmem, hends⟩ := hended
  exact ⟨happening, by rw [hhistory]; exact mem_append_left _ hmem, hends⟩

theorem Runtime.Pending.exists_call (hpending : s.Pending callId) :
    ∃ call, s.callTable.isolate[callId]? = some call :=
  ne_none_iff_exists'.1 hpending

theorem Runtime.pending_openCall :
    (s.openCall call).Pending callId ↔ callId = call.callId ∨ s.Pending callId := by
  change (s.callTable.isolate.insert call.callId call)[callId]? ≠ none ↔ _
  rw [TreeMap.getElem?_insert]
  split
  · rename_i heq
    simp [LawfulEqCmp.eq_of_compare heq]
  rename_i hne
  have hid : callId ≠ call.callId := fun heq => hne (heq ▸ ReflCmp.compare_self)
  simp [hid, Pending]

/-- A call that is pending or has ended stays so. -/
theorem Act.known_callId (hact : Act kind s t) (hknown : s.Pending callId ∨ s.Ended callId) :
    t.Pending callId ∨ t.Ended callId := by
  have hframe : CallFrame s t → t.Pending callId ∨ t.Ended callId := fun hframe =>
    hknown.imp (hframe.pending_iff callId).2 (hframe.ended_iff callId).2
  by_cases hkind : kind = .call
  · subst hkind
    cases hact with
    | allocated => exact hframe (.of_history_eq rfl rfl rfl (Nat.le_succ _) rfl)
    | driverCalls | slots => exact hframe (.of_history_eq rfl rfl rfl (Nat.le_refl _) rfl)
    | discarded =>
      exact hframe (.of_event ⟨fun _ => id, fun _ => id⟩ rfl rfl rfl (Nat.le_refl _) rfl)
    | foreignHandle => exact hknown
    | opened => exact hknown.imp_left fun hpending => pending_openCall.2 (.inr hpending)
    | openedLocally =>
      exact hknown.imp (fun hpending => pending_openCall.2 (.inr hpending))
        (·.of_history rfl)
    | refused => exact hknown.imp_right (·.of_history rfl)
    | completed call table outcome _ _ _ _ _ htable =>
      rcases hknown with hpending | hended
      · by_cases heq : callId = call.callId
        · right
          exact ⟨.outcomeDelivered call.callId outcome,
            mem_append_right _ (mem_append_right _ (by simp)), heq.symm⟩
        · left
          change table.isolate[callId]? ≠ none
          rwa [htable, if_neg heq]
      · exact .inr (hended.of_history rfl)
    | cancelled calls table cause _ _ _ _ _ _ htable =>
    rcases hknown with hpending | hended
    · by_cases hin : callId ∈ calls.map (·.callId)
      · right
        obtain ⟨call, hcall, rfl⟩ := mem_map.1 hin
        refine ⟨.callCancelled call.callId cause, mem_append_right _
          (mem_flatMap.2 ⟨call, hcall, mem_append_right _ (by simp)⟩), rfl⟩
      · left
        change table.isolate[callId]? ≠ none
        rwa [htable, if_neg hin]
    · exact .inr (hended.of_history rfl)
  · exact hframe (hact.callFrame hkind)

theorem Act.known (hact : Act kind s t) {callContext : Option MessageCallContext}
    (hknown : s.Known callContext) : t.Known callContext :=
  fun callId hlocal => hact.known_callId (hknown callId hlocal)

theorem Runtime.known_none : s.Known none :=
  fun _ hlocal => by cases hlocal

theorem Runtime.known_remote {requester : RegisteredAddress} {expected : TypeId} :
    s.Known (some (.remoteCaller callId requester expected)) :=
  fun _ hlocal => by cases hlocal

/-- Every context in the entry's queues satisfies `known`. -/
def RegisteredEntry.Carries {P : Payload} (known : Option MessageCallContext → Prop)
    (entry : RegisteredEntry P) : Prop :=
  (∀ callContext ∈ entry.callContexts, known callContext) ∧
    ∀ delivered ∈ entry.continuationOverflow, known delivered.callContext

/-- Every context that the runtime keeps somewhere satisfies `known`. -/
structure ContextsIn (known : Option MessageCallContext → Prop) (s : Runtime h) : Prop where
  entries : ∀ entry ∈ s.entries, entry.Carries known
  round : ∀ message, some message ∈ s.roundMessages → known message.callContext
  driver : ∀ (callId : CallId) (call : DriverCall h),
    s.callTable.driver[callId]? = some call → known call.head.continuationContext
  isolate : ∀ (callId : CallId) (call : PendingIsolateCall h),
    s.callTable.isolate[callId]? = some call → known call.continuationContext
  slots : ∀ slot ∈ s.promotedSlots ++ s.pendingCaptures, known (some slot.callContext)

abbrev Contexts (s : Runtime h) : Prop := ContextsIn s.Known s

namespace ContextsIn

variable {known known' : Option MessageCallContext → Prop}

variable (hs : ContextsIn known s)

include hs

theorem mono (himp : ∀ callContext, known callContext → known' callContext) :
    ContextsIn known' s where
  entries := fun entry hentry =>
    ⟨fun callContext hmem => himp _ ((hs.entries entry hentry).1 callContext hmem),
      fun delivered hmem => himp _ ((hs.entries entry hentry).2 delivered hmem)⟩
  round := fun message hmem => himp _ (hs.round message hmem)
  driver := fun callId call hcall => himp _ (hs.driver callId call hcall)
  isolate := fun callId call hcall => himp _ (hs.isolate callId call hcall)
  slots := fun slot hslot => himp _ (hs.slots slot hslot)

theorem setEntry {entry entry' : RegisteredEntry h} (hentry : s.entries[index]? = some entry)
    (hcarries : entry.Carries known → entry'.Carries known) :
    ∀ other ∈ s.entries.set index entry', other.Carries known :=
  forall_mem_set hs.entries (hcarries (hs.entries entry (mem_of_getElem? hentry)))

theorem endCalls {table : CallTable h} {ring : List (CallId × CancelCause)}
    {evictions : Nat} {slots : List DeferredSlotRecord} {handles : List HandleId}
    {state : CallHandleState}
    (hdriver : ∀ (callId : CallId) call, table.driver[callId]? = some call →
      s.callTable.driver[callId]? = some call)
    (hisolate : ∀ (callId : CallId) call, table.isolate[callId]? = some call →
      s.callTable.isolate[callId]? = some call)
    (hslots : ∀ slot ∈ slots, slot ∈ s.promotedSlots) :
    ContextsIn known (s.endCalls table ring evictions slots handles state happenings) where
  __ := hs
  driver := fun callId call hcall => hs.driver callId call (hdriver callId call hcall)
  isolate := fun callId call hcall => hs.isolate callId call (hisolate callId call hcall)
  slots := fun slot hslot => hs.slots slot (by
    rcases mem_append.1 hslot with hslot | hslot
    · exact mem_append_left _ (hslots slot hslot)
    · exact mem_append_right _ hslot)

theorem openCall (hknown : known call.continuationContext)
    : ContextsIn known (s.openCall call) where
  __ := hs
  isolate := by
    intro callId found hfound
    change (s.callTable.isolate.insert call.callId call)[callId]? = some found at hfound
    rw [TreeMap.getElem?_insert] at hfound
    split at hfound
    · rwa [← some.inj hfound]
    · exact hs.isolate callId found hfound

end ContextsIn

theorem EntryStep.carries {P : Payload} {known known' : Option MessageCallContext → Prop}
    {entry entry' : RegisteredEntry P} {happenings : List (Happening P)}
    (hstep : EntryStep known entry entry' happenings)
    (himp : ∀ callContext, known callContext → known' callContext) (hcarries : entry.Carries known')
    : entry'.Carries known' := by
  obtain ⟨hqueued, hparked⟩ := hcarries
  cases hstep with
  | quiet _ _ _ _ hcontexts hoverflow =>
    exact ⟨hcontexts ▸ hqueued, hoverflow ▸ hparked⟩
  | accept _ _ _ _ hknown =>
    exact ⟨forall_mem_concat hqueued (himp _ hknown), hparked⟩
  | park _ hknown =>
    exact ⟨hqueued, forall_mem_concat hparked (himp _ hknown)⟩
  | unpark _ _ hoverflow =>
    exact ⟨hqueued, fun other hother => hparked other (hoverflow ▸ mem_cons_of_mem _ hother)⟩
  | receive =>
    exact ⟨fun other hother => hqueued other (mem_of_mem_tail hother), hparked⟩

/-- The slots of terminal results carry no context. -/
theorem Runtime.Settle.contextsIn {known : Option MessageCallContext → Prop}
    (hsettle : Settle index s t) (hs : ContextsIn known s) : ContextsIn known t := by
  cases hsettle with
  | unreserved => exact { hs with }
  | released _ _ _ hparent | delivered _ _ _ _ hparent =>
    exact { hs with entries := hs.setEntry hparent id }

theorem Act.keeps_contexts (hact : Act kind s t) (hcontexts : Contexts s) : Contexts t := by
  have hs : ContextsIn t.Known s := hcontexts.mono fun _ => hact.known
  have hknown : ∀ callContext, s.Known callContext → t.Known callContext := fun _ => hact.known
  cases hact with
  | entry hentry hstep =>
    exact { hs with entries := hs.setEntry hentry (hstep.carries hknown) }
  | round _ hmessages =>
    exact { hs with round := fun message hmem => hknown _ (hmessages message hmem) }
  | driverCalls driver hdriver =>
    exact { hs with driver := fun callId call hcall => hknown _ (hdriver callId call hcall).1 }
  | opened _ _ hcontext => exact hs.openCall (hknown _ hcontext.1)
  | @openedLocally _ index entry message call hopenable hcontext hentry hopen hroom =>
    have hstep : EntryStep (fun callContext => callContext = some (.localCaller call.callId))
        entry (entry.accept message (some (.localCaller call.callId))) _ :=
      .accept message _ hopen hroom rfl
    refine ContextsIn.openCall (s := (s.putEntry index _).log _) ?_ (hknown _ hcontext.1)
    refine { hs with entries := hs.setEntry hentry (hstep.carries ?_) }
    rintro _ rfl callId ⟨⟩
    exact .inl (pending_openCall.2 (.inl rfl))
  | completed _ _ _ _ _ _ _ hdriver htable hslots =>
    refine hs.endCalls (fun callId found hfound => hdriver ▸ hfound) ?_ hslots
    intro callId found hfound
    rw [htable, ite_none_left_eq_some] at hfound
    exact hfound.2
  | cancelled _ _ _ _ _ _ _ _ hdriver htable hslots =>
    refine hs.endCalls hdriver ?_ hslots
    intro callId found hfound
    rw [htable, ite_none_left_eq_some] at hfound
    exact hfound.2
  | slots _ _ _ hslots =>
    exact { hs with slots := fun slot hslot => hknown _ (hslots slot hslot) }
  | registered _ _ _ _ _ _ hempty hoverflow =>
    refine { hs with entries := forall_mem_concat hs.entries ?_ }
    exact ⟨by simp [hempty], by simp [hoverflow]⟩
  | observed _ _ _ _ _ _ _ hparent | restartedObserved _ _ _ _ _ _ _ _ _ _ hparent =>
    exact { hs with entries := hs.setEntry hparent id }
  | settled hsettle => exact hsettle.contextsIn hs
  | stopped path hentry _ _ hsettle =>
    have hmark : ContextsIn t.Known (s.mark _ _ path) :=
      { hs with entries := hs.setEntry hentry id }
    rcases hsettle with ⟨rfl, -⟩ | ⟨_, _, -, -, -, hsettle⟩
    · exact hmark
    · exact hsettle.contextsIn hmark
  | collected _ _ _ hkept =>
    refine { hs with entries := fun entry hentry => ?_ }
    exact hs.entries entry (mem_filter.1 (hkept.mem_iff.1 hentry)).1
  | _ => exact { hs with }

end Tina
