import Tina.Invariant.Contexts

/-!
The contexts of continuations. A runtime call keeps the context it was started with until
its continuation is offered to the requester, so no continuation carries a context that no
call was started with.
-/

namespace Tina

open List

variable {h : Host} {s t : Runtime h} {kind : Kind} {callContext : Option MessageCallContext}

section

variable (hact : Act kind s t)

include hact

theorem Act.started_mono (hstarted : callContext ∈ s.started) : callContext ∈ t.started := by
  obtain ⟨happening, hmem, hcontext⟩ := mem_filterMap.1 hstarted
  exact mem_filterMap.2 ⟨happening, hact.appends.mem hmem, hcontext⟩

theorem Act.carried (hcarried : s.Carried callContext) : t.Carried callContext :=
  ⟨hact.known hcarried.1, hact.started_mono hcarried.2⟩

/-- What calls in flight and their continuations carry, calls were started with. -/
structure InFlight (s : Runtime h) : Prop where
  driver : ∀ (callId : CallId) (call : DriverCall h),
    s.callTable.driver[callId]? = some call → call.head.continuationContext ∈ s.started
  isolate : ∀ (callId : CallId) (call : PendingIsolateCall h),
    s.callTable.isolate[callId]? = some call → call.continuationContext ∈ s.started
  continued : ∀ callId callContext, .continued callId callContext ∈ s.history →
    callContext ∈ s.started

/-- A call in the table after an act was there before, or carries what was started. -/
theorem Act.table_origin :
    (∀ (callId : CallId) (call : DriverCall h), t.callTable.driver[callId]? = some call →
      s.callTable.driver[callId]? = some call ∨ call.head.continuationContext ∈ s.started) ∧
    (∀ (callId : CallId) (call : PendingIsolateCall h), t.callTable.isolate[callId]? = some call →
      s.callTable.isolate[callId]? = some call ∨ call.continuationContext ∈ s.started) := by
  have hopened : ∀ (call : PendingIsolateCall h), s.Carried call.continuationContext →
      ∀ (callId : CallId) (found : PendingIsolateCall h),
      (s.callTable.isolate.insert call.callId call)[callId]? = some found →
      s.callTable.isolate[callId]? = some found ∨ found.continuationContext ∈ s.started := by
    intro call hcarried callId found hfound
    rw [Std.TreeMap.getElem?_insert] at hfound
    split at hfound
    · cases hfound
      exact .inr hcarried.2
    · exact .inl hfound
  by_cases hkind : kind = .call
  · subst hkind
    cases hact with
    | driverCalls _ hcarried =>
      exact ⟨fun callId call hcall => .inr (hcarried callId call hcall).2,
        fun _ _ hcall => .inl hcall⟩
    | opened call _ hcarried | openedLocally _ call _ hcarried =>
      exact ⟨fun _ _ hcall => .inl hcall, hopened call hcarried⟩
    | completed _ table _ _ _ _ _ hdriver htable =>
      refine ⟨fun callId found hfound => .inl ?_, fun callId found hfound => .inl ?_⟩
      · rw [← hdriver]
        exact hfound
      have hfound : table.isolate[callId]? = some found := hfound
      rw [htable, Option.ite_none_left_eq_some] at hfound
      exact hfound.2
    | cancelled _ table _ _ _ _ _ _ hdriver htable =>
      refine ⟨fun callId found hfound => .inl (hdriver callId found hfound),
        fun callId found hfound => .inl ?_⟩
      have hfound : table.isolate[callId]? = some found := hfound
      rw [htable, Option.ite_none_left_eq_some] at hfound
      exact hfound.2
    | _ => exact ⟨fun _ _ hcall => .inl hcall, fun _ _ hcall => .inl hcall⟩
  · rw [(hact.callState_eq hkind).1]
    exact ⟨fun _ _ hcall => .inl hcall, fun _ _ hcall => .inl hcall⟩

theorem Act.keeps_inFlight (hs : InFlight s) : InFlight t := by
  obtain ⟨hdriver, hisolate⟩ := hact.table_origin
  refine ⟨fun callId call hcall => ?_, fun callId call hcall => ?_,
    fun callId callContext hmem => ?_⟩
  · exact hact.started_mono ((hdriver callId call hcall).elim (hs.driver callId call) id)
  · exact hact.started_mono ((hisolate callId call hcall).elim (hs.isolate callId call) id)
  refine hact.started_mono ?_
  by_cases hkind : kind = .queue
  · subst hkind
    cases hact with
    | entry _ hstep =>
      rcases mem_append.1 hmem with hmem | hevent
      · exact hs.continued callId callContext hmem
      · cases hstep <;> simp at hevent
    | continued _ _ hstarted =>
      rcases mem_append.1 hmem with hmem | hmem
      · exact hs.continued callId callContext hmem
      · simp only [mem_singleton, Happening.continued.injEq] at hmem
        exact hmem.2 ▸ hstarted
    | _ => exact hs.continued callId callContext hmem
  · refine hs.continued callId callContext (hact.appends.mem_of_tag hmem ?_)
    cases kind <;> simp [Kind.tags, Happening.tag] at hkind ⊢

end

end Tina
