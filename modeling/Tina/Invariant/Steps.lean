import Tina.Invariant.Continuations
import Tina.Invariant.Records
import Tina.Lib.Ensures

/-!
Sequences of acts, and the rules by which a method of the model is shown to be one. A
consistent state stays consistent, so every method may assume consistency wherever it
calls another one.
-/

namespace Tina

open Lib List Happening

variable {h : Host} {s t : Runtime h} {kind : Kind} {callId : CallId} {I : Runtime h → Prop}

/-- Request ids come from the call-id counter. -/
structure Spawns (s : Runtime h) : Prop where
  pending : ∀ pending ∈ s.pendingRemoteSpawns, pending.requestId < s.nextCallId
  routed : ∀ request taken, .routed (.spawnRequest request) taken ∈ s.history →
    request.requestId < s.nextCallId

theorem Act.nextCallId_le (hact : Act kind s t) : s.nextCallId ≤ t.nextCallId := by
  by_cases hkind : kind = .call
  · subst hkind
    cases hact with
    | allocated => exact Nat.le_succ _
    | _ => exact Nat.le_refl _
  · exact (hact.callState_eq hkind).2.2

theorem Runtime.Settle.pendingRemoteSpawns_eq {index : Nat}
    (hsettle : Runtime.Settle index s t) : t.pendingRemoteSpawns = s.pendingRemoteSpawns := by
  cases hsettle <;> rfl

section

variable (hact : Act kind s t)

include hact

theorem Act.pendingRemoteSpawns_eq (hrequest : kind ≠ .request)
    (hreply : kind ≠ .reply) : t.pendingRemoteSpawns = s.pendingRemoteSpawns := by
  cases hact with
  | settled hsettle => exact hsettle.pendingRemoteSpawns_eq
  | stopped _ _ _ _ hsettle =>
    rcases hsettle with ⟨rfl, -⟩ | ⟨_, _, -, -, -, hsettle⟩
    · rfl
    · exact hsettle.pendingRemoteSpawns_eq
  | requested | requestRefused | requestsCancelled => exact absurd rfl hrequest
  | replied | adopted => exact absurd rfl hreply
  | _ => rfl

/-- A spawn request is offered to the transport by the acts that make requests only. -/
theorem Act.spawnRequest_mem (hrequest : kind ≠ .request) {request : RemoteSpawnRequest h}
    {taken : Bool} (hmem : .routed (.spawnRequest request) taken ∈ t.history) :
    .routed (.spawnRequest request) taken ∈ s.history := by
  by_cases hkind : kind = .net
  · subst hkind
    cases hact with
    | routed _ _ _ hnot =>
    rcases mem_append.1 hmem with hmem | hmem
    · exact hmem
    · simp only [mem_singleton, routed.injEq] at hmem
      exact absurd hmem.1.symm (hnot request)
  · refine hact.appends.mem_of_tag hmem ?_
    cases kind <;> simp [Kind.tags, tag] at hrequest hkind ⊢

theorem Act.keeps_spawns (hs : Spawns s) : Spawns t := by
  have hle := hact.nextCallId_le
  have hpending : ∀ pending ∈ t.pendingRemoteSpawns,
      pending ∈ s.pendingRemoteSpawns ∨ pending.requestId < s.nextCallId := by
    intro pending hmem
    by_cases hkind : kind = .request ∨ kind = .reply
    · cases hact with
      | requested _ _ _ hid =>
        rcases mem_append.1 hmem with hmem | hmem
        · exact .inl hmem
        · rw [mem_singleton.1 hmem]
          exact .inr hid
      | requestRefused => exact .inl hmem
      | requestsCancelled => exact .inl (mem_of_mem_filter hmem)
      | replied | adopted => exact .inl (mem_of_mem_eraseIdx hmem)
      | _ => simp at hkind
    · obtain ⟨hrequest, hreply⟩ := not_or.1 hkind
      exact .inl (hact.pendingRemoteSpawns_eq hrequest hreply ▸ hmem)
  have hrouted : ∀ request taken, .routed (.spawnRequest request) taken ∈ t.history →
      request.requestId < s.nextCallId := by
    intro request taken hmem
    by_cases hkind : kind = .request
    · subst hkind
      cases hact with
      | requested _ _ _ hid | requestRefused _ _ _ hid =>
        rcases mem_append.1 hmem with hmem | hmem
        · rcases mem_append.1 hmem with hmem | hmem
          · exact hs.routed request taken hmem
          · simp at hmem
        · simp only [mem_singleton, routed.injEq, QueuedRemoteEnvelope.spawnRequest.injEq] at hmem
          rw [hmem.1]
          exact hid
      | requestsCancelled => exact hs.routed request taken hmem
    · exact hs.routed request taken (hact.spawnRequest_mem hkind hmem)
  refine ⟨fun pending hmem => ?_, fun request taken hmem => ?_⟩
  · rcases hpending pending hmem with hmem | hlt
    · exact Nat.lt_of_lt_of_le (hs.pending pending hmem) hle
    · exact Nat.lt_of_lt_of_le hlt hle
  · exact Nat.lt_of_lt_of_le (hrouted request taken hmem) hle

/-- What holds of a runtime before and after every act. -/
structure Consistent (s : Runtime h) : Prop where
  registry : Registry s
  slots : Slots s
  hosted : HostedUnobserved s
  calls : Calls s
  handles : HandlesBacked s
  contexts : Contexts s
  inFlight : InFlight s
  spawns : Spawns s

theorem Act.consistent (hs : Consistent s) : Consistent t where
  registry := hact.keeps_registry hs.registry
  slots := hact.keeps_slots hs.registry hs.slots
  hosted := hact.keeps_hostedUnobserved hs.hosted
  calls := hact.keeps_calls hs.calls
  handles := hact.keeps_handlesBacked hs.handles
  contexts := hact.keeps_contexts hs.contexts
  inFlight := hact.keeps_inFlight hs.inFlight
  spawns := hact.keeps_spawns hs.spawns

end

theorem Consistent.carried_driver (hs : Consistent s) {call : DriverCall h}
    (hcall : s.callTable.driver[callId]? = some call) :
    s.Carried call.head.continuationContext :=
  ⟨hs.contexts.driver callId call hcall, hs.inFlight.driver callId call hcall⟩

theorem Consistent.carried_isolate (hs : Consistent s) {call : PendingIsolateCall h}
    (hcall : s.callTable.isolate[callId]? = some call) :
    s.Carried call.continuationContext :=
  ⟨hs.contexts.isolate callId call hcall, hs.inFlight.isolate callId call hcall⟩

/-- A sequence of acts of the given kinds. -/
def Steps (kinds : Kind → Prop) : Runtime h → Runtime h → Prop :=
  Relation.ReflTransGen fun s t => ∃ kind, kinds kind ∧ Act kind s t

namespace Steps

variable {kinds kinds' : Kind → Prop} {u : Runtime h} {callContext : Option MessageCallContext}

theorem refl (s : Runtime h) : Steps kinds s s := Relation.ReflTransGen.refl

theorem trans (hst : Steps kinds s t) (htu : Steps kinds t u) : Steps kinds s u :=
  Relation.ReflTransGen.trans hst htu

theorem act (hact : Act kind s t) (hkind : kinds kind) : Steps kinds s t :=
  .single ⟨kind, hkind, hact⟩

variable (hsteps : Steps kinds s t)

include hsteps

theorem weaken (himp : ∀ kind, kinds kind → kinds' kind) : Steps kinds' s t := by
  refine .mono ?_ s t hsteps
  rintro a b ⟨kind, hkind, hact⟩
  exact ⟨kind, himp kind hkind, hact⟩

variable (hs : Consistent s)

include hs

/-- An invariant of every act, in consistent states, is an invariant of every sequence. -/
theorem induct (hact : ∀ kind s t, kinds kind → Act kind s t → Consistent s → I s → I t)
    (hI : I s) : I t := by
  have hboth : Consistent t ∧ I t := by
    refine invariant_of_steps (I := fun s => Consistent s ∧ I s) ?_ hsteps ⟨hs, hI⟩
    rintro a b ⟨kind, hkind, hab⟩ ⟨ha, hIa⟩
    exact ⟨hab.consistent ha, hact kind a b hkind hab ha hIa⟩
  exact hboth.2

theorem consistent : Consistent t :=
  hsteps.induct hs (fun _ _ _ _ hact hs _ => hact.consistent hs) hs

theorem known (hknown : s.Known callContext) : t.Known callContext :=
  hsteps.induct hs (fun _ _ _ _ hact _ hknown => hact.known hknown) hknown

theorem carried (hcarried : s.Carried callContext) : t.Carried callContext :=
  hsteps.induct (I := (·.Carried callContext)) hs
    (fun _ _ _ _ hact _ hcarried => hact.carried hcarried) hcarried

theorem fixed : t.systemIncarnation = s.systemIncarnation ∧ t.shardId = s.shardId := by
  refine hsteps.induct (I := fun u => u.systemIncarnation = s.systemIncarnation ∧
    u.shardId = s.shardId) hs ?_ ⟨rfl, rfl⟩
  intro _ a b _ hact _ hfixed
  exact ⟨hact.fixed.1.trans hfixed.1, hact.fixed.2.trans hfixed.2⟩

end Steps

/-- Every run of `x` from `s` that returns is a sequence of acts, and ends as `Q` says. -/
def Performs {α : Type} (kinds : Kind → Prop) (x : RuntimeM h α) (s : Runtime h)
    (Q : α → Runtime h → Prop) : Prop :=
  Ensures x s fun a t => Steps kinds s t ∧ Q a t

/-- Every run of `x` from `s` that returns is a sequence of acts. -/
abbrev Does {α : Type} (kinds : Kind → Prop) (x : RuntimeM h α) (s : Runtime h) : Prop :=
  Performs kinds x s fun _ _ => True

namespace Performs

variable {α β : Type} {x : RuntimeM h α} {f : α → RuntimeM h β}
  {Q R : α → Runtime h → Prop} {P : β → Runtime h → Prop}

theorem mono (hx : Performs kinds x s Q) (himp : ∀ a t, Steps kinds s t → Q a t → R a t) :
    Performs kinds x s R :=
  Ensures.mono hx fun a t hpost => ⟨hpost.1, himp a t hpost.1 hpost.2⟩

theorem weaken (hx : Performs kinds x s Q) (himp : ∀ kind, kinds kind → kinds' kind) :
    Performs kinds' x s Q :=
  Ensures.mono hx fun _ _ hpost => ⟨hpost.1.weaken himp, hpost.2⟩

theorem pure {a : α} (hQ : Q a s) : Performs kinds (Pure.pure a) s Q :=
  (Ensures.pure_iff a).2 ⟨.refl s, hQ⟩

theorem throw {panic : Panic} : Performs kinds (MonadExcept.throw panic : RuntimeM h α) s Q :=
  (Ensures.throw_iff panic).2 trivial

theorem set (hsteps : Steps kinds s t) : Does kinds (MonadState.set t : RuntimeM h PUnit) s :=
  (Ensures.set_iff t).2 ⟨hsteps, trivial⟩

theorem modify {f : Runtime h → Runtime h} (hsteps : Steps kinds s (f s)) :
    Does kinds (modify f : RuntimeM h PUnit) s :=
  (Ensures.modify_iff f).2 ⟨hsteps, trivial⟩

/-- A program that reads the state first. -/
theorem get_bind {f : Runtime h → RuntimeM h β} (hf : Performs kinds (f s) s P) :
    Performs kinds (get >>= f) s P :=
  Ensures.get_bind.2 hf

/-- Continue from where the first program ends. -/
theorem bind (hs : Consistent s) (hx : Performs kinds x s R)
    (hf : ∀ a t, Consistent t → Steps kinds s t → R a t → Performs kinds (f a) t P) :
    Performs kinds (x >>= f) s P := by
  refine Ensures.bind hx ?_
  rintro a t ⟨hsteps, hR⟩
  refine .mono (hf a t (hsteps.consistent hs) hsteps hR) ?_
  rintro b u ⟨hsteps', hP⟩
  exact ⟨hsteps.trans hsteps', hP⟩

/-- What the first program returns is only passed on. -/
theorem andReturn {g : α → β} (hx : Performs kinds x s R) :
    Does kinds (x >>= fun a => Pure.pure (g a)) s :=
  Ensures.bind hx fun _ _ hpost => .pure ⟨hpost.1, trivial⟩

/-- A program whose end is known exactly, and reached by acts. -/
theorem of_ensures (hx : Ensures x s R) (hsteps : ∀ a t, R a t → Steps kinds s t ∧ Q a t) :
    Performs kinds x s Q :=
  Ensures.mono hx hsteps

theorem forM {γ : Type} {body : γ → RuntimeM h PUnit} {xs : List γ} (hs : Consistent s) (hI : I s)
    (hbody : ∀ c ∈ xs, ∀ t, Consistent t → Steps kinds s t → I t →
      Performs kinds (body c) t fun _ u => I u) :
    Performs kinds (xs.forM body) s fun _ t => I t := by
  have hloop := Ensures.forM (s := s) body
    (fun t => Consistent t ∧ Steps kinds s t ∧ I t) xs ?_ ⟨hs, .refl s, hI⟩
  · exact Ensures.mono hloop fun _ t hpost => hpost.2
  rintro c hc t ⟨ht, hsteps, hIt⟩
  refine .mono (hbody c hc t ht hsteps hIt) ?_
  rintro _ u ⟨hsteps', hIu⟩
  exact ⟨hsteps'.consistent ht, hsteps.trans hsteps', hIu⟩

end Performs

end Tina
