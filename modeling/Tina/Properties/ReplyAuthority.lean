import Tina.Runtime.Scripted
import Tina.Spec.Reachable

/-!
The reply authority of a turn. An effect tree that answers its caller holds the call context
until the answer is executed, and an `Io` that runs before the answer takes the context with
it: its continuation comes back with a context that is spent.
-/

namespace Tina

open Lib ErasedEffect Bool List Tina.Runtime

variable {h : Host} {s t : Runtime h}

section

variable {P : Payload}

mutual

/-- Whether an `Io` of the tree runs while the tree still holds the call context. -/
def ErasedEffect.startsHolding : ErasedEffect P → Bool
  | .io _ => true
  | .batch effects => startsHoldingIn effects
  | _ => false

def startsHoldingIn : List (ErasedEffect P) → Bool
  | [] => false
  | effect :: rest => effect.startsHolding ||
      (!effect.stops && !effect.consumesCallContext && startsHoldingIn rest)

end

/-- Whether the tree answers its caller, but only after it has started a runtime call. -/
def ErasedEffect.startsBeforeAnswer (effect : ErasedEffect P) : Bool :=
  effect.consumesCallContext && effect.startsHolding

variable {context : MessageCallContext}

mutual

/-- A tree starts its calls with the context it was given, or with none. -/
theorem ErasedEffect.mem_of_starts (effect : ErasedEffect P)
    (callContext : Option MessageCallContext) :
    ∀ started ∈ effect.starts callContext, started = none ∨ started = callContext := by
  cases effect with
  | batch effects => exact mem_of_startsIn effects callContext
  | _ => simp [starts]

theorem mem_of_startsIn : ∀ (effects : List (ErasedEffect P))
    (callContext : Option MessageCallContext),
    ∀ started ∈ startsIn effects callContext, started = none ∨ started = callContext
  | [], _ => by simp [startsIn]
  | effect :: rest, callContext => by
    intro started hmem
    simp only [startsIn, mem_append] at hmem
    rcases hmem with hmem | hmem
    · exact effect.mem_of_starts callContext started hmem
    split at hmem
    · cases hmem
    have hrest := mem_of_startsIn rest _ started hmem
    split at hrest
    · exact .inl (hrest.elim id id)
    · exact hrest

end

mutual

/-- A tree hands its context to a call exactly if the call runs while it holds it. -/
theorem ErasedEffect.mem_starts (effect : ErasedEffect P) :
    some context ∈ effect.starts (some context) ↔ effect.startsHolding = true := by
  cases effect with
  | batch effects => exact mem_startsIn effects
  | _ => simp [starts, startsHolding]

theorem mem_startsIn : ∀ effects : List (ErasedEffect P),
    some context ∈ startsIn effects (some context) ↔ startsHoldingIn effects = true
  | [] => by simp [startsIn, startsHoldingIn]
  | effect :: rest => by
    simp only [startsIn, startsHoldingIn, mem_append, effect.mem_starts, or_eq_true,
      and_eq_true, not_eq_true']
    cases hstops : effect.stops with
    | true => simp
    | false =>
    cases hconsumes : effect.consumesCallContext with
    | true =>
      have hnone : some context ∉ startsIn rest none :=
        fun hmem => Option.some_ne_none _ ((mem_of_startsIn rest none _ hmem).elim id id)
      simp [hnone]
    | false => simp [mem_startsIn rest]

end

mutual

/-- A tree that does not consume the context stops where it stops. -/
theorem ErasedEffect.stops_eq (effect : ErasedEffect P)
    (hconsumes : effect.consumesCallContext = false) :
    effect.stops = effect.stopsBeforeConsumingCallContext := by
  cases effect with
  | batch effects => exact stopsIn_eq effects hconsumes
  | _ => rfl

theorem stopsIn_eq : ∀ effects : List (ErasedEffect P), consumesCallContextIn effects = false →
    stopsIn effects = stopsBeforeConsumingCallContextIn effects
  | [] => fun _ => rfl
  | effect :: rest => fun hconsumes => by
    unfold consumesCallContextIn at hconsumes
    split at hconsumes
    · cases hconsumes
    rename_i hfirst
    have hstops := effect.stops_eq (eq_false_iff.2 hfirst)
    unfold stopsIn stopsBeforeConsumingCallContextIn
    rw [hstops, if_neg hfirst]
    split at hconsumes
    · rename_i hstop
      simp [hstop]
    · rename_i hstop
      simp [hstop, stopsIn_eq rest hconsumes]

end

mutual

/-- A tree that consumes the context answers it once, and no other tree answers it. -/
theorem ErasedEffect.answers_eq (effect : ErasedEffect P)
    (callContext : Option MessageCallContext) : effect.answers callContext =
      if effect.consumesCallContext then callContext.toList else [] := by
  cases effect with
  | batch effects => exact answersIn_eq effects callContext
  | _ => rfl

theorem answersIn_eq : ∀ (effects : List (ErasedEffect P))
    (callContext : Option MessageCallContext), answersIn effects callContext =
      if consumesCallContextIn effects then callContext.toList else []
  | [], _ => rfl
  | effect :: rest, callContext => by
    rw [answersIn, consumesCallContextIn, effect.answers_eq, answersIn_eq rest]
    by_cases hfirst : effect.consumesCallContext = true
    · simp [hfirst]
    have hstops := effect.stops_eq (eq_false_iff.2 hfirst)
    by_cases hstop : effect.stopsBeforeConsumingCallContext = true <;> simp [hfirst, hstops, hstop]

end

def ErasedEffect.isAnswer : ErasedEffect P → Bool
  | .reply _ | .reject _ => true
  | _ => false

def ErasedEffect.isStop : ErasedEffect P → Bool
  | .stop | .fail | .stopWith _ => true
  | _ => false

mutual

/-- The effects of a tree from left to right, without the batches they are in. -/
def ErasedEffect.leaves : ErasedEffect P → List (ErasedEffect P)
  | .batch effects => leavesIn effects
  | effect => [effect]

def leavesIn : List (ErasedEffect P) → List (ErasedEffect P)
  | [] => []
  | effect :: rest => effect.leaves ++ leavesIn rest

end

/-- The first of some effects that answers or stops. -/
def firstSettling (leaves : List (ErasedEffect P)) : Option (ErasedEffect P) :=
  leaves.find? fun leaf => leaf.isAnswer || leaf.isStop

mutual

theorem ErasedEffect.firstSettling_eq (effect : ErasedEffect P) :
    effect.consumesCallContext = (firstSettling effect.leaves).any (·.isAnswer) ∧
      effect.stopsBeforeConsumingCallContext = (firstSettling effect.leaves).any (·.isStop) := by
  cases effect with
  | batch effects => exact firstSettlingIn_eq effects
  | _ => exact ⟨rfl, rfl⟩

theorem firstSettlingIn_eq : ∀ effects : List (ErasedEffect P),
    consumesCallContextIn effects = (firstSettling (leavesIn effects)).any (·.isAnswer) ∧
      stopsBeforeConsumingCallContextIn effects = (firstSettling (leavesIn effects)).any (·.isStop)
  | [] => ⟨rfl, rfl⟩
  | effect :: rest => by
    have happend : firstSettling (leavesIn (effect :: rest)) =
        (firstSettling effect.leaves).or (firstSettling (leavesIn rest)) := find?_append
    rw [consumesCallContextIn, stopsBeforeConsumingCallContextIn, effect.firstSettling_eq.1,
      effect.firstSettling_eq.2, (firstSettlingIn_eq rest).1, (firstSettlingIn_eq rest).2, happend]
    cases hfirst : firstSettling effect.leaves with
    | none => simp
    | some leaf =>
      have hsettles := find?_some hfirst
      cases leaf <;> simp_all [isAnswer, isStop]

end

/-- The tree of a turn starts a call with the context that the turn still has to answer
exactly if it starts it before the answer. -/
theorem ErasedEffect.mem_starts_given {effect : ErasedEffect P}
    {holding : Option MessageCallContext} :
    some context ∈ effect.starts (effect.given holding) ↔
      holding = some context ∧ effect.startsBeforeAnswer = true := by
  unfold startsBeforeAnswer given
  cases effect.consumesCallContext with
  | false =>
    have hnone : some context ∉ effect.starts none :=
      fun hmem => Option.some_ne_none _ ((effect.mem_of_starts none _ hmem).elim id id)
    simp [hnone]
  | true =>
  constructor
  · intro hmem
    rcases effect.mem_of_starts holding _ hmem with hnone | hholding
    · cases hnone
    · subst hholding
      exact ⟨rfl, effect.mem_starts.1 hmem⟩
  · rintro ⟨rfl, hholding⟩
    exact effect.mem_starts.2 hholding

end

section

variable {holding : Option MessageCallContext} {effect : ErasedEffect h}

/-- The calls started so far, and the contexts answered so far, are those of the trees that
handlers returned. -/
structure Executed (s : Runtime h) : Prop where
  started : s.started = s.returned.flatMap fun turn => turn.2.starts (turn.2.given turn.1)
  answered : s.answered = s.returned.flatMap fun turn => turn.2.answers (turn.2.given turn.1)

theorem Turned.executed (hturned : Turned s holding effect t) (hs : Executed s) : Executed t where
  started := by simp [hturned.started, hturned.returned, hs.started]
  answered := by simp [hturned.answered, hturned.returned, hs.answered]

theorem Reachable.executed (hs : Reachable s) : Executed s := by
  refine hs.induct_turns (fun _ _ _ _ _ => ⟨rfl, rfl⟩) (fun s t hs hsteps hexecuted => ?_)
    fun _ _ _ _ _ hturned hexecuted => hturned.executed hexecuted
  have hreturned := hsteps.returned_eq (by simp [Kind.Quiet]) hs
  constructor
  · rw [hsteps.started_eq (by simp [Kind.Quiet]) hs, hreturned]
    exact hexecuted.started
  · rw [hsteps.answered_eq (by simp [Kind.Quiet]) hs, hreturned]
    exact hexecuted.answered

theorem Runtime.mem_returned :
    (holding, effect) ∈ s.returned ↔ .returned holding effect ∈ s.history := by
  unfold returned
  rw [mem_filterMap]
  constructor
  · rintro ⟨happening, hmem, htree⟩
    cases happening <;> simp only [Happening.returnedTree, reduceCtorEq] at htree
    cases htree
    exact hmem
  · exact fun hmem => ⟨_, hmem, rfl⟩

/-- No runtime call has the context: none was started with it, none in flight will come back
with it, and none has come back with it. -/
structure Runtime.NeverCarries (s : Runtime h) (context : MessageCallContext) : Prop where
  started : some context ∉ s.started
  driver : ∀ (callId : CallId) call, s.callTable.driver[callId]? = some call →
    call.head.continuationContext ≠ some context
  isolate : ∀ (callId : CallId) call, s.callTable.isolate[callId]? = some call →
    call.continuationContext ≠ some context
  continued : ∀ callId, .continued callId (some context) ∉ s.history

theorem neverCarries_of_not_started (hs : Reachable s) (hstarted : some context ∉ s.started) :
    s.NeverCarries context where
  started := hstarted
  driver callId call hcall heq := hstarted (heq ▸ hs.consistent.inFlight.driver callId call hcall)
  isolate callId call hcall heq := hstarted (heq ▸ hs.consistent.inFlight.isolate callId call hcall)
  continued callId hmem := hstarted (hs.consistent.inFlight.continued callId _ hmem)

theorem mem_started_iff (hs : Reachable s) :
    some context ∈ s.started ↔ ∃ effect, .returned (some context) effect ∈ s.history ∧
      effect.startsBeforeAnswer = true := by
  rw [hs.executed.started, mem_flatMap]
  constructor
  · rintro ⟨⟨holding, effect⟩, hmem, hstarts⟩
    obtain ⟨rfl, hbefore⟩ := mem_starts_given.1 hstarts
    exact ⟨effect, mem_returned.1 hmem, hbefore⟩
  · rintro ⟨effect, hmem, hbefore⟩
    exact ⟨(some context, effect), mem_returned.2 hmem, mem_starts_given.2 ⟨rfl, hbefore⟩⟩

/-- Along every run, a context that was answered is carried by no runtime call exactly if no turn
returned a tree that starts a call before it answers. Such a tree gives the context to the
continuation of its call as well as to the answer. The run may hold any operations, and its handlers
may return trees of any shape. -/
theorem answered_contexts_not_carried_iff (hs : Reachable s) :
    (∀ context ∈ s.answered, s.NeverCarries context) ↔
      ∀ context effect, .returned (some context) effect ∈ s.history →
        effect.startsBeforeAnswer = false := by
  constructor
  · intro hnever context effect hmem
    rw [eq_false_iff]
    intro hbefore
    have hconsumes : effect.consumesCallContext = true := (and_eq_true_iff.1 hbefore).1
    have hanswered : context ∈ s.answered := by
      rw [hs.executed.answered, mem_flatMap]
      refine ⟨(some context, effect), mem_returned.2 hmem, ?_⟩
      simp only [given, hconsumes, if_true]
      simp [effect.answers_eq, hconsumes]
    exact (hnever context hanswered).started ((mem_started_iff hs).2 ⟨effect, hmem, hbefore⟩)
  · intro hturns context _
    refine neverCarries_of_not_started hs fun hstarted => ?_
    obtain ⟨effect, hmem, hbefore⟩ := (mem_started_iff hs).1 hstarted
    rw [hturns context effect hmem] at hbefore
    cases hbefore

/-- Isolate 2 calls isolate 1, which starts a call to isolate 3 and then answers. -/
def forwarderScript : Script
  | 2, 1 => some (.io (.isolateCall
      { targetSystem := 1, targetShard := 0, targetIsolate := 1, targetGeneration := 0
        message := 9 } 10 (fun _ => 70) 0 none))
  | 1, 9 => some (.batch [.io (.isolateCall
      { targetSystem := 1, targetShard := 0, targetIsolate := 3, targetGeneration := 0
        message := 5 } 10 (fun _ => 77) 0 none), .reply 8])
  | 3, 5 => some (.reply 6)
  | _, _ => some .noop

/-- Isolate 1 answers before it starts its call. -/
def answererScript : Script
  | 1, 9 => some (.batch [.reply 8, .io (.isolateCall
      { targetSystem := 1, targetShard := 0, targetIsolate := 3, targetGeneration := 0
        message := 5 } 10 (fun _ => 77) 0 none)])
  | isolate, message => forwarderScript isolate message

/-- The context that isolate 1 has answered is carried by nothing, while its own call is on the
way. -/
theorem answered_call_not_carried : ∃ s : Runtime answererScript.host, Reachable s ∧
    (s.answered = [.localCaller 1] ∧ s.started = [none, none]) ∧
      ∀ context ∈ s.answered, s.NeverCarries context := by
  obtain ⟨s, hs, hrun⟩ := answererScript.exists_reachable 0
    [.registerWithCapacity 1 4, .registerWithCapacity 2 4, .registerWithCapacity 3 4,
      .trySend (scriptAddress 0 2) 1, .step, .step]
    (fun s => decide (s.answered = [.localCaller 1] ∧ s.started = [none, none]) &&
      s.returned.all (!·.2.startsBeforeAnswer)) (by decide +kernel)
  obtain ⟨hcalls, hturns⟩ := and_eq_true_iff.1 hrun
  refine ⟨s, hs, of_decide_eq_true hcalls,
    (answered_contexts_not_carried_iff hs).2 fun context effect hmem => ?_⟩
  simpa using all_eq_true.1 hturns _ (mem_returned.2 hmem)

/-- Isolate 1 answers its caller, and the continuation of the call it started before comes
back with the answered context: `handle_call` runs with it a second time. -/
theorem continuation_comes_back_with_the_answered_context :
    ∃ s : Runtime forwarderScript.host, Reachable s ∧
      .localCaller 1 ∈ s.answered ∧ ¬ s.NeverCarries (.localCaller 1) ∧
      s.turns = [(2, none), (1, some (.localCaller 1)), (2, none), (3, some (.localCaller 2)),
        (1, some (.localCaller 1))] := by
  obtain ⟨s, hs, hrun⟩ := forwarderScript.exists_reachable 0
    [.registerWithCapacity 1 4, .registerWithCapacity 2 4, .registerWithCapacity 3 4,
      .trySend (scriptAddress 0 2) 1, .step, .step, .step, .step]
    (fun s => decide (.localCaller 1 ∈ s.answered ∧ some (.localCaller 1) ∈ s.started ∧
      s.turns = [(2, none), (1, some (.localCaller 1)), (2, none), (3, some (.localCaller 2)),
        (1, some (.localCaller 1))])) (by decide +kernel)
  obtain ⟨hanswered, hstarted, hturns⟩ := of_decide_eq_true hrun
  exact ⟨s, hs, hanswered, (·.started hstarted), hturns⟩

/-- A tree consumes the call context exactly if the first of its effects that answers or stops is an
answer. Along every run, the context that a turn holds is answered once by such a tree and by no
other; a tree that does not consume it runs without it, after one automatic rejection. -/
theorem context_answered_or_abandoned (hs : Reachable s) :
    (∀ effect : ErasedEffect h, effect.consumesCallContext = true ↔
      (firstSettling effect.leaves).any (·.isAnswer) = true) ∧
    s.answered = s.returned.flatMap (fun turn =>
      if turn.2.consumesCallContext then turn.1.toList else []) ∧
    ∀ (t : Runtime h) (index : Nat) (context : MessageCallContext)
      (effect : ErasedEffect h), t.pendingCaptures = [] →
      finishTurn index (some context) effect t = (do
        note (.returned (some context) effect)
        if effect.consumesCallContext then discard (executeEffect index effect (some context))
        else
          rejectCallContext context .replyAbandoned
          discard (executeEffect index effect none) : RuntimeM h Unit) t := by
  refine ⟨fun effect => by rw [effect.firstSettling_eq.1], ?_, ?_⟩
  · rw [hs.executed.answered]
    congr 1
    funext turn
    rw [answers_eq, given]
    split <;> rfl
  intro t index context effect hcaptures
  have hpromote : (promoteCaptures : RuntimeM h Bool) t = .ok (false, t) := by
    have hpromoted : promoteCaptures t = .ok (!t.pendingCaptures.isEmpty, { t with
        pendingCaptures := [], promotedSlots := t.promotedSlots ++ t.pendingCaptures }) := rfl
    rw [hpromoted, hcaptures, append_nil, ← hcaptures]
    exact congrArg (fun slots => Except.ok (!slots.isEmpty, t)) hcaptures
  unfold finishTurn
  rw [run_bind_of_ok hpromote]
  cases effect.consumesCallContext <;> rfl

/-- Isolate 1 answers its caller from the end of a batch. -/
theorem context_answered_by_forwarder : ∃ s : Runtime forwarderScript.host, Reachable s ∧
    s.answered = [.localCaller 1] ∧ s.answered = s.returned.flatMap fun turn =>
      if turn.2.consumesCallContext then turn.1.toList else [] := by
  obtain ⟨s, hs, hrun⟩ := forwarderScript.exists_reachable 0
    [.registerWithCapacity 1 4, .registerWithCapacity 2 4, .trySend (scriptAddress 0 2) 1, .step,
      .step] (fun s => decide (s.answered = [.localCaller 1])) (by decide +kernel)
  exact ⟨s, hs, of_decide_eq_true hrun, (context_answered_or_abandoned hs).2.1⟩

end

end Tina
