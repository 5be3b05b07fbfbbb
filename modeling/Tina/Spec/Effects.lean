import Tina.Spec.Ownership

/-!
The effect interpreter as acts. Every effect is a sequence of acts; a runtime call starts
only in `Io`, and an answer is given only in `Reply` and `Reject`.
-/

namespace Tina

open Lib List Ensures Steps Kind Happening Tina.Runtime

variable {h : Host} {s t : Runtime h} {kinds : Kind → Prop}

/-- The kinds among which every act of an effect is, the start of a call and the answer to
one apart. -/
structure Kind.AllowEffect (kinds : Kind → Prop) : Prop extends AllowRestart kinds where
  net : kinds .net
  own : kinds .own
  request : kinds .request
  supervise : kinds .supervise

section

variable {spawn : ErasedSpawn h} {owner : RegisteredAddress}

theorem bootstrap_performs {child : RegisteredAddress} {bootstrap : Option h.Message}
    (hqueue : kinds .queue) :
    Does kinds (match bootstrap with
      | none => return ()
      | some message => enqueueBootstrapMessage child message : RuntimeM h PUnit) s := by
  cases bootstrap with
  | none => exact .pure trivial
  | some => exact enqueueBootstrapMessage_performs hqueue

theorem spawnRemote_performs {ordinal : Nat} {requestId : Option CallId}
    (hregister : kinds .register) (hown : kinds .own)
    (hhost : owner.shard ≠ s.shardId → kinds .host) (hqueue : kinds .queue) (hs : Consistent s) :
    Does kinds (spawnRemote spawn owner ordinal requestId) s := by
  refine .of_ensures spawnRemote_spec ?_
  rintro _ t (⟨_, -, rfl⟩ | ⟨-, u, hspawned, hsteps⟩)
  · exact ⟨.refl t, trivial⟩
  · exact ⟨(steps_spawnedFor hregister hown hhost hs hspawned).trans
      (hsteps.weaken fun _ hkind => hkind ▸ hqueue), trivial⟩

/-- The request just appended is the only one with its id. -/
theorem findIdx?_appended {pendings : List (PendingRemoteSpawn h)}
    {pending : PendingRemoteSpawn h} {requestId : CallId}
    (hfresh : ∀ other ∈ pendings, other.requestId ≠ requestId) (hid : pending.requestId = requestId)
    :
    (pendings ++ [pending]).findIdx? (·.requestId = requestId) =
      some pendings.length := by
  rw [findIdx?_append, findIdx?_eq_none_iff.2 (by simpa using hfresh)]
  simp [hid]

variable {context : MessageCallContext} {isolateId : IsolateId} {index : Nat}

variable (hkinds : AllowEffect kinds) (hs : Consistent s)

include hkinds hs

/-- A local caller is ended, a remote one is sent its outcome. -/
theorem rejectCallContext_performs {reason : CallRejectedReason} :
    Performs kinds (rejectCallContext context reason : RuntimeM h PUnit) s fun _ t =>
      (∀ callId, context = .localCaller callId → ¬ t.Pending callId ∧
        (s.Pending callId ∨ s.Ended callId → t.Ended callId)) ∧
      (∀ callId requester expected, context = .remoteCaller callId requester expected →
        ∃ taken, .routed (.callReply callId requester (.rejected reason)) taken ∈ t.history) := by
  cases context with
  | localCaller =>
    refine .bind hs (completeIsolateCall_performs hkinds.queue hkinds.call hs) ?_
    intro _ t _ _ hpost
    refine .pure ⟨?_, by simp⟩
    rintro _ ⟨⟩
    exact hpost
  | remoteCaller =>
  refine .bind hs (routeRemote_performs hkinds.net (by simp)) ?_
  rintro _ _ _ _ ⟨_, -, rfl⟩
  refine .pure ⟨by simp, ?_⟩
  rintro _ _ _ ⟨⟩
  exact ⟨_, mem_append_right _ (mem_singleton_self _)⟩

theorem executeReply_performs {reply : h.Message} : Does kinds (executeReply context reply) s := by
  cases context with
  | localCaller =>
    exact (completeIsolateCall_performs hkinds.queue hkinds.call hs).andReturn
  | remoteCaller =>
    exact (routeRemote_performs hkinds.net (by simp)).andReturn

theorem executeReplyTo_performs {slotId : DeferredSlotId} {message : h.Message} :
    Does kinds (executeReplyTo slotId message) s := by
  refine .get_bind ?_
  cases s.promotedSlots.findIdx? (·.slotId = slotId) with
  | none => exact .pure trivial
  | some position =>
  dsimp only
  cases s.promotedSlots[position]? with
  | none => exact .throw
  | some slot =>
  have htaken : Act .call s { s with promotedSlots := swapRemove s.promotedSlots position } := by
    refine .slots _ s.pendingCaptures s.nextSlotId fun slot hslot => hs.contexts.slots slot ?_
    rcases mem_append.1 hslot with hslot | hslot
    · exact mem_append_left _ (mem_of_mem_swapRemove hslot)
    · exact mem_append_right _ hslot
  refine .bind hs (.set (.act htaken hkinds.call)) ?_
  intro _ t ht _ _
  refine .ite (fun _ => Performs.pure trivial) fun _ => ?_
  cases slot.routing with
  | localCaller =>
    exact (completeIsolateCall_performs hkinds.queue hkinds.call ht).andReturn
  | remoteCaller =>
    exact (routeRemote_performs hkinds.net (by simp)).andReturn

omit hs in
theorem executeSend_performs {send : ErasedSend h} :
    Does kinds (executeSend send) s := by
  unfold executeSend Does Performs
  rw [get_bind, ite_iff]
  refine ⟨fun _ => Performs.pure trivial, fun _ => ?_⟩
  refine .ite (fun _ => ?_) fun _ => ?_
  · exact (dispatchLocalSend_performs hkinds.queue).andReturn
  · exact (routeRemote_performs hkinds.net (by simp)).andReturn

theorem executeSpawn_performs : Does kinds (executeSpawn isolateId spawn) s := by
  refine .bind hs (R := fun outcome t => Spawned s isolateId outcome t) ?_ ?_
  · refine .of_ensures spawnChild_spec ?_
    rintro outcome _ hspawned
    obtain ⟨-, -, _, _, rfl⟩ := id hspawned
    exact ⟨steps_withIsolate hkinds.register, hspawned⟩
  rintro _ _ ht - ⟨hchild, hheld, _, _, rfl⟩
  refine .bind ht (recordChild_performs hkinds.own hheld ?_) ?_
  · rw [hchild]
    exact freshChild_withIsolate hs
  · intro _ _ _ _ _
    exact bootstrap_performs hkinds.queue

theorem executeSpawnObserved_performs {spec : SpawnObserved h} :
    Does kinds (executeSpawnObserved index isolateId spec) s := by
  refine bind (spawnObserved_spec hkinds.queue hkinds.settle hs) ?_
  have hcontinue : ∀ {message : h.Message} (t : Runtime h), Steps kinds s t → Ensures (do
        let _ ← enqueueCallContinuation index message none
        return () : RuntimeM h PUnit) t fun _ u => Steps kinds s u ∧ True := by
    intro message t hsteps
    refine bind (enqueueCallContinuation_performs hkinds.queue known_none) ?_
    exact fun _ _ hpost => .pure ⟨hsteps.trans hpost.1, trivial⟩
  rintro ⟨_, _⟩ t (⟨rfl, hsteps⟩ | ⟨outcome, rfl, hspawned⟩)
  · exact hcontinue t hsteps
  refine bind (recordChild_observed hkinds.register hkinds.own hs hspawned) ?_
  intro _ u hsteps
  cases outcome.bootstrapMessage with
  | none => exact hcontinue u hsteps
  | some =>
    refine bind (enqueueBootstrapMessage_performs hkinds.queue) ?_
    exact fun _ v hpost => hcontinue v (hsteps.trans hpost.1)

theorem executeSpawnObservedOn_performs {parts : SendSpawnObservedParts h}
    (howner : owner.shard = s.shardId) :
    Does kinds (executeSpawnObservedOn owner parts) s := by
  refine .get_bind ?_
  refine .ite (fun _ => ?_) fun _ => ?_
  · exact Performs.bind hs (spawnRemote_performs hkinds.register hkinds.own
      (absurd howner ·) hkinds.queue hs) fun _ _ _ _ _ => deliverObservedContinuation_performs
        hkinds.queue
  have hallocated : Act .call s { s with nextCallId := s.nextCallId + 1 } := .allocated
  have hbelow : ∀ other ∈ s.pendingRemoteSpawns, other.requestId ≠ s.nextCallId :=
    fun other hother => Nat.ne_of_lt (hs.spawns.pending other hother)
  simp only [bind_iff, ensures_nextCallId, get_iff, ensures_noteOrdinal, set_iff]
  refine mono routeRemote_spec ?_
  rintro answer _ ⟨net, hroute, rfl⟩
  cases answer with
  | ok =>
    refine .pure ⟨(act hallocated hkinds.call).trans
      (.act (.requested _ parts.spawn net (Nat.lt_succ_self _) ?_ hroute) hkinds.request), trivial⟩
    intro request taken hmem
    exact Nat.ne_of_lt (hs.spawns.routed request taken hmem)
  | error reason =>
  -- The transport refused the request, and its record is taken back.
  rw [get_bind]
  dsimp only [transmit, log]
  rw [findIdx?_appended hbelow (by rfl)]
  rw [bind_iff, set_iff, eraseIdx_length_concat]
  have hrefused : Steps kinds s _ := (act hallocated hkinds.call).trans
    (.act (.requestRefused _ reason net (Nat.lt_succ_self _) hroute) hkinds.request)
  refine mono (deliverObservedContinuation_performs hkinds.queue) ?_
  exact fun _ t hpost => ⟨hrefused.trans hpost.1, trivial⟩

/-- The stop of an isolate by its own turn: the cleanup, then the stop. -/
theorem stopOwn_performs {result : Option h.StopResult}
    (hid : ∀ entry, s.entries[index]? = some entry → entry.id = isolateId) :
    Performs kinds (cleanupRemoteChildrenForOwner isolateId >>= fun _ =>
      stopEntryFull index isolateId .ownTurn none result) s fun _ t => ¬ t.Live isolateId := by
  refine .bind hs (cleanupRemoteChildrenForOwner_performs hkinds.net hkinds.request hs) ?_
  rintro _ t ht - ⟨hcleaned, hentries⟩
  exact (stopEntryFull_performs ht (hentries ▸ hid) (fun _ => hcleaned) (by simp)).weaken
    fun _ hkind => hkind.imp hkinds.toAllowStop

/-- A failure: the same, and then the supervisor is told. -/
theorem failOwn_performs (generation : AddressGeneration)
    (hid : ∀ entry, s.entries[index]? = some entry → entry.id = isolateId) :
    Does kinds (cleanupRemoteChildrenForOwner isolateId >>= fun _ =>
      stopEntry index isolateId .ownTurn >>= fun _ => get >>= fun t =>
        superviseFailedChild { system := t.systemIncarnation, shard := t.shardId,
                               isolate := isolateId, generation }) s := by
  rw [← bind_assoc]
  refine .bind hs (stopOwn_performs hkinds hs hid) ?_
  intro _ t ht _ _
  refine get_bind.2 ?_
  exact superviseFailedChild_performs hkinds.toAllowRestart hkinds.supervise ht

end

variable {P : Payload} {α : Type}

def Happening.answeredContext : Happening P → Option MessageCallContext
  | .answered callContext => some callContext
  | _ => none

/-- The contexts answered so far by an executed `Reply` or `Reject`, in order. -/
def Runtime.answered (s : Runtime h) : List MessageCallContext :=
  s.history.filterMap answeredContext

def Happening.returnedTree : Happening P → Option (Option MessageCallContext × ErasedEffect P)
  | .returned holding effect => some (holding, effect)
  | _ => none

/-- The trees that handlers returned, each with the context its turn still had to answer. -/
def Runtime.returned (s : Runtime h) :
    List (Option MessageCallContext × ErasedEffect h) :=
  s.history.filterMap returnedTree

/-- The isolates whose handlers ran, each with the context it was given. -/
def Runtime.turns (s : Runtime h) : List (IsolateId × Option MessageCallContext) :=
  s.history.filterMap fun
    | .turn isolate callContext => some (isolate, callContext)
    | _ => none

/-- What is read off the events of one tag stays the same when none of that tag is appended. -/
theorem Steps.filterMap_eq {f : Happening h → Option α} (tag : Tag)
    (hf : ∀ happening, (f happening).isSome → happening.tag = tag)
    (hkinds : ∀ kind, kinds kind → tag ∉ kind.tags) (hsteps : Steps kinds s t) (hs : Consistent s)
    : t.history.filterMap f = s.history.filterMap f := by
  refine hsteps.induct (I := (·.history.filterMap f = s.history.filterMap f)) hs ?_ rfl
  intro kind a b hkind hact _ heq
  obtain ⟨events, hhistory, htags⟩ := hact.appends
  have hnone : events.filterMap f = [] := by
    refine filterMap_eq_nil_iff.2 fun event hevent => Option.not_isSome_iff_eq_none.1 ?_
    intro hsome
    exact hkinds kind hkind (hf event hsome ▸ htags event hevent)
  rw [hhistory, filterMap_append, hnone, append_nil, heq]

/-- The acts of a round: all but those of a harvest and of the world outside. -/
def Kind.InRound : Kind → Prop
  | .host | .restartHosted | .restartRemote | .reply | .tombstone | .connect => False
  | _ => True

/-- The acts that follow a handler in its turn: all of a round but the turn of a handler and the
collection of entries. -/
def Kind.InTurn (kind : Kind) : Prop :=
  kind.InRound ∧ kind ≠ .turn ∧ kind ≠ .collect

/-- The acts of an effect tree: all that follow a handler but the return of the tree. -/
def Kind.InTree (kind : Kind) : Prop :=
  kind.InTurn ∧ kind ≠ .returned

/-- Every act of a tree but the start of a call and the answer to one. -/
def Kind.Plain (kind : Kind) : Prop :=
  kind.InTree ∧ kind ≠ .start ∧ kind ≠ .answer

theorem Kind.AllowEffect.of_plain (hplain : ∀ kind, Plain kind → kinds kind) :
    AllowEffect kinds := by
  refine ⟨⟨⟨?_, ?_, ?_, ?_, fun address => ?_⟩, ?_, ?_⟩, ?_, ?_, ?_, ?_⟩ <;>
    exact hplain _ (by simp [Plain, InTree, InTurn, InRound])

theorem Kind.allowEffect_plain : AllowEffect Plain := .of_plain (fun _ => id)

theorem Steps.started_eq (hkinds : ¬ kinds .start) (hsteps : Steps kinds s t) (hs : Consistent s)
    : t.started = s.started := by
  refine hsteps.filterMap_eq .callStarted (fun happening hsome => ?_) (fun kind hkind => ?_) hs
  · cases happening <;> first | rfl | cases hsome
  · cases kind <;> simp_all [tags]

theorem Steps.answered_eq (hkinds : ¬ kinds .answer) (hsteps : Steps kinds s t) (hs : Consistent s)
    : t.answered = s.answered := by
  refine hsteps.filterMap_eq .answered (fun happening hsome => ?_) (fun kind hkind => ?_) hs
  · cases happening <;> first | rfl | cases hsome
  · cases kind <;> simp_all [tags]

theorem Steps.returned_eq (hkinds : ¬ kinds .returned) (hsteps : Steps kinds s t)
    (hs : Consistent s) : t.returned = s.returned := by
  refine hsteps.filterMap_eq .returned (fun happening hsome => ?_) (fun kind hkind => ?_) hs
  · cases happening <;> first | rfl | cases hsome
  · cases kind <;> simp_all [tags]

theorem Steps.turns_eq (hkinds : ¬ kinds .turn) (hsteps : Steps kinds s t) (hs : Consistent s) :
    t.turns = s.turns := by
  refine hsteps.filterMap_eq .turn (fun happening hsome => ?_) (fun kind hkind => ?_) hs
  · cases happening <;> first | rfl | cases hsome
  · cases kind <;> simp_all [tags]

theorem Kind.not_plain_start : ¬ Plain .start := by simp [Plain]

theorem Kind.not_plain_answer : ¬ Plain .answer := by simp [Plain]

theorem Kind.not_plain_turn : ¬ Plain .turn := by simp [Plain, InTree, InTurn]

mutual

/-- Whether executing the effect stops the isolate. -/
def ErasedEffect.stops : ErasedEffect P → Bool
  | .stop => true
  | .fail => true
  | .stopWith _ => true
  | .batch effects => stopsIn effects
  | _ => false

def stopsIn : List (ErasedEffect P) → Bool
  | [] => false
  | effect :: rest => effect.stops || stopsIn rest

end

mutual

/-- The contexts that the executed `Io` effects of a tree are dispatched with, in order. -/
def ErasedEffect.starts : ErasedEffect P → Option MessageCallContext →
    List (Option MessageCallContext)
  | .io _, callContext => [callContext]
  | .batch effects, callContext => startsIn effects callContext
  | _, _ => []

def startsIn : List (ErasedEffect P) → Option MessageCallContext → List (Option MessageCallContext)
  | [], _ => []
  | effect :: rest, callContext =>
    effect.starts callContext ++ if effect.stops then []
      else startsIn rest (if effect.consumesCallContext then none else callContext)

end

mutual

/-- The contexts that the executed `Reply` and `Reject` effects of a tree answer. -/
def ErasedEffect.answers : ErasedEffect P → Option MessageCallContext → List MessageCallContext
  | .reply _, callContext => callContext.toList
  | .reject _, callContext => callContext.toList
  | .batch effects, callContext => answersIn effects callContext
  | _, _ => []

def answersIn : List (ErasedEffect P) → Option MessageCallContext → List MessageCallContext
  | [], _ => []
  | effect :: rest, callContext =>
    effect.answers callContext ++ if effect.stops then []
      else answersIn rest (if effect.consumesCallContext then none else callContext)

end

section

variable {index : Nat}

theorem same_id {entry : RegisteredEntry h} (hentry : s.entries[index]? = some entry) :
    ∀ other, s.entries[index]? = some other → other.id = entry.id := by
  intro other hother
  rw [Option.some.inj (hentry.symm.trans hother)]

/-- What the interpreter has done after an effect with the given call context. -/
structure Interpreted (s : Runtime h) (stopped : Bool) (starts : List (Option MessageCallContext))
    (answers : List MessageCallContext) (result : Bool) (t : Runtime h) : Prop where
  steps : Steps InTree s t
  result_eq : result = stopped
  started : t.started = s.started ++ starts
  answered : t.answered = s.answered ++ answers

open Interpreted

/-- An effect that neither starts a call nor answers one. -/
theorem Interpreted.of_plain {x : RuntimeM h α} {stopped : Bool}
    {Q : α → Runtime h → Prop} (hs : Consistent s) (hx : Performs Plain x s Q) :
    Ensures (x >>= fun _ => pure stopped) s (Interpreted s stopped [] []) := by
  refine bind hx ?_
  rintro _ t ⟨hsteps, -⟩
  refine .pure ⟨hsteps.weaken fun _ hkind => hkind.1, rfl, ?_, ?_⟩
  · rw [hsteps.started_eq not_plain_start hs, append_nil]
  · rw [hsteps.answered_eq not_plain_answer hs, append_nil]

/-- The start of a call is the only one in its effect. -/
theorem dispatchCall_interpreted {call : ErasedCall h} {requester : RegisteredAddress}
    {callContext : Option MessageCallContext} (hs : Consistent s) (hknown : s.Known callContext) :
    Ensures (dispatchCall call requester callContext >>= fun _ => pure false) s
      (Interpreted s false [callContext] []) := by
  refine bind (dispatchCall_performs allowEffect_plain.toAllowStop
    allowEffect_plain.net hs hknown) ?_
  intro _ t hsteps
  have hallocated : Act .call s { s with nextCallId := s.nextCallId + 1 } := .allocated
  have hstarted := Act.started (s := { s with nextCallId := s.nextCallId + 1 }) s.nextCallId
    callContext
  have hu := hstarted.consistent (hallocated.consistent hs)
  have hbefore : Steps InTree s _ :=
    (act hallocated (by simp [InTree, InTurn, InRound])).trans
      (.act hstarted (by simp [InTree, InTurn, InRound]))
  refine .pure ⟨hbefore.trans (hsteps.weaken fun _ hkind => hkind.1), rfl, ?_, ?_⟩
  · rw [hsteps.started_eq not_plain_start hu]
    simp [Runtime.started, Runtime.log, startedContext]
  · rw [hsteps.answered_eq not_plain_answer hu]
    simp [Runtime.answered, Runtime.log, answeredContext]

/-- An answer is noted before it is given. -/
theorem answer_interpreted {context : MessageCallContext} {x : RuntimeM h PUnit}
    {Q : PUnit → Runtime h → Prop} (hs : Consistent s)
    (hx : ∀ t, Consistent t → Performs Plain x t Q) :
    Ensures (note (.answered context) >>= fun _ => x >>= fun _ => pure false) s
      (Interpreted s false [] [context]) := by
  rw [bind_iff, ensures_note]
  have hact : Act .answer s (s.log (.answered context)) := .answered context
  refine mono (of_plain (hact.consistent hs) (hx _ (hact.consistent hs))) ?_
  rintro _ t ⟨hsteps, hresult, hstarted, hanswered⟩
  refine ⟨(act hact (by simp [InTree, InTurn, InRound])).trans hsteps, hresult, ?_, ?_⟩
  · rw [hstarted]
    simp [Runtime.started, Runtime.log, startedContext]
  · rw [hanswered]
    simp [Runtime.answered, Runtime.log, answeredContext]

/-- An effect that does nothing. -/
theorem Interpreted.idle : Ensures (pure false : RuntimeM h Bool) s (Interpreted s false [] []) :=
  .pure ⟨.refl s, rfl, by simp, by simp⟩

mutual

/-- The interpreter does what the tree says: it stops where the tree stops, and starts and
answers calls with the contexts that the tree gives them. -/
theorem executeEffect_spec (index : Nat) (effect : ErasedEffect h)
    (callContext : Option MessageCallContext) (s : Runtime h) (hs : Consistent s)
    (hknown : s.Known callContext) : Ensures (executeEffect index effect callContext) s
      (Interpreted s effect.stops (effect.starts callContext) (effect.answers callContext)) := by
  cases effect with refine entryAt_bind fun entry hentry => ?_
  | noop | fact => exact idle
  | stop | stopWith =>
    rw [← bind_assoc]
    exact of_plain hs (stopOwn_performs allowEffect_plain hs (same_id hentry))
  | fail =>
    have hfail : Ensures _ s (Interpreted s true [] []) :=
      of_plain hs (failOwn_performs allowEffect_plain hs entry.generation (same_id hentry))
    simp only [bind_assoc] at hfail
    exact hfail
  | send => exact of_plain hs (executeSend_performs allowEffect_plain)
  | spawn => exact of_plain hs (executeSpawn_performs allowEffect_plain hs)
  | spawnObserved => exact of_plain hs (executeSpawnObserved_performs allowEffect_plain hs)
  | spawnObservedOn =>
    rw [get_bind]
    exact of_plain hs (executeSpawnObservedOn_performs allowEffect_plain hs rfl)
  | restartChildren =>
    exact of_plain hs (restartChildren_performs
      allowEffect_plain.toAllowRestart allowEffect_plain.net hs)
  | stopChildren =>
    exact of_plain hs (stopChildren_performs allowEffect_plain.toAllowStop allowEffect_plain.net hs)
  | io =>
    rw [get_bind]
    exact dispatchCall_interpreted hs hknown
  | replyTo => exact of_plain hs (executeReplyTo_performs allowEffect_plain hs)
  | reply =>
    cases callContext with
    | none => exact idle
    | some =>
      exact answer_interpreted hs fun _ ht => executeReply_performs allowEffect_plain ht
  | reject =>
    cases callContext with
    | none => exact idle
    | some =>
      exact answer_interpreted hs fun _ ht => (rejectCallContext_performs
        allowEffect_plain ht).mono fun _ _ _ _ => trivial
  | batch effects => exact executeBatch_spec index effects callContext s hs hknown

theorem executeBatch_spec (index : Nat) (effects : List (ErasedEffect h))
    (callContext : Option MessageCallContext) (s : Runtime h) (hs : Consistent s)
    (hknown : s.Known callContext) : Ensures (executeBatch index effects callContext) s
      (Interpreted s (stopsIn effects) (startsIn effects callContext)
        (answersIn effects callContext)) := by
  cases effects with
  | nil => exact idle
  | cons effect rest =>
  refine bind (executeEffect_spec index effect callContext s hs hknown) ?_
  rintro _ t ⟨hsteps, rfl, hstarted, hanswered⟩
  refine .ite (fun hstops => ?_) fun hstops => ?_
  · refine .pure ⟨hsteps, ?_, ?_, ?_⟩
    · simp [stopsIn, hstops]
    · simp [startsIn, hstops, hstarted]
    · simp [answersIn, hstops, hanswered]
  have hremaining : t.Known (if effect.consumesCallContext then none else callContext) := by
    split
    · exact known_none
    · exact hsteps.known hs hknown
  refine mono (executeBatch_spec index rest _ t (hsteps.consistent hs) hremaining) ?_
  rintro _ u ⟨hsteps', rfl, hstarted', hanswered'⟩
  refine ⟨hsteps.trans hsteps', ?_, ?_, ?_⟩
  · simp [stopsIn, hstops]
  · simp [startsIn, hstops, hstarted, hstarted']
  · simp [answersIn, hstops, hanswered, hanswered']

end

end

end Tina
