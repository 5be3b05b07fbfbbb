import Mathlib.Data.List.Nodup
import Tina.Spec.Effects

/-!
A round of the runtime as acts: the turn of one isolate, and the round as a whole.
-/

namespace Tina

open Lib List Ensures Kind DeferredSlotRecord

variable {h : Host} {s t : Runtime h} {kinds : Kind → Prop} {index : Nat}
  {callContext : Option MessageCallContext} {kind : Kind}

section

variable {isolateId : IsolateId} {caller : MessageCaller}

/-- The slot that a capture makes stands for the context the caller was built from. -/
theorem known_capture {slotId : DeferredSlotId}
    (hcaller : s.buildMessageCaller callContext isolateId = some caller)
    (hknown : t.Known callContext) :
    t.Known (some (DeferredSlotRecord.callContext
      { slotId, callId := caller.callId, capturingIsolate := caller.capturingIsolate
        expectedReplyTypeId := caller.expectedReplyTypeId, isOpen := caller.isOpen
        routing := caller.routing })) := by
  rcases callContext with _ | ⟨callId⟩ | ⟨callId, _, _⟩
  · cases hcaller
  · have hshape : caller.callId = callId ∧ caller.routing = .localCaller := by
      unfold Runtime.buildMessageCaller at hcaller
      dsimp only at hcaller
      split at hcaller <;> (obtain rfl := Option.some.inj hcaller; exact ⟨rfl, rfl⟩)
    simpa [callContext, hshape.1, hshape.2] using hknown
  · cases hcaller
    exact Runtime.known_remote

variable (hcall : kinds .call) (hs : Consistent s)

include hcall hs

theorem registerCapture_performs {before : Runtime h}
    (hcaller : before.buildMessageCaller callContext isolateId = some caller)
    (hknown : s.Known callContext) :
    Does kinds (registerCapture caller : RuntimeM h PUnit) s := by
  refine .modify (.act (.slots s.promotedSlots _ _ ?_) hcall)
  intro slot hslot
  rcases mem_append.1 hslot with hslot | hslot
  · exact hs.contexts.slots slot (mem_append_left _ hslot)
  rcases mem_append.1 hslot with hslot | hslot
  · exact hs.contexts.slots slot (mem_append_right _ hslot)
  · obtain rfl := mem_singleton.1 hslot
    exact known_capture hcaller hknown

/-- The handler's turn: the entry and the shard value change, and a caller that was built
from the message may be captured. -/
theorem runHandler_performs {message : DeliveredMessage h} (hqueue : kinds .queue)
    (hturn : kinds .turn) (hknown : s.Known message.callContext) :
    Performs kinds (runHandler index message) s fun _ t => ∃ entry,
      s.entries[index]? = some entry ∧ t.turns = s.turns ++ [(entry.id, message.callContext)] := by
  refine entryAt_bind fun entry hentry => ?_
  rw [get_bind]
  have hclock : Act .queue s { s with clockReads := s.clockReads + 1 } :=
    .clock _ s.nextIsolateCallOrdinal
  have hran := Act.turn (s := { s with clockReads := s.clockReads + 1 }) entry.id
    message.callContext
  have hturned : ∀ (turn : Turn h h.Shard), Steps kinds s
      { ((({ s with clockReads := s.clockReads + 1 } : Runtime h).log
        (.turn entry.id message.callContext)).putEntry index
          { entry with isolate := turn.isolate }) with shard := turn.shard } := by
    intro turn
    refine ((Steps.act hclock hqueue).trans (.act hran hturn)).trans ?_
    generalize hstate : ({ s with clockReads := s.clockReads + 1 } : Runtime h).log _ = u
    have hfound : u.entries[index]? = some entry := by
      rw [← hstate]
      exact hentry
    have hquiet : Act .queue u ((u.putEntry index { entry with isolate := turn.isolate }).logAll
      []) := .entry hfound (.quiet rfl rfl rfl (.refl _) rfl rfl)
    refine (Steps.act hquiet hqueue).trans ?_
    simp only [Runtime.logAll, append_nil]
    exact .act (.shard turn.shard) hqueue
  cases hcaller : s.buildMessageCaller message.callContext entry.id with
  | none =>
    simp only [bind_iff, ensures_clockNow, get_iff, ensures_note,
      ensures_setEntry, modify_iff, pure_iff]
    exact ⟨hturned _, entry, hentry, filterMap_append⟩
  | some caller =>
  simp only [bind_iff, ensures_clockNow, get_iff, ensures_note,
    ensures_setEntry, modify_iff, ite_iff, pure_iff]
  refine ⟨fun _ => ?_, fun _ => ⟨hturned _, entry, hentry, filterMap_append⟩⟩
  have hsteps := hturned (h.handleCall entry.isolate message.message s.shard entry.id
    entry.generation caller (h.clock s.clockReads))
  have hcapture : Performs (· = .call) (registerCapture caller : RuntimeM h PUnit) _ _ :=
    registerCapture_performs rfl (hsteps.consistent hs) hcaller (hsteps.known hs hknown)
  refine mono hcapture fun _ _ hpost => ⟨?_, entry, hentry, ?_⟩
  · exact hsteps.trans (hpost.1.weaken fun _ hkind => hkind ▸ hcall)
  · rw [hpost.1.turns_eq (by simp) (hsteps.consistent hs)]
    exact filterMap_append

theorem drainPendingCaptures_performs :
    Performs kinds (drainPendingCaptures : RuntimeM h _) s fun captures t =>
      captures = s.pendingCaptures ∧ t = { s with pendingCaptures := [] } := by
  unfold drainPendingCaptures Performs
  simp only [bind_iff, get_iff, set_iff, pure_iff]
  refine ⟨.act (.slots s.promotedSlots [] s.nextSlotId fun slot hslot => ?_) hcall,
    trivial, trivial⟩
  exact hs.contexts.slots slot (mem_append_left _ (by simpa using hslot))

theorem promoteCaptures_performs :
    Performs kinds (promoteCaptures : RuntimeM h Bool) s fun captured _ =>
      captured = !s.pendingCaptures.isEmpty := by
  refine .bind hs (drainPendingCaptures_performs hcall hs) ?_
  rintro _ _ _ hsteps ⟨rfl, rfl⟩
  unfold Performs
  rw [bind_iff, modify_iff, pure_iff]
  refine ⟨.act (.slots _ [] s.nextSlotId fun slot hslot => ?_) hcall, rfl⟩
  refine hsteps.known hs (hs.contexts.slots slot ?_)
  simpa using hslot

theorem dropPendingDeferredCaptures_performs (hqueue : kinds .queue) :
    Does kinds (dropPendingDeferredCaptures : RuntimeM h Bool) s := by
  refine .bind hs (drainPendingCaptures_performs hcall hs) ?_
  rintro _ t ht hsteps ⟨rfl, -⟩
  have hknown : ∀ capture ∈ s.pendingCaptures, t.Known (some capture.callContext) :=
    fun capture hcapture =>
      hsteps.known hs (hs.contexts.slots capture (mem_append_right _ hcapture))
  refine .bind ht (R := fun _ _ => True) (.forM ht trivial ?_) fun _ _ _ _ _ => .pure trivial
  intro capture hcapture u hu hsteps' _
  refine .bind hu (completeIsolateCall_performs hqueue hcall hu) ?_
  rintro _ v - - ⟨hpending, hended⟩
  unfold Performs
  rw [ensures_note]
  refine ⟨.act (.discarded _ _ ?_ ?_) hcall, trivial⟩
  · intro callId hcontext
    have hid := callId_of_local hcontext
    rw [← hid]
    refine ⟨hpending, hended ?_⟩
    rw [hid]
    exact hsteps'.known ht (hknown capture hcapture) callId (congrArg some hcontext)
  · rintro _ _ _ - ⟨⟩

theorem sweepDroppedDeferredSlots_performs (hqueue : kinds .queue) :
    Does kinds (sweepDroppedDeferredSlots : RuntimeM h PUnit) s := by
  refine .get_bind ?_
  refine .bind hs (takePromotedSlots_performs hcall hs) ?_
  intro slots t ht hsteps hslots
  exact dropPromotedSlots_performs hqueue hcall ht
    fun slot hslot => hsteps.known hs (hslots slot hslot)

end

section

theorem finishPanickedTurn_performs (hs : Consistent s) (hknown : s.Known callContext) :
    Does Plain (finishPanickedTurn index callContext : RuntimeM h PUnit) s := by
  have hkinds := allowEffect_plain
  refine entryAt_bind fun entry hentry => ?_
  have htail : ∀ t : Runtime h, Consistent t → Steps Plain s t →
      Does Plain (cleanupRemoteChildrenForOwner entry.id >>= fun _ =>
        stopEntry index entry.id .ownTurn >>= fun _ => get >>= fun t =>
          superviseFailedChild { system := t.systemIncarnation, shard := t.shardId,
                                 isolate := entry.id, generation := entry.generation }) t := by
    intro t ht hsteps
    obtain ⟨_, hentry', hid⟩ := hsteps.entry_stays hs (by simp [Plain, InTree, InTurn]) hentry
    exact failOwn_performs hkinds ht entry.generation (hid ▸ same_id hentry')
  refine Performs.bind hs (dropPendingDeferredCaptures_performs hkinds.call hs hkinds.queue) ?_
  intro capturedAny t ht hsteps _
  cases callContext with
  | none => exact htail t ht hsteps
  | some =>
  cases capturedAny with
  | true => exact htail t ht hsteps
  | false =>
  refine .bind ht (rejectCallContext_performs hkinds ht) ?_
  rintro _ u hu hsteps' ⟨hlocal, hremote⟩
  refine .bind hu (R := fun _ _ => True) ?_
    fun _ v hv hsteps'' _ => htail v hv ((hsteps.trans hsteps').trans hsteps'')
  unfold Performs
  rw [ensures_note]
  refine ⟨.act (.discarded _ _ ?_ ?_) hkinds.call, trivial⟩
  · intro callId hcontext
    obtain ⟨hpending, hended⟩ := hlocal callId hcontext
    exact ⟨hpending, hended (hsteps.known hs hknown callId (congrArg some hcontext))⟩
  · intro callId requester expected hcontext _
    obtain ⟨taken, hrouted⟩ := hremote callId requester expected hcontext
    exact ⟨_, taken, hrouted⟩

/-- The context that a turn still has to answer when its handler has returned. -/
def Runtime.holding (s : Runtime h) (callContext : Option MessageCallContext) :
    Option MessageCallContext :=
  if s.pendingCaptures = [] then callContext else none

open Tina.Runtime

/-- The context a turn hands to the effect tree: only a tree that answers it gets it. -/
def ErasedEffect.given {P : Payload} (effect : ErasedEffect P)
    (holding : Option MessageCallContext) : Option MessageCallContext :=
  if effect.consumesCallContext then holding else none

open ErasedEffect

/-- The tree was returned and executed. -/
structure Turned (s : Runtime h) (holding : Option MessageCallContext)
    (effect : ErasedEffect h) (t : Runtime h) : Prop where
  steps : Steps InTurn s t
  returned : t.returned = s.returned ++ [(holding, effect)]
  started : t.started = s.started ++ effect.starts (effect.given holding)
  answered : t.answered = s.answered ++ effect.answers (effect.given holding)

/-- Executing the tree is all that a turn does after the tree was returned, but for plain
acts before it. -/
theorem executeReturned_spec (index : Nat) (effect : ErasedEffect h)
    {holding : Option MessageCallContext} {u : Runtime h} (hs : Consistent s)
    (hbefore : Steps Plain s t) (hknown : t.Known holding)
    (hsteps : Steps Plain (t.log (.returned holding effect)) u) :
    Ensures (do
      let _ ← executeEffect index effect (effect.given holding)
      return () : RuntimeM h PUnit) u fun _ v =>
        Turned s holding effect v := by
  have hreturned : Act .returned t (t.log (.returned holding effect)) := .returned holding effect
  have ht := hbefore.consistent hs
  have hlogged := hreturned.consistent ht
  have hplain : ∀ kind, Plain kind → InTurn kind := fun _ hkind => hkind.1.1
  have hgiven : u.Known (effect.given holding) := by
    unfold given
    split
    · exact hsteps.known hlogged (hreturned.known hknown)
    · exact known_none
  refine bind (executeEffect_spec index effect _ u (hsteps.consistent hlogged) hgiven) ?_
  rintro _ v ⟨hsteps', -, hstarted, hanswered⟩
  refine .pure ⟨?_, ?_, ?_, ?_⟩
  · exact ((hbefore.weaken hplain).trans (.act hreturned (by simp [InTurn, InRound]))).trans
      ((hsteps.weaken hplain).trans (hsteps'.weaken fun _ hkind => hkind.1))
  · rw [hsteps'.returned_eq (·.2 rfl) (hsteps.consistent hlogged),
      hsteps.returned_eq (·.1.2 rfl) hlogged]
    rw [← hbefore.returned_eq (·.1.2 rfl) hs]
    simp [Runtime.returned, log, Happening.returnedTree]
  · rw [hstarted, hsteps.started_eq not_plain_start hlogged]
    rw [← hbefore.started_eq not_plain_start hs]
    simp [started, log, Happening.startedContext]
  · rw [hanswered, hsteps.answered_eq not_plain_answer hlogged]
    rw [← hbefore.answered_eq not_plain_answer hs]
    simp [answered, log, Happening.answeredContext]

theorem finishTurn_spec {effect : ErasedEffect h} (hs : Consistent s)
    (hknown : s.Known callContext) :
    Ensures (finishTurn index callContext effect) s fun _ t =>
      Turned s (s.holding callContext) effect t := by
  have hkinds := allowEffect_plain
  refine bind (promoteCaptures_performs hkinds.call hs) ?_
  rintro _ t ⟨hsteps, rfl⟩
  rw [bind_iff, ensures_note]
  cases hcaptures : s.pendingCaptures with
  | cons =>
    have hholding : s.holding callContext = none := by simp [holding, hcaptures]
    have hgiven : effect.given none = none := ite_self none
    have hspec := executeReturned_spec index effect hs hsteps known_none (.refl _)
    rw [hgiven] at hspec
    rwa [hholding]
  | nil =>
  have hholding : s.holding callContext = callContext := by simp [holding, hcaptures]
  have hspec := fun u => executeReturned_spec index effect (u := u) hs hsteps
    (hsteps.known hs hknown)
  rw [hholding]
  cases hconsumes : effect.consumesCallContext with
  | true =>
    simp only [given, hconsumes, if_true] at hspec
    exact hspec _ (.refl _)
  | false =>
  simp only [given, hconsumes, Bool.false_eq_true, if_false] at hspec
  cases callContext with
  | none => exact hspec _ (.refl _)
  | some context =>
  have hlogged := (Act.returned (s := t) (some context) effect).consistent (hsteps.consistent hs)
  refine bind (rejectCallContext_performs hkinds hlogged) ?_
  rintro _ u ⟨hsteps', -⟩
  exact hspec u hsteps'

/-- The acts that neither return a tree nor start or answer a call. -/
def Kind.Quiet (kind : Kind) : Prop :=
  kind ≠ .start ∧ kind ≠ .answer ∧ kind ≠ .returned

/-- The acts of a round beside the trees of its turns. -/
def Kind.Silent (kind : Kind) : Prop :=
  kind.InRound ∧ kind.Quiet

theorem Kind.Plain.silent (hplain : kind.Plain) : kind.Silent :=
  ⟨hplain.1.1.1, hplain.2.1, hplain.2.2, hplain.1.2⟩

/-- The acts between the turns of a round, up to its collection. -/
def Kind.InPlace (kind : Kind) : Prop :=
  kind.Silent ∧ kind ≠ .collect

theorem Kind.Plain.inPlace (hplain : kind.Plain) : kind.InPlace :=
  ⟨hplain.silent, hplain.1.1.2.2⟩

/-- The isolate whose handler the turn at `index` runs. -/
def Runtime.visitAt (s : Runtime h) (index : Nat) : Option IsolateId :=
  match s.roundMessages[index]?.join with
  | none => none
  | some _ => (s.entries[index]?.filter (!·.stopped)).map (·.id)

/-- The isolates whose handlers ran, in order. -/
def Runtime.ran (s : Runtime h) : List IsolateId :=
  s.turns.map Prod.fst

theorem Steps.ran_eq (hkinds : ¬ kinds .turn) (hsteps : Steps kinds s t) (hs : Consistent s) :
    t.ran = s.ran := by
  rw [ran, hsteps.turns_eq hkinds hs, ran]

/-- A turn runs the handler of the entry it visits, and of no other. It is silent, or returns one
tree and executes it. -/
theorem runTurn_spec (hs : Consistent s) : Ensures (runTurn index : RuntimeM h PUnit) s fun _ t =>
      ∃ u, Steps InPlace s u ∧ u.ran = s.ran ++ (s.visitAt index).toList ∧ (t = u ∨
        ∃ holding effect, Turned u holding effect t) := by
  have hsilent : ∀ kind : Kind, kind.Plain → kind.InPlace := fun _ hkind => hkind.inPlace
  have hkinds := allowEffect_plain
  refine bind (takeRoundMessage_performs hkinds.queue hs) ?_
  rintro message t ⟨htaken, hresult, hknown, hentries⟩
  have ht := htaken.consistent hs
  have hbefore := htaken.ran_eq not_plain_turn hs
  have hsteps := htaken.weaken hsilent
  rw [Runtime.visitAt, ← hresult, ← hentries]
  cases message with
  | none => exact .pure ⟨t, hsteps, by simp [hbefore], .inl rfl⟩
  | some message =>
  have hmessage : t.Known message.callContext := hsteps.known hs (hknown message rfl)
  refine entryAt_bind fun entry hentry => ?_
  refine .ite (fun hstopped => ?_) fun hlive => ?_
  · refine bind (closeDrainedLocalCallContext_performs hkinds.queue hkinds.call ht hmessage) ?_
    rintro _ u ⟨hclosed, -⟩
    refine .pure ⟨u, hsteps.trans (hclosed.weaken hsilent), ?_, .inl rfl⟩
    simp [hclosed.ran_eq not_plain_turn ht, hbefore, hentry, hstopped]
  have hplace : AllowEffect InPlace := .of_plain hsilent
  refine bind (runHandler_performs hplace.call ht hplace.queue
    (by simp [InPlace, Silent, InRound, Quiet]) hmessage) ?_
  rintro effect u ⟨hsteps', _, hentry', hturns⟩
  obtain rfl := Option.some.inj (hentry.symm.trans hentry')
  have hu := hsteps'.consistent ht
  have hran : u.ran = s.ran ++ [entry.id] := by
    rw [ran, hturns, map_append, ← hbefore, ran]
    rfl
  cases effect with
  | none =>
    refine mono (finishPanickedTurn_performs hu (hsteps'.known ht hmessage)) ?_
    rintro _ v ⟨hpanicked, -⟩
    refine ⟨v, (hsteps.trans hsteps').trans (hpanicked.weaken hsilent), ?_, .inl rfl⟩
    simp [hpanicked.ran_eq not_plain_turn hu, hran, hentry, hlive, Option.filter]
  | some effect =>
    refine mono (finishTurn_spec hu (hsteps'.known ht hmessage)) fun _ v hturned => ?_
    refine ⟨u, hsteps.trans hsteps', ?_, .inr ⟨_, effect, hturned⟩⟩
    simp [hran, hentry, hlive, Option.filter]

end

theorem collectRoundMessages_performs (hqueue : kinds .queue) (hs : Consistent s) :
    Does kinds (collectRoundMessages : RuntimeM h PUnit) s := by
  refine .bind hs (.modify (.act (.round [] (by simp)) hqueue)) ?_
  intro _ t ht _ _
  refine get_bind.2 ?_
  refine Performs.forM ht trivial ?_
  intro index _ u hu _ _
  have hcollected : ∀ (v : Runtime h) (message : Option (DeliveredMessage h)),
      Consistent v → (∀ delivered, message = some delivered → v.Known delivered.callContext) →
      Does kinds (modify fun s => { s with roundMessages := s.roundMessages ++ [message] } :
        RuntimeM h PUnit) v := by
    intro v message hv hmessage
    refine .modify (.act (.round _ ?_) hqueue)
    intro delivered hmem
    rcases mem_append.1 hmem with hmem | hmem
    · exact hv.contexts.round delivered hmem
    · exact hmessage delivered (mem_singleton.1 hmem).symm
  refine entryAt_bind fun entry _ => ?_
  refine .ite (fun _ => ?_) fun _ => ?_
  · exact hcollected u none hu (by simp)
  refine Performs.bind hu (recvEntryMessage_performs hqueue hu) ?_
  intro message v hv hsteps hknown
  exact hcollected v message hv fun delivered heq => hsteps.known hu (hknown delivered heq)

theorem indexEntries_eq_some {entries : List (RegisteredEntry h)}
    (hnodup : (entries.map (·.id)).Nodup) (isolateId : IsolateId) (index : Nat) :
    indexEntries entries isolateId = some index ↔
      ∃ entry, entries[index]? = some entry ∧ entry.id = isolateId := by
  have hentry : ∀ position : Nat, entries[position]?.any (·.id = isolateId) =
      true ↔ (entries.map (·.id))[position]? = some isolateId := by
    intro position
    rw [getElem?_map]
    cases entries[position]? <;> simp
  have hmapped : (∃ entry, entries[index]? = some entry ∧ entry.id = isolateId) ↔
      (entries.map (·.id))[index]? = some isolateId := by
    rw [getElem?_map, Option.map_eq_some_iff]
  have hfirst : ∀ position, indexEntries entries isolateId = some position →
      (entries.map (·.id))[position]? = some isolateId := by
    intro position hfind
    have hp := find?_some hfind
    exact (hentry position).1 hp
  rw [hmapped]
  constructor
  · exact hfirst index
  intro hfound
  obtain ⟨hlt, hget⟩ := List.getElem?_eq_some_iff.1 hfound
  cases hfind : indexEntries entries isolateId with
  | none =>
    have hmem : index ∈ (range entries.length).reverse := by simpa using hlt
    exact absurd ((hentry index).2 hfound) (find?_eq_none.1 hfind index hmem)
  | some position =>
    obtain ⟨_, hget'⟩ := List.getElem?_eq_some_iff.1 (hfirst position hfind)
    rw [(Nodup.getElem_inj_iff hnodup).1 (hget'.trans hget.symm)]

theorem gcStoppedEntries_performs (hcollect : kinds .collect) (hs : Consistent s) :
    Does kinds (gcStoppedEntries : RuntimeM h PUnit) s := by
  unfold gcStoppedEntries Does Performs
  rw [modify_iff]
  split
  · have hkept := takeWhere_rest s.canGcStoppedEntry s.entries
    refine ⟨.act (.collected _ _ _ hkept ?_) hcollect, trivial⟩
    intro isolateId index
    split
    · rename_i hempty
      rw [swapRemoveAll_of_taken_nil (isEmpty_iff.1 hempty)]
      exact hs.registry.entryIndexes_eq_some
    refine indexEntries_eq_some ?_ isolateId index
    have hnodup : (s.entries.map (·.id)).Nodup := by
      simpa [Runtime.keys, Function.comp_def] using hs.registry.nodup
    exact (hkept.map _).nodup_iff.2 (hnodup.sublist (filter_sublist.map _))
  · exact ⟨.refl s, trivial⟩

/-- What a round does before its turns. -/
def openRound : RuntimeM h Unit := do
  let now ← clockNow
  advanceDriver now
  harvestIsolateCallTimeouts now
  collectRoundMessages

/-- A round up to its collection. -/
def deliverRound : RuntimeM h Unit := do
  openRound
  (List.range (← get).roundMessages.length).forM runTurn
  modify fun s => { s with roundMessages := [] }
  sweepDroppedDeferredSlots

theorem stepWithRemote_eq :
    (stepWithRemote : RuntimeM h Unit) = deliverRound >>= fun _ => gcStoppedEntries := by
  simp only [stepWithRemote, deliverRound, openRound, bind_assoc]

theorem openRound_performs (hkinds : AllowStop kinds) (hs : Consistent s) :
    Does kinds (openRound : RuntimeM h Unit) s := by
  refine .bind hs (R := fun _ _ => True) (ensures_clockNow.2
    ⟨.act (.clock _ s.nextIsolateCallOrdinal) hkinds.queue, trivial⟩) ?_
  intro now t ht _ _
  refine .bind ht (advanceDriver_performs hkinds ht) ?_
  intro _ u hu _ _
  refine .bind hu (harvestIsolateCallTimeouts_performs hkinds.queue hkinds.call hu) ?_
  intro _ v hv _ _
  exact collectRoundMessages_performs hkinds.queue hv

/-- What silent acts and whole turns keep survives a round up to its collection. -/
theorem deliverRound_induct {I : Runtime h → Prop} (hs : Consistent s)
    (hsilent : ∀ s t, Consistent s → Steps InPlace s t → I s → I t)
    (hturned : ∀ s t holding effect, Consistent s → Turned s holding effect t → I s → I t)
    (hI : I s) :
    Ensures (deliverRound : RuntimeM h Unit) s fun _ t => Consistent t ∧ I t := by
  have hkinds : AllowStop InPlace :=
    (AllowEffect.of_plain fun _ hkind => hkind.inPlace).toAllowStop
  have hkeep : ∀ {α : Type} {x : RuntimeM h α} {t : Runtime h} {Q : α → Runtime h → Prop},
      Performs InPlace x t Q → Consistent t ∧ I t →
      Ensures x t fun _ u => Consistent u ∧ I u := by
    intro α x t Q hx ht
    exact mono hx fun _ u hpost => ⟨hpost.1.consistent ht.1, hsilent t u ht.1 hpost.1 ht.2⟩
  have hturn : ∀ index t, Consistent t ∧ I t →
      Ensures (runTurn index : RuntimeM h PUnit) t fun _ u => Consistent u ∧ I u := by
    intro index t ht
    refine (runTurn_spec ht.1).mono ?_
    rintro _ v ⟨u, hsteps, -, rfl | ⟨holding, effect, hturned'⟩⟩
    · exact ⟨hsteps.consistent ht.1, hsilent t _ ht.1 hsteps ht.2⟩
    have hu := hsteps.consistent ht.1
    exact ⟨hturned'.steps.consistent hu,
      hturned u v holding effect hu hturned' (hsilent t u ht.1 hsteps ht.2)⟩
  refine bind (hkeep (openRound_performs hkinds hs) ⟨hs, hI⟩) ?_
  intro _ w hw
  rw [get_bind]
  refine bind (forM _ (fun t => Consistent t ∧ I t) _ (fun index _ t ht => hturn index t ht) hw) ?_
  intro _ x hx
  refine bind (hkeep (.modify (.act (.round [] (by simp)) hkinds.queue)) hx) ?_
  intro _ y hy
  exact hkeep (sweepDroppedDeferredSlots_performs hkinds.call hy.1 hkinds.queue) hy

/-- One round of a shard runtime is a sequence of acts. -/
theorem stepWithRemote_performs (hs : Consistent s) :
    Does InRound (stepWithRemote : RuntimeM h PUnit) s := by
  rw [stepWithRemote_eq]
  have hround : Does InRound (deliverRound : RuntimeM h Unit) s := by
    refine (deliverRound_induct (I := Steps InRound s) hs ?_ ?_ (.refl s)).mono
      fun _ _ hpost => ⟨hpost.2, trivial⟩
    · exact fun t u _ hsteps ht => ht.trans (hsteps.weaken fun _ hkind => hkind.1.1)
    · exact fun t u _ _ _ hturned ht =>
        ht.trans (hturned.steps.weaken fun _ hkind => hkind.1)
  exact .bind hs hround fun _ _ ht _ _ => gcStoppedEntries_performs trivial ht

end Tina
