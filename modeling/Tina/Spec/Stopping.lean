import Tina.Invariant.Lifetimes
import Tina.Spec.Calls

/-!
Stops and settlements as acts. The central result is `stopEntryFull_performs`: whatever
path leads to it, a stop is one act that closes the mailbox and settles the parent's
observation, followed by acts that give up what the isolate held.
-/

namespace Tina

open Lib List Ensures Kind Tina.Runtime DeferredSlotRecord AnyMailboxAdapter

variable {h : Host} {s t : Runtime h} {kinds : Kind → Prop} {index : Nat} {parent : IsolateId}
  {entry : RegisteredEntry h}

section

variable {Q : PUnit → Runtime h → Prop}

@[simp] theorem ensures_recordAt {Q : ChildRecord h → Runtime h → Prop} :
    Ensures (recordAt index) s Q ↔ ∀ record, s.childRecords[index]? = some record → Q record s := by
  unfold recordAt
  rw [get_bind]
  cases hrecord : s.childRecords[index]? <;> simp

@[simp] theorem ensures_updateRecord {f : ChildRecord h → ChildRecord h} :
    Ensures (updateRecord index f) s Q ↔ ∀ record, s.childRecords[index]? = some record →
      Q ⟨⟩ (s.putRecord index (f record)) := by
  unfold updateRecord
  rw [get_bind]
  cases hrecord : s.childRecords[index]? <;> simp

@[simp] theorem ensures_releaseReservedSlot :
    Ensures (releaseReservedSlot index) s Q ↔ ∀ entry, s.entries[index]? = some entry →
      Q ⟨⟩ ((s.putEntry index entry.release).log (.slotReleased entry.id)) := by
  simp [releaseReservedSlot, releaseReservedSlot_eq, RegisteredEntry.release]

theorem exists_of_findIdx? {α : Type} {l : List α} {p : α → Bool} {i : Nat}
    (hfind : l.findIdx? p = some i) : ∃ a, l[i]? = some a ∧ p a = true := by
  obtain ⟨hlt, hp, -⟩ := findIdx?_eq_some_iff_getElem.1 hfind
  exact ⟨l[i], by simp [hlt], hp⟩

theorem releaseTerminalSlot_spec (hentry : entry ∈ s.entries) (hid : entry.id = parent) :
    Ensures (releaseTerminalSlot parent) s fun _ t => ∃ position found,
      s.entries[position]? = some found ∧ found.id = parent ∧
        t = (s.putEntry position found.release).log (.slotReleased found.id) := by
  refine get_bind.2 ?_
  cases hfind : s.entries.findIdx? (·.id = parent) with
  | none =>
    have hnone := findIdx?_eq_none_iff.1 hfind entry hentry
    simp [hid] at hnone
  | some position =>
  obtain ⟨found, hfound, hfoundId⟩ := exists_of_findIdx? hfind
  simp only [ensures_releaseReservedSlot]
  intro other hother
  rw [hfound] at hother
  cases hother
  exact ⟨position, found, hfound, by simpa using hfoundId, rfl⟩

end

section

variable {record : ChildRecord h} {message : h.Message} {generation : AddressGeneration}

/-- A held slot on a live parent is spent on the message, and never refused. -/
theorem deliverTerminal_held (hregistry : Registry s) (hslots : SlotsHeld s)
    (hrecord : s.childRecords[index]? = some record) (hheld : record.terminalSlotReserved = true) :
    Ensures (deliverTerminal record.parent true message)
      (s.putRecord index (record.settle generation)) fun _ t => Settle index s t := by
  have hmem := mem_of_getElem? hrecord
  obtain ⟨-, -, -, -, parent, hparentMem, hparentId⟩ := hslots.holder record hmem hheld
  obtain ⟨position, hposition⟩ := mem_iff_getElem?.1 hparentMem
  have hindex : s.entryIndexes record.parent = some position :=
    hregistry.entryIndexes_eq_some.2 ⟨parent, hposition, hparentId⟩
  unfold deliverTerminal
  simp only [bind_iff, get_iff]
  rw [show (s.putRecord index (record.settle generation)).entryIndexes record.parent =
    some position from hindex]
  simp only [bind_iff, ensures_entryAt]
  refine of_eq_some hposition ?_
  simp only [ite_iff, if_true]
  refine ⟨fun _ => ?_, fun hlive => ?_⟩
  · rw [ensures_releaseReservedSlot]
    refine of_eq_some hposition ?_
    exact .released generation hrecord hheld hposition hparentId
  have hsound := hslots.sound parent hparentMem
  have hpos : 0 < parent.mailbox.mailbox.reserved := by
    rw [hslots.held parent hparentMem, hparentId]
    exact countP_holds_pos hmem hheld
  have hstopped : parent.stopped = false := by simpa using hlive
  rw [trySendReservedBoxed_eq _ message (hsound.isOpen hstopped) hpos hsound.bounded]
  simp only [bind_iff, ensures_setEntry, ensures_note]
  exact .delivered generation message hrecord hheld hposition hparentId hstopped

/-- Without a reservation the message is an ordinary send. -/
theorem deliverTerminal_unheld :
    Ensures (deliverTerminal parent false message) s fun _ t => Steps IsQueue s t := by
  unfold deliverTerminal
  simp only [bind_iff, get_iff]
  cases s.entryIndexes parent with
  | none => exact .pure (.refl s)
  | some =>
  simp only [bind_iff, ensures_entryAt, ite_iff, Bool.false_eq_true, if_false, pure_iff]
  intro entry hentry
  refine ⟨fun _ => .refl s, fun _ => ?_⟩
  have hqueue : IsQueue .queue := rfl
  exact mono (dispatchLocalSend_performs hqueue) fun _ _ hpost => hpost.1

/-- The settlement proper, once the record is known to be the current one. -/
theorem settle_record {result : Option h.StopResult} (hregistry : Registry s) (hslots : SlotsHeld s)
    (hrecord : s.childRecords[index]? = some record) :
    Ensures (match record.terminalContinuation, result with
      | none, _ | some _, none => if record.terminalSlotReserved then releaseTerminalSlot
          record.parent else return ()
      | some mapper, some result =>
        match mapper result with
        | .mismatch | .panicked => if record.terminalSlotReserved then releaseTerminalSlot
            record.parent else return ()
        | .message message =>
          deliverTerminal record.parent record.terminalSlotReserved message : RuntimeM h Unit)
      (s.putRecord index (record.settle generation))
      fun _ t => ∃ u, Settle index s u ∧ Steps IsQueue u t := by
  have hrelease : Ensures (if record.terminalSlotReserved then
      releaseTerminalSlot record.parent else return () : RuntimeM h Unit)
      (s.putRecord index (record.settle generation))
      fun _ t => ∃ u, Settle index s u ∧ Steps IsQueue u t := by
    rw [ite_iff]
    refine ⟨fun hheld => ?_, fun hheld => (pure_iff _).2
      ⟨_, .unreserved generation hrecord (by simpa using hheld), .refl _⟩⟩
    obtain ⟨-, -, -, -, parent, hparent, hid⟩ :=
      hslots.holder record (mem_of_getElem? hrecord) hheld
    refine mono (releaseTerminalSlot_spec
      (s := s.putRecord index (record.settle generation)) hparent hid) ?_
    rintro _ _ ⟨_, _, hfound, hfoundId, rfl⟩
    exact ⟨_, .released generation hrecord hheld hfound hfoundId, .refl _⟩
  cases record.terminalContinuation with
  | none => exact hrelease
  | some mapper =>
  cases result with
  | none => exact hrelease
  | some result =>
  simp only
  cases mapper result with
  | mismatch | panicked => exact hrelease
  | message =>
  cases hheld : record.terminalSlotReserved with
  | true =>
    exact mono (deliverTerminal_held hregistry hslots hrecord hheld)
      fun _ t hsettle => ⟨t, hsettle, .refl t⟩
  | false =>
    exact mono deliverTerminal_unheld
      fun _ t hsteps => ⟨_, .unreserved generation hrecord hheld, hsteps⟩

end

variable {result : Option h.StopResult}

section

variable {child : RegisteredAddress}

theorem childRecordIndexByChild_some (hfind : s.childRecordIndexByChild child = some index) :
    ∃ record, s.childRecords[index]? = some record ∧ record.child = child ∧
      record.remoteOwner = none := by
  obtain ⟨record, hrecord, hp⟩ := exists_of_findIdx? hfind
  exact ⟨record, hrecord, by simpa using hp⟩

theorem childRecordIndexByChild_none (hfind : s.childRecordIndexByChild child = none)
    {record : ChildRecord h} (hrecord : record ∈ s.childRecords)
    (howner : record.remoteOwner = none) : record.child ≠ child := by
  have hnone := findIdx?_eq_none_iff.1 hfind record hrecord
  intro heq
  simp [heq, howner] at hnone

theorem eq_of_sameIsolate {address : RegisteredAddress} (hsame : sameIsolate child address = true)
    (hgeneration : address.generation = child.generation) : address = child := by
  obtain ⟨_, _, _, _⟩ := child
  obtain ⟨_, _, _, _⟩ := address
  simp_all [sameIsolate]

/-- A settlement of the observation of `child` settles its record, if one of its records
still holds a slot; and it settles no other record. -/
theorem settleChildTerminalObservation_spec (hregistry : Registry s) (hslots : SlotsHeld s)
    (hlocal : s.Local child) :
    Ensures (settleChildTerminalObservation child result) s fun _ t =>
      (t = s ∧ ∀ record ∈ s.childRecords, record.terminalSlotReserved = true →
        record.child ≠ child) ∨
      (∃ index record u, s.childRecords[index]? = some record ∧ record.child = child ∧
        record.remoteOwner = none ∧ Settle index s u ∧ Steps IsQueue u t) := by
  refine get_bind.2 ?_
  cases hfind : s.childRecordIndexByChild child with
  | none =>
    -- No record of its own has this child, so none holds a slot for it.
    have hnone : ∀ record ∈ s.childRecords, record.terminalSlotReserved = true →
        record.child ≠ child := fun record hrecord hheld =>
      childRecordIndexByChild_none hfind hrecord (hslots.holder record hrecord hheld).1
    cases hother : s.childRecordIndexForTerminal child with
    | none => exact .pure (.inl ⟨rfl, hnone⟩)
    | some =>
    simp only [childRecordIndexForTerminal, hfind] at hother
    obtain ⟨record, hrecord, hp⟩ := exists_of_findIdx? hother
    simp only [bind_iff, ensures_recordAt, ite_iff, pure_iff]
    refine of_eq_some hrecord ?_
    refine ⟨fun _ => .inl ⟨trivial, hnone⟩, fun _ => ⟨fun _ => .inl ⟨trivial, hnone⟩, fun _ =>
      ⟨fun _ => .inl ⟨trivial, hnone⟩, fun _ => ⟨fun _ => .inl ⟨trivial, hnone⟩, fun hgen =>
        ⟨fun _ => .inl ⟨trivial, hnone⟩, fun hcurrent => ?_⟩⟩⟩⟩⟩
    have hsame : sameIsolate child record.child = true := by simpa using hcurrent
    have hgeneration : record.child.generation = child.generation := by
      by_contra hne
      exact hgen ⟨hsame, hne⟩
    have howner : record.remoteOwner = none := by simp at hp; exact hp.1
    exact absurd (eq_of_sameIsolate hsame hgeneration)
      (childRecordIndexByChild_none hfind (mem_of_getElem? hrecord) howner)
  | some index =>
  obtain ⟨record, hrecord, hchild, howner⟩ := childRecordIndexByChild_some hfind
  have hterminal : s.childRecordIndexForTerminal child = some index := by
    simp [childRecordIndexForTerminal, hfind]
  -- Any record that holds a slot for this child is this record.
  have honly : record.terminalSlotReserved = false → ∀ other ∈ s.childRecords,
      other.terminalSlotReserved = true → other.child ≠ child := by
    intro hfree other hother hheld heq
    obtain ⟨position, hposition⟩ := mem_iff_getElem?.1 hother
    have hne : position ≠ index := by
      rintro rfl
      rw [hrecord] at hposition
      rw [Option.some.inj hposition, hheld] at hfree
      cases hfree
    exact hslots.child_ne hposition hrecord hne (heq ▸ hlocal) (heq.trans hchild.symm)
  have hsame : sameIsolate child record.child = true := by
    simp [sameIsolate, hchild]
  rw [hterminal]
  simp only [bind_iff, ensures_recordAt, ite_iff, pure_iff]
  refine of_eq_some hrecord ?_
  -- A record that holds a slot passes every check before the settlement.
  have hearly : ∀ {check : Prop}, (record.terminalSlotReserved = true →
      record.terminalSettledGeneration = none → ¬ check) → check →
      ∀ other ∈ s.childRecords, other.terminalSlotReserved = true → other.child ≠ child := by
    intro check hnot hcheck
    refine honly ?_
    by_contra hheld
    have hreserved : record.terminalSlotReserved = true := by simpa using hheld
    obtain ⟨-, -, -, hsettled, -⟩ := hslots.holder record (mem_of_getElem? hrecord) hreserved
    exact hnot hreserved hsettled hcheck
  refine ⟨fun hcheck => .inl ⟨trivial, hearly (fun hheld _ => by simp [hheld]) hcheck⟩, fun _ =>
    ⟨fun hcheck => .inl ⟨trivial, hearly (fun _ _ => by simp [hsame]) hcheck⟩, fun _ =>
    ⟨fun hcheck => .inl ⟨trivial, hearly (fun _ hnone => by simp [hnone]) hcheck⟩, fun _ =>
    ⟨fun hcheck => .inl ⟨trivial, hearly (fun _ _ => by simp [hchild]) hcheck⟩, fun _ =>
    ⟨fun hcheck => .inl ⟨trivial, hearly (fun _ _ => by simp [hsame]) hcheck⟩, fun _ => ?_⟩⟩⟩⟩⟩
  rw [ensures_updateRecord]
  refine of_eq_some hrecord ?_
  refine mono (settle_record hregistry hslots hrecord) ?_
  rintro _ t ⟨u, hsettle, hsteps⟩
  exact .inr ⟨index, record, u, hrecord, hchild, howner, hsettle, hsteps⟩

theorem settleChildTerminalObservation_performs (hqueue : kinds .queue)
    (hsettle : kinds .settle) (hs : Consistent s) (hlocal : s.Local child) :
    Does kinds (settleChildTerminalObservation child result) s := by
  refine .of_ensures (settleChildTerminalObservation_spec hs.registry
    hs.slots.toSlotsHeld hlocal) ?_
  rintro _ t (⟨rfl, -⟩ | ⟨_, _, u, -, -, -, hact, hsteps⟩)
  · exact ⟨.refl t, trivial⟩
  · exact ⟨(Steps.act (.settled hact) hsettle).trans
      (hsteps.weaken fun _ hkind => hkind ▸ hqueue), trivial⟩

end

section

variable (hsettle : kinds .settle) (hs : Consistent s)

include hsettle hs

theorem disposeChildTerminalReservation_performs :
    Does kinds (disposeChildTerminalReservation index : RuntimeM h PUnit) s := by
  unfold disposeChildTerminalReservation Does Performs
  simp only [bind_iff, ensures_recordAt, ite_iff, pure_iff, ensures_updateRecord]
  intro record hrecord
  refine ⟨fun _ => ⟨.refl s, trivial⟩, fun _ => ⟨fun _ => ⟨.refl s, trivial⟩, fun _ => ?_⟩⟩
  refine of_eq_some hrecord ?_
  refine ⟨fun hheld => ?_, fun hheld => ⟨.act (.settled (.unreserved _ hrecord
    (by simpa using hheld))) hsettle, trivial⟩⟩
  obtain ⟨-, -, -, -, _, hparent, hid⟩ :=
    hs.slots.holder record (mem_of_getElem? hrecord) hheld
  refine mono (releaseTerminalSlot_spec
    (s := s.putRecord index (record.settle record.child.generation)) hparent hid) ?_
  rintro _ _ ⟨_, _, hfound, hfoundId, rfl⟩
  exact ⟨.act (.settled (.released _ hrecord hheld hfound hfoundId)) hsettle, trivial⟩

theorem disposeParentTerminalReservations_performs :
    Does kinds (disposeParentTerminalReservations parent : RuntimeM h PUnit) s := by
  refine .get_bind ?_
  exact .forM hs trivial fun _ _ _ ht _ _ => disposeChildTerminalReservation_performs hsettle ht

theorem disposeAllTerminalReservationsOnShutdown_performs :
    Does kinds (disposeAllTerminalReservationsOnShutdown : RuntimeM h PUnit) s := by
  refine .get_bind ?_
  exact .forM hs trivial fun _ _ _ ht _ _ => disposeChildTerminalReservation_performs hsettle ht

end

section

variable {slot : DeferredSlotRecord}

theorem DeferredSlotRecord.callId_of_local {callId : CallId}
    (hcontext : slot.callContext = .localCaller callId) : slot.callId = callId := by
  unfold callContext at hcontext
  split at hcontext
  · simpa using hcontext
  · cases hcontext

theorem dropPromotedDeferredSlot_performs (hqueue : kinds .queue) (hcall : kinds .call)
    (hs : Consistent s) (hknown : s.Known (some slot.callContext)) :
    Does kinds (dropPromotedDeferredSlot slot : RuntimeM h PUnit) s := by
  unfold dropPromotedDeferredSlot
  split
  · exact .pure trivial
  refine .bind hs (completeIsolateCall_performs hqueue hcall hs) ?_
  rintro _ t - - ⟨hpending, hended⟩
  unfold Performs
  rw [ensures_note]
  refine ⟨.act (.discarded _ _ ?_ ?_) hcall, trivial⟩
  · intro callId hcontext
    have hid := callId_of_local hcontext
    rw [← hid]
    refine ⟨hpending, hended ?_⟩
    rw [hid]
    exact hknown callId (congrArg some hcontext)
  · rintro _ _ _ - ⟨⟩

theorem takePromotedSlots_performs {p : DeferredSlotRecord → Bool} (hcall : kinds .call)
    (hs : Consistent s) :
    Performs kinds (takePromotedSlots p : RuntimeM h _) s fun taken _ =>
      ∀ slot ∈ taken, s.Known (some slot.callContext) := by
  unfold takePromotedSlots Performs
  simp only [bind_iff, get_iff, set_iff, pure_iff]
  refine ⟨.act (.slots _ s.pendingCaptures s.nextSlotId fun slot hslot =>
    hs.contexts.slots slot ?_) hcall, fun slot hslot => hs.contexts.slots slot ?_⟩
  · rcases mem_append.1 hslot with hslot | hslot
    · exact mem_append_left _ (mem_takeWhere_rest.1 hslot).1
    · exact mem_append_right _ hslot
  · exact mem_append_left _ (mem_takeWhere_taken.1 hslot).1

variable (hqueue : kinds .queue)

include hqueue

section

variable (hcall : kinds .call) (hs : Consistent s)

include hcall hs

theorem dropPromotedSlots_performs {slots : List DeferredSlotRecord}
    (hknown : ∀ slot ∈ slots, s.Known (some slot.callContext)) :
    Does kinds (slots.forM dropPromotedDeferredSlot : RuntimeM h PUnit) s :=
  .forM hs trivial fun slot hslot _ ht hsteps _ =>
    dropPromotedDeferredSlot_performs hqueue hcall ht (hsteps.known hs (hknown slot hslot))

theorem drainStoppedEntry_performs {fuel : Nat} :
    Does kinds (drainStoppedEntry index fuel : RuntimeM h PUnit) s := by
  induction fuel generalizing s with
  | zero => exact .throw
  | succ _ ih =>
  refine .bind hs (recvEntryMessage_performs hqueue hs) ?_
  rintro (_ | message) t ht hsteps hknown
  · exact .pure trivial
  refine .bind ht (closeDrainedLocalCallContext_performs hqueue hcall ht
    (hsteps.known hs (hknown message rfl))) ?_
  intro _ u hu _ _
  exact ih hu

theorem closePrecollected_performs {precollected : Option (DeliveredMessage h)}
    (hknown : ∀ message, precollected = some message → s.Known message.callContext) :
    Does kinds (closePrecollected precollected) s := by
  cases precollected with
  | none => exact .pure trivial
  | some message =>
  refine .bind hs (closeDrainedLocalCallContext_performs hqueue hcall hs (hknown message rfl)) ?_
  intro _ t _ _ _
  exact .pure trivial

end

/-- `round_messages` loses a message; what is handed out is known. -/
theorem takeRoundMessage_performs (hs : Consistent s) :
    Performs kinds (takeRoundMessage index : RuntimeM h _) s fun result t =>
      result = s.roundMessages[index]?.join ∧
        (∀ message, result = some message → s.Known message.callContext) ∧
        t.entries = s.entries := by
  unfold takeRoundMessage Performs
  simp only [bind_iff, get_iff, set_iff, pure_iff]
  refine ⟨.act (.round _ ?_) hqueue, trivial, ?_, trivial⟩
  · intro message hmem
    rcases mem_or_eq_of_mem_set hmem with hmem | hmem
    · exact hs.contexts.round message hmem
    · cases hmem
  intro message hmessage
  cases hget : s.roundMessages[index]? with
  | none => simp [hget] at hmessage
  | some =>
    simp only [hget, Option.join_some] at hmessage
    exact hs.contexts.round message (hmessage ▸ mem_of_getElem? hget)

end

section

variable {isolateId : IsolateId} {path : StopPath}
  {precollected : Option (DeliveredMessage h)} {address : RegisteredAddress} {kind : Kind}

/-- The kinds among which every act of a stop is. -/
structure Kind.AllowStop (kinds : Kind → Prop) : Prop where
  queue : kinds .queue
  call : kinds .call
  settle : kinds .settle
  stop : kinds .stop
  prune : ∀ address, kinds (.prune address)

theorem Kind.InStop.imp (hkind : InStop address kind) (hkinds : AllowStop kinds) : kinds kind := by
  rcases hkind with rfl | rfl | rfl | rfl | rfl
  · exact hkinds.queue
  · exact hkinds.call
  · exact hkinds.settle
  · exact hkinds.stop
  · exact hkinds.prune address

theorem Kind.IsQueue.inStop (hkind : IsQueue kind) : InStop address kind :=
  .inl hkind

theorem markStopped_spec : Ensures (markStopped index path) s fun _ t =>
    ∃ entry, s.entries[index]? = some entry ∧ t = s.mark index entry path := by
  simp only [markStopped, bind_iff, ensures_entryAt, ensures_setEntry,
    modify_iff, get_iff, ensures_note]
  intro entry hentry
  exact ⟨entry, hentry, rfl⟩

/-- The stop proper: the mailbox is closed and the parent's observation settled. -/
theorem markStopped_settle_performs (hs : Consistent s) (hentry : s.entries[index]? = some entry)
    (hlive : entry.stopped = false) (hcleaned : path = .ownTurn → s.Cleaned entry.id) :
    Performs (InStop (s.addressOf entry.id)) (markStopped index path >>= fun _ =>
        settleChildTerminalObservation (s.addressOf entry.id) result) s
      fun _ t => ¬ t.Live entry.id := by
  refine bind markStopped_spec ?_
  rintro _ _ ⟨found, hfound, rfl⟩
  obtain rfl : entry = found := Option.some.inj (hentry.symm.trans hfound)
  refine mono (settleChildTerminalObservation_spec (hs.registry.mark path hentry)
    (hs.slots.toSlotsHeld.mark path hentry) ⟨rfl, rfl⟩) ?_
  rintro _ t hsettled
  -- Either way one act reaches the marked state, and queue acts may follow.
  obtain ⟨u, hact, hstatuses, hsteps⟩ : ∃ u, Act .stop s u ∧
      u.statuses = s.statuses.set index (entry.id, true) ∧ Steps IsQueue u t := by
    rcases hsettled with ⟨rfl, hnone⟩ | ⟨position, record, u, hrecord, hchild, howner, hsettle,
      hsteps⟩
    · exact ⟨_, .stopped path hentry hlive hcleaned (.inl ⟨rfl, hnone⟩), statuses_mark, .refl _⟩
    exact ⟨u, .stopped path hentry hlive hcleaned
      (.inr ⟨position, record, hrecord, hchild, howner, hsettle⟩),
      hsettle.statuses_eq.trans statuses_mark, hsteps⟩
  refine ⟨(Steps.act hact (.inr (.inr (.inr (.inl rfl))))).trans
    (hsteps.weaken fun _ hkind => hkind.inStop), fun hrunning => ?_⟩
  exact hs.registry.not_live_of_statuses hentry hstatuses
    (hsteps.live_before (hact.consistent hs) (by simp [IsQueue]) hrunning)

theorem pruneTerminalChildRecords_performs {stopped : RegisteredAddress}
    (hprune : kinds (.prune stopped)) (hlocal : s.Local stopped)
    (hstopped : ¬ s.Live stopped.isolate) :
    Does kinds (pruneTerminalChildRecords stopped : RuntimeM h PUnit) s := by
  exact .modify (.act (.pruned stopped hlocal hstopped) hprune)

/-- A stop, whatever led to it: it ends with the isolate stopped. -/
theorem stopEntryFull_performs (hs : Consistent s)
    (hid : ∀ entry, s.entries[index]? = some entry → entry.id = isolateId)
    (hcleaned : path = .ownTurn → s.Cleaned isolateId)
    (hknown : ∀ message, precollected = some message → s.Known message.callContext) :
    Performs (InStop (s.addressOf isolateId))
      (stopEntryFull index isolateId path precollected result) s
      fun _ t => ¬ t.Live isolateId := by
  refine entryAt_bind fun entry hentry => ?_
  obtain rfl := hid entry hentry
  have hgeneration := hs.registry.generation_eq (mem_of_getElem? hentry)
  rw [get_bind, hgeneration]
  have hqueue : InStop (s.addressOf entry.id) .queue := .inl rfl
  have hcall : InStop (s.addressOf entry.id) .call := .inr (.inl rfl)
  have hsettle : InStop (s.addressOf entry.id) .settle := .inr (.inr (.inl rfl))
  have hprune : InStop (s.addressOf entry.id) (.prune (s.addressOf entry.id)) :=
    .inr (.inr (.inr (.inr rfl)))
  have hregister : ¬ InStop (s.addressOf entry.id) .register := by simp [InStop]
  refine .ite (fun hstopped => ?_) fun hlive => ?_
  · -- Stopped before: only the message at hand and the observation are left to settle.
    have hdead : ¬ s.Live entry.id := hs.registry.not_live_of_stopped hentry hstopped
    refine Performs.bind hs (closePrecollected_performs hqueue hcall hs hknown) ?_
    intro _ t ht hsteps _
    refine .mono (settleChildTerminalObservation_performs hqueue hsettle ht
      ⟨(hsteps.fixed hs).1.symm, (hsteps.fixed hs).2.symm⟩) ?_
    intro _ u hsteps' _ hrunning
    exact hdead ((hsteps.trans hsteps').live_before hs hregister hrunning)
  rw [← bind_assoc]
  refine Performs.bind hs (markStopped_settle_performs hs hentry (by simpa using hlive) hcleaned) ?_
  intro _ t1 ht1 hsteps1 hdead1
  refine .bind ht1 (disposeParentTerminalReservations_performs hsettle ht1) ?_
  intro _ t2 ht2 hsteps2 _
  have hdead2 : ¬ t2.Live entry.id := fun hrunning =>
    hdead1 (hsteps2.live_before ht1 hregister hrunning)
  have hfixed2 := (hsteps1.trans hsteps2).fixed hs
  refine .bind ht2 (pruneTerminalChildRecords_performs hprune
    ⟨hfixed2.1.symm, hfixed2.2.symm⟩ hdead2) ?_
  intro _ t3 ht3 hsteps3 _
  refine .bind ht3 (takePromotedSlots_performs hcall ht3) ?_
  intro slots t4 ht4 hsteps4 hslots
  refine .bind ht4 (dropPromotedSlots_performs hqueue hcall ht4
    fun slot hslot => hsteps4.known ht3 (hslots slot hslot)) ?_
  intro _ t5 ht5 hsteps5 _
  refine .bind ht5 (cancelDriverCallsForRequester_performs hqueue hcall ht5) ?_
  intro _ t6 ht6 hsteps6 _
  refine .bind ht6 (cancelPendingIsolateCallsForOwner_performs hcall ht6) ?_
  intro _ t7 ht7 hsteps7 _
  have hsteps37 := (((hsteps3.trans hsteps4).trans hsteps5).trans hsteps6).trans hsteps7
  refine .bind ht7 (closePrecollected_performs hqueue hcall ht7
    fun message hmessage => hsteps37.known ht2 (hsteps2.known ht1 (hsteps1.known hs
      (hknown message hmessage)))) ?_
  intro _ t8 ht8 hsteps8 _
  refine entryAt_bind fun entry8 _ => ?_
  refine Performs.mono (drainStoppedEntry_performs hqueue hcall ht8) ?_
  intro _ t9 hsteps9 _ hrunning
  exact hdead2 (((hsteps37.trans hsteps8).trans hsteps9).live_before ht2 hregister hrunning)

end

end Tina
