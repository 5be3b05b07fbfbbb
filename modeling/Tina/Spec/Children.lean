import Tina.Spec.Dispatch

/-!
Children as acts. A reservation is made before the child it watches exists, so the acts of
an observed spawn or restart are put together here: the registration first, then the
reservation with the record that holds it.
-/

namespace Tina

open Lib Ensures Kind List RegisteredEntry

variable {h : Host} {s t : Runtime h} {kinds : Kind → Prop} {parent : IsolateId} {index : Nat}
  {outcome : SpawnOutcome h} {isolate : h.Isolate} {capacity : Nat} {u : Runtime h}

section

variable {entry : RegisteredEntry h} {isolate : h.Isolate} {owner : Option IsolateId}
  {capacity : Nat}

/-- The state after a slot of the entry at `index` is set aside. -/
def Runtime.reserveAt (s : Runtime h) (index : Nat) (entry : RegisteredEntry h) :
    Runtime h :=
  (s.putEntry index entry.reserve).log (.slotReserved entry.id)

/-- A slot that can be set aside in `parent`'s mailbox. -/
structure Runtime.Reservable (s : Runtime h) (parent : IsolateId) (index : Nat)
    (entry : RegisteredEntry h) : Prop where
  found : s.entries[index]? = some entry
  owner : entry.id = parent
  isOpen : entry.mailbox.IsOpen
  hasRoom : entry.mailbox.HasRoom

open Tina.Runtime

theorem tryReserveTerminalSlot_spec : Ensures (tryReserveTerminalSlot parent) s fun result t =>
      (result = .ok () ∧ ∃ index entry, s.Reservable parent index entry ∧
        t = s.reserveAt index entry) ∨
      (∃ error, result = .error error ∧ Steps IsQueue s t) := by
  refine get_bind.2 ?_
  cases hfind : s.entries.findIdx? (·.id = parent) with
  | none => exact .pure (.inr ⟨.closed, rfl, .refl s⟩)
  | some index =>
  obtain ⟨found, hfound, hid⟩ := exists_of_findIdx? hfind
  simp only [bind_iff, ensures_entryAt, ite_iff, pure_iff]
  refine of_eq_some hfound ?_
  refine ⟨fun _ => .inr ⟨.closed, rfl, .refl s⟩, fun _ => ?_⟩
  rcases found.mailbox.tryReserveSlot_cases with
    ⟨hopen, hroom, hreserve⟩ | ⟨error, _, hreserve, hsame⟩
  · rw [hreserve]
    simp only [bind_iff, ensures_setEntry, ensures_note, pure_iff]
    exact .inl ⟨trivial, index, found, ⟨hfound, by simpa using hid, hopen, hroom⟩, rfl⟩
  · rw [hreserve]
    simp only [bind_iff, ensures_setEntry, pure_iff]
    exact .inr ⟨error, rfl, steps_sameMailbox (by rfl) hfound hsame⟩

/-- A reservation that is given back leaves its two events and nothing else. -/
theorem releaseTerminalSlot_reserveAt (hs : Consistent s)
    (hreservable : s.Reservable parent index entry) (hsettle : kinds .settle) :
    Ensures (releaseTerminalSlot parent) (s.reserveAt index entry) fun _ t => Steps kinds s t := by
  obtain ⟨hentry, hid, -, -⟩ := hreservable
  have hreserved : (s.reserveAt index entry).entries[index]? = some entry.reserve :=
    getElem?_putEntry entry.reserve hentry
  refine mono (releaseTerminalSlot_spec (mem_of_getElem? hreserved) hid) ?_
  rintro _ _ ⟨position, found, hfound, hfoundId, rfl⟩
  -- Ids are unique, so the slot is given back to the entry that it was taken from.
  have hposition : position = index := by
    by_contra hne
    have hother : s.entries[position]? = some found := by
      simpa [reserveAt, log, putEntry, Ne.symm hne] using hfound
    exact hne (hs.registry.entry_unique hother hentry (hfoundId.trans hid.symm))
  subst hposition
  obtain rfl : entry.reserve = found := Option.some.inj (hreserved.symm.trans hfound)
  have hsame : entry.reserve.release = entry := by
    simp [reserve, release, AnyMailboxAdapter.withReserved]
  have hset : s.entries.set position entry = s.entries := by
    obtain ⟨hlt, rfl⟩ := List.getElem?_eq_some_iff.1 hentry
    exact set_getElem_self hlt
  have hact : Act .settle s (s.logAll [.slotReserved entry.id, .slotReleased entry.id]) :=
    .unreserved hentry
  have hstate : (((s.reserveAt position entry).putEntry position entry.reserve.release).log
      (.slotReleased entry.reserve.id)) =
      s.logAll [.slotReserved entry.id, .slotReleased entry.id] := by
    rw [hsame, show entry.reserve.id = entry.id from rfl]
    simp [reserveAt, putEntry, log, logAll, hset]
  rw [hstate]
  exact .act hact hsettle

/-- Registration does not look at the mailbox of another entry. -/
theorem withIsolate_reserveAt (hentry : s.entries[index]? = some entry) :
    (s.reserveAt index entry).withIsolate isolate owner capacity =
      (s.withIsolate isolate owner capacity).reserveAt index entry := by
  have hlt := lt_of_getElem? hentry
  simp [reserveAt, withIsolate, Runtime.register, putEntry, log, set_append_left _ _ hlt]

theorem Runtime.Reservable.withIsolate (hreservable : s.Reservable parent index entry) :
    (s.withIsolate isolate owner capacity).Reservable parent index entry := by
  obtain ⟨hentry, hid, hopen, hroom⟩ := hreservable
  refine ⟨?_, hid, hopen, hroom⟩
  have hlt := lt_of_getElem? hentry
  exact (getElem?_append_left hlt).trans hentry

end

section

variable {spawn : ErasedSpawn h}

/-- What a spawn returns and leaves behind: a fresh child that nothing refers to yet. -/
def Spawned (s : Runtime h) (parent : IsolateId) (outcome : SpawnOutcome h)
    (t : Runtime h) : Prop :=
  outcome.child = s.addressOf s.nextIsolateId ∧ outcome.terminalSlotReserved = false ∧
    ∃ isolate capacity, t = s.withIsolate isolate (some parent) capacity

theorem spawnIsolate_spawned {bootstrap : Option h.Message} :
    Ensures (spawnIsolate parent isolate capacity bootstrap) s
      fun outcome t => Spawned s parent outcome t :=
  mono spawnIsolate_spec fun _ _ ⟨hchild, hheld, hstate⟩ =>
    ⟨hchild, hheld, isolate, capacity, hstate⟩

theorem spawnChild_spec :
    Ensures (spawnChild spawn parent) s fun outcome t => Spawned s parent outcome t := by
  unfold spawnChild
  cases spawn with
  | child => exact spawnIsolate_spawned
  | restartable recipe =>
  dsimp only
  cases recipe.build with
  | none => exact (throw_iff _).2 trivial
  | some =>
    exact bind spawnIsolate_spawned fun _ _ hspawned => .pure hspawned

theorem trySpawnObserved_spec : Ensures (trySpawnObserved spawn parent) s fun result t =>
      (∃ error, result = .error error ∧ t = s) ∨
      (∃ outcome, result = .ok outcome ∧ Spawned s parent outcome t) := by
  unfold trySpawnObserved
  rw [ite_iff]
  refine ⟨fun _ => .pure (.inl ⟨_, rfl, rfl⟩), fun _ => ?_⟩
  cases spawn with
  | child =>
    exact bind spawnIsolate_spawned fun outcome _ hspawned => .pure (.inr ⟨outcome, rfl, hspawned⟩)
  | restartable recipe =>
  dsimp only
  cases recipe.build with
  | none => exact .pure (.inl ⟨_, rfl, rfl⟩)
  | some =>
    exact bind spawnIsolate_spawned fun _ _ hspawned => .pure (.inr ⟨_, rfl, hspawned⟩)

theorem create_spec {recipe : RestartRecipe h} :
    Ensures (recipe.create parent : RuntimeM h _) s fun result t =>
      (result = none ∧ t = s) ∨
      (∃ outcome, result = some outcome ∧ Spawned s parent outcome t) := by
  unfold RestartRecipe.create
  cases recipe.build with
  | none => exact .pure (.inl ⟨rfl, rfl⟩)
  | some =>
  rw [ite_iff]
  refine ⟨fun _ => .pure (.inl ⟨rfl, rfl⟩), fun _ => ?_⟩
  exact bind spawnIsolate_spawned fun outcome _ hspawned => .pure (.inr ⟨outcome, rfl, hspawned⟩)

/-- An observed spawn that succeeded: the child is registered, and the parent's slot is
set aside when the outcome says so. -/
def ObservedSpawn (s : Runtime h) (parent : IsolateId) (outcome : SpawnOutcome h)
    (t : Runtime h) : Prop :=
  outcome.child = s.addressOf s.nextIsolateId ∧ ∃ isolate capacity,
    (outcome.terminalSlotReserved = false ∧ t = s.withIsolate isolate (some parent) capacity) ∨
    (outcome.terminalSlotReserved = true ∧ outcome.terminalContinuation.isSome = true ∧
      ∃ index entry, s.Reservable parent index entry ∧
        t = (s.withIsolate isolate (some parent) capacity).reserveAt index entry)

theorem spawnObserved_spec {spec : SpawnObserved h} (hqueue : kinds .queue)
    (hsettle : kinds .settle) (hs : Consistent s) :
    Ensures (spawnObserved spec parent) s fun result t =>
      (result.1 = none ∧ Steps kinds s t) ∨
      (∃ outcome, result.1 = some outcome ∧ ObservedSpawn s parent outcome t) := by
  refine .ite (fun hobserved => ?_) fun _ => ?_
  · refine bind tryReserveTerminalSlot_spec ?_
    rintro _ t (⟨rfl, index, entry, hreservable, rfl⟩ | ⟨error, rfl, hsteps⟩)
    · simp only [pure_bind]
      refine bind trySpawnObserved_spec ?_
      rintro _ t (⟨error, rfl, rfl⟩ | ⟨outcome, rfl, hchild, -, isolate, capacity, rfl⟩)
      · simp only [if_true]
        exact bind (releaseTerminalSlot_reserveAt hs hreservable hsettle)
          fun _ _ hsteps => .pure (.inl ⟨rfl, hsteps⟩)
      · rw [withIsolate_reserveAt hreservable.found]
        exact .pure (.inr ⟨_, rfl, hchild, isolate, capacity,
          .inr ⟨rfl, hobserved, index, entry, hreservable, rfl⟩⟩)
    · exact (pure_iff _).2 (.inl ⟨rfl, hsteps.weaken fun _ hkind => hkind ▸ hqueue⟩)
  · simp only [pure_bind]
    refine bind trySpawnObserved_spec ?_
    rintro _ t (⟨_, rfl, rfl⟩ | ⟨_, rfl, hchild, -, isolate, capacity, rfl⟩)
    · exact .pure (.inl ⟨rfl, .refl t⟩)
    · exact .pure (.inr ⟨_, rfl, hchild, isolate, capacity, .inl ⟨rfl, rfl⟩⟩)

/-- The record of an observed spawn completes its acts. -/
theorem recordChild_observed (hregister : kinds .register) (hown : kinds .own) (hs : Consistent s)
    (hspawned : ObservedSpawn s parent outcome u) :
    Ensures (recordChild parent outcome) u fun _ t => Steps kinds s t := by
  obtain ⟨hchild, isolate, capacity, hspawned⟩ := hspawned
  have hfresh : (s.withIsolate isolate (some parent) capacity).FreshChild outcome.child := by
    rw [hchild]
    exact freshChild_withIsolate hs
  obtain ⟨hheld, rfl⟩ | ⟨hheld, hcontinuation, index, entry, hreservable, rfl⟩ := hspawned
  · refine mono (recordChild_performs hown hheld hfresh) ?_
    exact fun _ _ hpost => (steps_withIsolate hregister).trans hpost.1
  refine mono recordChild_spec ?_
  rintro _ _ rfl
  have hlive : (s.withIsolate isolate (some parent) capacity).Live outcome.child.isolate := by
    rw [hchild]
    exact live_withIsolate
  have hreserved : (s.withIsolate isolate (some parent) capacity).Reservable parent index
    entry := hreservable.withIsolate
  exact (steps_withIsolate hregister).trans (.act (.observed _ rfl hheld hcontinuation rfl
    hfresh hlive hreserved.found hreserved.owner hreserved.isOpen hreserved.hasRoom) hown)

end

variable {ordinal : Nat}

section

variable {owner : RegisteredAddress} {requestId : Option CallId} {bootstrap : Option h.Message}

/-- The record that `registerRemoteChild` writes on the shard of the child. -/
def hostedRecord (owner child : RegisteredAddress) (ordinal capacity : Nat)
    (requestId : Option CallId) (remoteOwner : Option RegisteredAddress)
    (recipe : Option (RestartRecipe h)) : ChildRecord h where
  parent := owner.isolate
  child
  childOrdinal := ordinal
  mailboxCapacity := capacity
  restartRecipe := recipe
  restartContinuation := none
  terminalContinuation := none
  terminalSlotReserved := false
  terminalSettledGeneration := none
  previousChild := none
  remoteRequestId := requestId
  remoteOwner
  remoteRestartable := false
  terminal := false

/-- What a spawn for `owner` leaves behind, before the bootstrap message: an owned child
if the owner is here, a hosted one otherwise. -/
def SpawnedFor (s : Runtime h) (owner : RegisteredAddress) (ordinal : Nat)
    (requestId : Option CallId) (t : Runtime h) : Prop :=
  ∃ isolate capacity recipe, (owner.shard = s.shardId ∧ ∃ record,
      record = hostedRecord owner (s.addressOf s.nextIsolateId) ordinal capacity none none recipe ∧
      t = ((s.withIsolate isolate (some owner.isolate) capacity).logOrdinal record).pushRecord
        record) ∨
    (owner.shard ≠ s.shardId ∧ t = (s.withIsolate isolate none capacity).pushRecord
        (hostedRecord owner (s.addressOf s.nextIsolateId) ordinal capacity requestId
          (some owner) recipe))

theorem bootstrap_spec {child : RegisteredAddress} : Ensures (match bootstrap with
      | none => return child
      | some message => do
        enqueueBootstrapMessage child message
        return child : RuntimeM h RegisteredAddress) s
      fun answer t => answer = child ∧ Steps IsQueue s t := by
  cases bootstrap with
  | none => exact .pure ⟨rfl, .refl s⟩
  | some =>
    refine bind (enqueueBootstrapMessage_performs (show IsQueue .queue from rfl)) ?_
    exact fun _ t hpost => .pure ⟨rfl, hpost.1⟩

theorem registerRemoteChild_spec {remoteOwner : Option RegisteredAddress}
    {recipe : Option (RestartRecipe h)}
    (howner : owner.shard ≠ s.shardId → remoteOwner = some owner) :
    Ensures (registerRemoteChild isolate capacity bootstrap owner ordinal requestId remoteOwner
      recipe) s fun child t => child = s.addressOf s.nextIsolateId ∧
        ∃ u, SpawnedFor s owner ordinal requestId u ∧ Steps IsQueue u t := by
  refine get_bind.2 ?_
  refine bind registerEntry_spec ?_
  rintro _ _ ⟨rfl, rfl⟩
  by_cases hlocal : owner.shard = s.shardId
  · simp only [hlocal, if_true, bind_iff, ensures_noteOrdinal, ensures_pushChildRecord]
    exact mono bootstrap_spec fun _ _ hpost =>
      ⟨hpost.1, _, ⟨isolate, capacity, recipe, .inl ⟨hlocal, _, rfl, rfl⟩⟩, hpost.2⟩
  · simp only [hlocal, if_false, howner hlocal, bind_iff, ensures_pushChildRecord]
    exact mono bootstrap_spec fun _ _ hpost =>
      ⟨hpost.1, _, ⟨isolate, capacity, recipe, .inr ⟨hlocal, rfl⟩⟩, hpost.2⟩

theorem spawnRemote_spec {spawn : ErasedSpawn h} :
    Ensures (spawnRemote spawn owner ordinal requestId) s fun outcome t =>
      (∃ error, outcome = .error error ∧ t = s) ∨
      (outcome = .ok (s.addressOf s.nextIsolateId) ∧
        ∃ u, SpawnedFor s owner ordinal requestId u ∧ Steps IsQueue u t) := by
  refine get_bind.2 ?_
  rw [ite_iff]
  refine ⟨fun _ => .pure (.inl ⟨_, rfl, rfl⟩), fun _ => ?_⟩
  have howner : owner.shard ≠ s.shardId →
      (if owner.shard ≠ s.shardId then some owner else none) = some owner := fun hne => if_pos hne
  cases spawn with
  | child =>
    refine bind (registerRemoteChild_spec howner) ?_
    rintro _ t ⟨rfl, hspawned⟩
    exact .pure (.inr ⟨rfl, hspawned⟩)
  | restartable recipe =>
  dsimp only
  cases recipe.build with
  | none => exact .pure (.inl ⟨_, rfl, rfl⟩)
  | some =>
  refine bind (registerRemoteChild_spec howner) ?_
  rintro _ t ⟨rfl, hspawned⟩
  exact .pure (.inr ⟨rfl, hspawned⟩)

theorem steps_spawnedFor (hregister : kinds .register) (hown : kinds .own)
    (hhost : owner.shard ≠ s.shardId → kinds .host) (hs : Consistent s)
    (hspawned : SpawnedFor s owner ordinal requestId u) : Steps kinds s u := by
  obtain ⟨_, _, _, ⟨-, _, rfl, rfl⟩ | ⟨hremote, rfl⟩⟩ := hspawned
  · exact (steps_withIsolate hregister).trans
      (.act (.owned _ rfl rfl (freshChild_withIsolate hs)) hown)
  exact (steps_withIsolate hregister).trans
    (.act (.hosted _ (by simp [hostedRecord]) rfl rfl (freshChild_withIsolate hs)) (hhost hremote))

end

theorem deliverObservedContinuation_performs {owner : RegisteredAddress} {message : h.Message}
    (hqueue : kinds .queue) :
    Does kinds (deliverObservedContinuation owner message) s := by
  refine .get_bind ?_
  refine .ite (fun _ => ?_) fun _ => ?_
  · cases s.entryIndex owner with
    | none => exact Performs.pure trivial
    | some =>
      simp only [bind_iff, pure_iff]
      exact enqueueCallContinuation_performs hqueue Runtime.known_none
  · simp only [bind_iff, pure_iff]
    exact dispatchLocalSend_performs hqueue

section

variable {child : RegisteredAddress} {path : StopPath}

/-- A running child is stopped; afterwards the child does not run. -/
theorem stopRunningChild_performs (hs : Consistent s) (hpath : path ≠ .ownTurn) :
    Performs (InStop child) (stopRunningChild child path : RuntimeM h PUnit) s
      fun _ t => s.Local child → child.generation = 0 → ¬ t.Live child.isolate := by
  unfold stopRunningChild Performs
  rw [get_bind]
  cases hindex : s.entryIndex child with
  | none =>
    exact Performs.pure fun hlocal hgeneration =>
      Runtime.entryIndex_none hs.registry hlocal hgeneration hindex
  | some index =>
  obtain ⟨haddress, _, hentry, hid⟩ := Runtime.entryIndex_some hs.registry hindex
  refine entryAt_bind (of_eq_some hentry ?_)
  rw [ite_iff]
  refine ⟨fun hstopped => Performs.pure fun _ _ =>
    hid ▸ hs.registry.not_live_of_stopped hentry hstopped, fun _ => ?_⟩
  refine Performs.bind hs (takeRoundMessage_performs (.inl rfl) hs) ?_
  rintro precollected t ht hsteps ⟨-, hknown, hentries⟩
  have hsame : child = t.addressOf child.isolate := by
    rw [Runtime.addressOf, (hsteps.fixed hs).1, (hsteps.fixed hs).2]
    exact haddress
  have hstop : Performs (InStop (t.addressOf child.isolate))
      (stopEntryFull index child.isolate path precollected none) t
      fun _ u => ¬ u.Live child.isolate := by
    refine stopEntryFull_performs ht ?_ (absurd · hpath) ?_
    · intro other hother
      rw [hentries, hentry] at hother
      exact Option.some.inj hother ▸ hid
    · exact fun message hmessage => hsteps.known hs (hknown message hmessage)
  rw [← hsame] at hstop
  exact hstop.mono fun _ _ _ hdead _ _ => hdead

/-- What a restart does once the old child is stopped: it gives up, with the reservation
returned, or a new child takes its place in the record. -/
def Rebuilt (parent : IsolateId) (index : Nat) (s t : Runtime h) : Prop :=
  Steps (fun kind => kind = .queue ∨ kind = .settle) s t ∨
  ∃ isolate capacity u record, Act .restart (s.withIsolate isolate (some parent) capacity) u ∧
    u.childRecords = s.childRecords.set index record ∧
    record.child = s.addressOf s.nextIsolateId ∧ Steps Kind.IsQueue u t

/-- What follows the new binding: a bootstrap message and the parent's continuation. -/
theorem afterRestart_spec {generation : AddressGeneration} : Ensures (do
      match outcome.bootstrapMessage with
      | none => pure ()
      | some message => enqueueBootstrapMessage outcome.child message
      match (← recordAt index).restartContinuation with
      | none => return ()
      | some continuation =>
        let s ← get
        deliverObservedContinuation
          { system := s.systemIncarnation, shard := s.shardId, isolate := parent, generation }
          (continuation outcome.child) : RuntimeM h PUnit) s
      fun _ t => Steps IsQueue s t := by
  have hqueue : IsQueue .queue := rfl
  have hcontinuation : ∀ u : Runtime h, Ensures (do
      match (← recordAt index).restartContinuation with
      | none => return ()
      | some continuation =>
        let s ← get
        deliverObservedContinuation
          { system := s.systemIncarnation, shard := s.shardId, isolate := parent, generation }
          (continuation outcome.child) : RuntimeM h PUnit) u
      fun _ t => Steps IsQueue u t := by
    intro u
    rw [bind_iff, ensures_recordAt]
    intro record _
    cases record.restartContinuation with
    | none => exact .pure (.refl u)
    | some =>
      rw [get_bind]
      exact mono (deliverObservedContinuation_performs hqueue) fun _ _ hpost => hpost.1
  cases outcome.bootstrapMessage with
  | none => exact hcontinuation s
  | some =>
    refine bind (enqueueBootstrapMessage_performs hqueue) ?_
    exact fun _ u hpost => mono (hcontinuation u) fun _ _ hsteps => hpost.1.trans hsteps

/-- The record of a child that does not run holds no slot. -/
theorem Consistent.not_held_of_dead {record : ChildRecord h} (hs : Consistent s)
    (hrecord : record ∈ s.childRecords)
    (hdead : s.Local record.child → record.child.generation = 0 → ¬ s.Live record.child.isolate) :
    record.terminalSlotReserved = false := by
  by_contra hheld
  have hreserved : record.terminalSlotReserved = true := by simpa using hheld
  have hlocal := (hs.slots.holder record hrecord hreserved).2.1
  exact hdead hlocal (hs.slots.localChild record hrecord hlocal).1
    (hs.slots.running record hrecord hreserved)

/-- A restart of the record at `index`: nothing without a parent or a recipe, otherwise the
child is stopped first. -/
theorem restartChildRecord_spec (hs : Consistent s)
    (hparent : ∀ record, s.childRecords[index]? = some record → record.parent = parent) :
    Ensures (restartChildRecord parent index : RuntimeM h PUnit) s fun _ t =>
      (t = s ∧ (s.entryByIsolate parent = none ∨
        ∃ record, s.childRecords[index]? = some record ∧ record.restartRecipe = none)) ∨
      ∃ record u, s.childRecords[index]? = some record ∧ record.restartRecipe.isSome = true ∧
        Steps (InStop record.child) s u ∧
        (s.Local record.child → record.child.generation = 0 → ¬ u.Live record.child.isolate) ∧
        Rebuilt parent index u t := by
  refine get_bind.2 ?_
  cases hentry : s.entryByIsolate parent with
  | none => exact .pure (.inl ⟨rfl, .inl rfl⟩)
  | some =>
  rw [bind_iff, ensures_recordAt]
  intro record hrecord
  cases hrecipe : record.restartRecipe with
  | none => exact .pure (.inl ⟨rfl, .inr ⟨record, hrecord, hrecipe⟩⟩)
  | some =>
  have hsome : record.restartRecipe.isSome = true := by rw [hrecipe]; rfl
  refine bind (stopRunningChild_performs hs (by simp)) ?_
  rintro _ u ⟨hsteps, hdead⟩
  have hu := hsteps.consistent hs
  obtain ⟨stopped, hstopped, hpersists⟩ := hsteps.record_persists hs hrecord hsome
  have hfree : stopped.terminalSlotReserved = false := by
    refine hu.not_held_of_dead (mem_of_getElem? hstopped) ?_
    rw [hpersists.child]
    refine fun hlocal hgeneration => hdead ?_ hgeneration
    rwa [Runtime.Local, ← (hsteps.fixed hs).1, ← (hsteps.fixed hs).2]
  rw [bind_iff, ensures_recordAt]
  refine of_eq_some hstopped ?_
  refine mono ?_ fun _ t (hrebuilt : Rebuilt parent index u t) =>
    .inr ⟨record, u, hrecord, hsome, hsteps, hdead, hrebuilt⟩
  refine .ite (fun hobserved => ?_) fun _ => ?_
  · have howner : stopped.remoteOwner = none := by
      by_contra hhosted
      rw [hu.hosted stopped (mem_of_getElem? hstopped) hhosted] at hobserved
      cases hobserved
    refine bind tryReserveTerminalSlot_spec ?_
    rintro _ _ (⟨rfl, position, entry, hreservable, rfl⟩ | ⟨_, rfl, hqueue⟩)
    · simp only [pure_bind]
      refine bind create_spec ?_
      rintro _ _ (⟨rfl, rfl⟩ | ⟨outcome, rfl, hchild, -, isolate, capacity, rfl⟩)
      · exact mono (releaseTerminalSlot_reserveAt hu hreservable (.inr rfl))
          fun _ _ hsteps => .inl hsteps
      rw [withIsolate_reserveAt hreservable.found]
      rw [bind_iff, ensures_updateRecord]
      refine of_eq_some hstopped ?_
      rw [bind_iff, ensures_note, ← hpersists.remoteOwner]
      refine mono afterRestart_spec ?_
      intro _ t hqueue
      have hreserved : (u.withIsolate isolate (some parent) capacity).Reservable parent
        position entry := hreservable.withIsolate
      have hfresh : (u.withIsolate isolate (some parent) capacity).FreshChild
        outcome.child := hchild ▸ freshChild_withIsolate hu
      have hlive : (u.withIsolate isolate (some parent) capacity).Live
        outcome.child.isolate := hchild ▸ live_withIsolate
      have hid : entry.id = stopped.parent := by
        rw [hreserved.owner, hpersists.parent, hparent record hrecord]
      refine .inr ⟨isolate, capacity, _, _, ?_, rfl, ?_, hqueue⟩
      · exact .restartedObserved _ hstopped ⟨rfl, rfl, rfl, rfl⟩ hfree rfl howner hobserved
          rfl hfresh hlive hreserved.found hid hreserved.isOpen hreserved.hasRoom
      · exact hchild
    · exact .pure (.inl (hqueue.weaken fun _ hkind => .inl hkind))
  · simp only [pure_bind]
    refine bind create_spec ?_
    rintro _ _ (⟨rfl, rfl⟩ | ⟨outcome, rfl, hchild, -, isolate, capacity, rfl⟩)
    · exact .pure (.inl (.refl _))
    rw [bind_iff, ensures_updateRecord]
    refine of_eq_some hstopped ?_
    rw [bind_iff, ensures_note, ← hpersists.remoteOwner]
    refine mono afterRestart_spec ?_
    intro _ t hqueue
    have hfresh : (u.withIsolate isolate (some parent) capacity).FreshChild
      outcome.child := hchild ▸ freshChild_withIsolate hu
    refine .inr ⟨isolate, capacity, _, _, ?_, rfl, ?_, hqueue⟩
    · exact .restarted _ hstopped ⟨rfl, rfl, rfl, rfl⟩ hfree rfl hfresh
    · exact hchild

/-- The kinds among which every act of a restart is. -/
structure Kind.AllowRestart (kinds : Kind → Prop) : Prop extends Kind.AllowStop kinds where
  register : kinds .register
  restart : kinds .restart

theorem steps_rebuilt (hkinds : AllowRestart kinds) (hrebuilt : Rebuilt parent index s t) :
    Steps kinds s t := by
  rcases hrebuilt with hsteps | ⟨_, _, u, _, hact, -, -, hsteps⟩
  · refine hsteps.weaken ?_
    rintro _ (rfl | rfl)
    · exact hkinds.queue
    · exact hkinds.settle
  · exact ((steps_withIsolate hkinds.register).trans (.act hact hkinds.restart)).trans
      (hsteps.weaken fun _ hkind => hkind ▸ hkinds.queue)

theorem restartChildRecord_performs (hkinds : AllowRestart kinds) (hs : Consistent s)
    (hparent : ∀ record, s.childRecords[index]? = some record → record.parent = parent) :
    Does kinds (restartChildRecord parent index : RuntimeM h PUnit) s := by
  refine .of_ensures (restartChildRecord_spec hs hparent) ?_
  rintro _ t (⟨rfl, -⟩ | ⟨_, u, -, -, hsteps, -, hrebuilt⟩)
  · exact ⟨.refl t, trivial⟩
  · exact ⟨(hsteps.weaken fun _ hkind => hkind.imp hkinds.toAllowStop).trans
      (steps_rebuilt hkinds hrebuilt), trivial⟩

theorem requestRemoteChildRestart_performs (hnet : kinds .net) :
    Does kinds (requestRemoteChildRestart parent child ordinal : RuntimeM h PUnit) s := by
  refine .get_bind ?_
  cases s.entryByIsolate parent with
  | none => exact .pure trivial
  | some =>
    refine bind (routeRemote_performs hnet (by simp)) ?_
    exact fun _ _ hpost => .pure ⟨hpost.1, trivial⟩

theorem requestRemoteChildStop_performs (hnet : kinds .net) :
    Performs kinds (requestRemoteChildStop parent child ordinal : RuntimeM h PUnit) s
      fun _ t => ∃ net taken, t = s.transmit net [.routed (.childStop
        { owner := s.ownerAddress parent, child, childOrdinal := ordinal })
          taken] := by
  unfold requestRemoteChildStop Performs
  rw [get_bind, bind_iff]
  refine mono (routeRemote_performs hnet (by simp)) ?_
  rintro answer t ⟨hsteps, net, -, hstate⟩
  exact .pure ⟨hsteps, net, answer.isOk, hstate⟩

theorem restartChildren_performs (hkinds : AllowRestart kinds) (hnet : kinds .net)
    (hs : Consistent s) :
    Does kinds (restartChildren parent : RuntimeM h PUnit) s := by
  refine .get_bind ?_
  refine .forM hs trivial ?_
  intro index _ t ht _ _
  unfold Performs
  rw [get_bind, bind_iff, ensures_recordAt]
  intro record hrecord
  rw [ite_iff]
  refine ⟨fun howned => ?_, fun _ => Performs.pure trivial⟩
  rw [ite_iff]
  refine ⟨fun _ => ?_, fun _ => restartChildRecord_performs hkinds ht ?_⟩
  · rw [ite_iff]
    exact ⟨fun _ => requestRemoteChildRestart_performs hnet, fun _ => Performs.pure trivial⟩
  · refine of_eq_some hrecord ?_
    exact howned.1

theorem stopChildren_performs (hkinds : AllowStop kinds) (hnet : kinds .net) (hs : Consistent s) :
    Does kinds (stopChildren parent : RuntimeM h PUnit) s := by
  refine .get_bind ?_
  refine .forM hs trivial ?_
  intro record _ t ht _ _
  refine get_bind.2 ?_
  refine .ite (fun _ => ?_) fun _ => ?_
  · exact Performs.mono (requestRemoteChildStop_performs hnet) fun _ _ _ _ => trivial
  · exact ((stopRunningChild_performs ht (by simp)).weaken
      fun _ hkind => hkind.imp hkinds).mono fun _ _ _ _ => trivial

end

end Tina
