import Tina.Invariant.Steps

/-!
Registration and the queues as acts: what each method of `Tina.Runtime.Registration`
does, and that it does nothing else.
-/

namespace Tina

open Lib Ensures DefaultMailbox Steps

variable {h : Host} {s : Runtime h} {kinds : Kind → Prop} {entry : RegisteredEntry h} {index : Nat}

section

variable {Q : PUnit → Runtime h → Prop}

@[simp] theorem ensures_note {happening : Happening h} :
    Ensures (note happening) s Q ↔ Q ⟨⟩ (s.log happening) :=
  modify_iff _

@[simp] theorem ensures_setEntry :
    Ensures (setEntry index entry) s Q ↔ Q ⟨⟩ (s.putEntry index entry) :=
  modify_iff _

@[simp] theorem ensures_entryAt {Q : RegisteredEntry h → Runtime h → Prop} :
    Ensures (entryAt index) s Q ↔ ∀ entry, s.entries[index]? = some entry → Q entry s := by
  unfold entryAt
  rw [get_bind]
  cases hentry : s.entries[index]? <;> simp

theorem entryAt_bind {α : Type} {x : RegisteredEntry h → RuntimeM h α} {P : α → Runtime h → Prop}
    (hx : ∀ entry, s.entries[index]? = some entry → Ensures (x entry) s P) :
    Ensures (entryAt index >>= x) s P :=
  bind_iff.2 (ensures_entryAt.2 hx)

@[simp] theorem ensures_clockNow {Q : Instant → Runtime h → Prop} :
    Ensures clockNow s Q ↔ Q (h.clock s.clockReads) { s with clockReads := s.clockReads + 1 } := by
  simp [clockNow]

@[simp] theorem ensures_nextIsolateId {Q : IsolateId → Runtime h → Prop} :
    Ensures nextIsolateId s Q ↔
      Q s.nextIsolateId { s with nextIsolateId := s.nextIsolateId + 1 } := by
  simp [nextIsolateId]

@[simp] theorem ensures_pushChildRecord {record : ChildRecord h} :
    Ensures (pushChildRecord record) s Q ↔ Q ⟨⟩ (s.pushRecord record) :=
  modify_iff _

@[simp] theorem ensures_noteOrdinal {parent : IsolateId} {ordinal : Nat} :
    Ensures (noteOrdinal parent ordinal) s Q ↔
      Q ⟨⟩ (s.log (.ordinalAssigned parent ordinal (s.carriedOrdinals parent))) := by
  simp [noteOrdinal]

theorem putEntry_putEntry {entry' : RegisteredEntry h} :
    (s.putEntry index entry).putEntry index entry' = s.putEntry index entry' := by
  simp [Runtime.putEntry]

theorem getElem?_putEntry (entry' : RegisteredEntry h) (hentry : s.entries[index]? = some entry) :
    (s.putEntry index entry').entries[index]? = some entry' := by
  have hlt := lt_of_getElem? hentry
  simp [Runtime.putEntry, hlt]

end

section

variable {message : h.Message} {callContext : Option MessageCallContext}

/-- The two ends of an ordinary send: accepted with its context, or nothing. -/
theorem enqueueEntryMessage_spec :
    Ensures (enqueueEntryMessage index message callContext) s fun result t =>
      ∃ entry, s.entries[index]? = some entry ∧
        ((result = .ok () ∧ entry.mailbox.IsOpen ∧ entry.mailbox.HasRoom ∧
            t = (s.putEntry index (entry.accept message callContext)).log
              (.accepted entry.id message callContext)) ∨
          (∃ error mailbox, result = .error error ∧ entry.mailbox.SameMailbox mailbox ∧
            t = s.putEntry index { entry with mailbox })) := by
  refine entryAt_bind fun entry hentry => ?_
  rcases entry.mailbox.trySendBoxed_cases message with
    ⟨hopen, hroom, hsend⟩ | ⟨error, mailbox, hsend, hsame⟩
  · rw [hsend]
    simp only [bind_iff, ensures_setEntry, ensures_note, pure_iff]
    exact ⟨entry, hentry, .inl ⟨trivial, hopen, hroom, rfl⟩⟩
  · rw [hsend]
    simp only [bind_iff, ensures_setEntry, pure_iff]
    exact ⟨entry, hentry, .inr ⟨error, mailbox, rfl, hsame, rfl⟩⟩

variable (hqueue : kinds .queue)

include hqueue

/-- A mailbox that refuses a message is the same mailbox. -/
theorem steps_sameMailbox {mailbox : AnyMailboxAdapter h.Message}
    (hentry : s.entries[index]? = some entry) (hsame : entry.mailbox.SameMailbox mailbox) :
    Steps kinds s (s.putEntry index { entry with mailbox }) := by
  have hact : Act .queue s ((s.putEntry index { entry with mailbox }).logAll []) :=
    .entry hentry (.quiet rfl rfl rfl hsame rfl rfl)
  simpa [Runtime.logAll] using act hact hqueue

theorem steps_accept (hentry : s.entries[index]? = some entry)
    (hopen : entry.mailbox.IsOpen) (hroom : entry.mailbox.HasRoom) (hknown : s.Known callContext) :
    Steps kinds s ((s.putEntry index (entry.accept message callContext)).log
      (.accepted entry.id message callContext)) :=
  .act (.entry hentry (.accept message callContext hopen hroom hknown)) hqueue

theorem enqueueEntryMessage_performs (hknown : s.Known callContext) :
    Does kinds (enqueueEntryMessage index message callContext) s := by
  refine .of_ensures enqueueEntryMessage_spec ?_
  rintro _ t ⟨_, hentry, ⟨-, hopen, hroom, rfl⟩ | ⟨_, _, -, hsame, rfl⟩⟩
  · exact ⟨steps_accept hqueue hentry hopen hroom hknown, trivial⟩
  · exact ⟨steps_sameMailbox hqueue hentry hsame, trivial⟩

theorem enqueueCallContinuation_performs (hknown : s.Known callContext) :
    Does kinds (enqueueCallContinuation index message callContext) s := by
  refine entryAt_bind fun entry hentry => ?_
  rcases entry.mailbox.trySendBoxed_cases message with
    ⟨hopen, hroom, hsend⟩ | ⟨error, mailbox, hsend, hsame⟩
  · rw [hsend]
    simp only [bind_iff, ensures_setEntry, ensures_note, pure_iff]
    exact ⟨steps_accept hqueue hentry hopen hroom hknown, trivial⟩
  rw [hsend]
  cases error with
  | closed =>
    simp only [bind_iff, ensures_setEntry, pure_iff]
    exact ⟨steps_sameMailbox hqueue hentry hsame, trivial⟩
  | full returned =>
  simp only [bind_iff, ensures_setEntry, pure_iff]
  refine ⟨(steps_sameMailbox hqueue hentry hsame).trans ?_, trivial⟩
  have hpark := Act.entry (getElem?_putEntry { entry with mailbox } hentry)
    (.park { message := returned, callContext } hknown)
  rw [putEntry_putEntry] at hpark
  simpa [Runtime.logAll] using act hpark hqueue

/-- What a receive hands out carries a context that is known, and takes nothing but the
head of a queue. -/
theorem recvEntryMessage_performs (hs : Consistent s) :
    Performs kinds (recvEntryMessage index) s fun result _ =>
      ∀ delivered, result = some delivered → s.Known delivered.callContext := by
  refine entryAt_bind fun entry hentry => ?_
  have hcarries := hs.contexts.entries entry (List.mem_of_getElem? hentry)
  cases hoverflow : entry.continuationOverflow with
  | cons delivered rest =>
    simp only [bind_iff, ensures_setEntry, pure_iff]
    refine ⟨?_, ?_⟩
    · simpa [Runtime.logAll] using act (.entry hentry (.unpark delivered rest hoverflow)) hqueue
    · rintro _ ⟨⟩
      exact hcarries.2 delivered (by simp [hoverflow])
  | nil =>
  unfold AnyMailboxAdapter.recvBoxed recv
  cases hmailbox : entry.mailbox.mailbox.queue with
  | nil =>
    simp only [pure_iff]
    exact ⟨.refl s, by simp⟩
  | cons message rest =>
  simp only [bind_iff, ensures_setEntry, ensures_note, pure_iff]
  refine ⟨?_, ?_⟩
  · simpa [hoverflow, Runtime.log, Runtime.logAll, AnyMailboxAdapter.withQueue] using
      act (.entry hentry (.receive message rest hmailbox)) hqueue
  rintro _ ⟨⟩
  cases hcontexts : entry.callContexts with
  | nil => exact Runtime.known_none
  | cons callContext => exact hcarries.1 callContext (by simp [hcontexts])

end

section

variable {isolate : h.Isolate} {parent : Option IsolateId} {capacity : Nat}

/-- An entry as registration leaves it. -/
def freshEntry (id : IsolateId) (isolate : h.Isolate) (parent : Option IsolateId)
    (mailbox : AnyMailboxAdapter h.Message) : RegisteredEntry h where
  id
  generation := 0
  parent
  stopped := false
  mailbox
  callContexts := []
  continuationOverflow := []
  isolate

/-- The state after an isolate with an empty mailbox is registered. -/
def Runtime.withIsolate (s : Runtime h) (isolate : h.Isolate) (parent : Option IsolateId)
    (capacity : Nat) : Runtime h :=
  s.register (freshEntry s.nextIsolateId isolate parent (.new (.new capacity)))

theorem registerEntry_spec : Ensures
    (registerEntry isolate parent (.new (.new capacity)) : RuntimeM h RegisteredAddress) s
    fun address t => address = s.addressOf s.nextIsolateId ∧
      t = s.withIsolate isolate parent capacity := by
  simp only [registerEntry, registerEntryWithId, bind_iff, ensures_nextIsolateId,
    get_iff, set_iff, pure_iff]
  exact ⟨rfl, rfl⟩

theorem steps_withIsolate (hregister : kinds .register) :
    Steps kinds s (s.withIsolate isolate parent capacity) :=
  .act (.registered capacity _ rfl rfl rfl rfl rfl rfl) hregister

theorem freshChild_withIsolate (hs : Consistent s) :
    (s.withIsolate isolate parent capacity).FreshChild (s.addressOf s.nextIsolateId) := by
  refine ⟨⟨rfl, rfl⟩, rfl, Nat.lt_succ_self _, ?_⟩
  intro record hrecord heq
  have hlocal : s.Local record.child := by
    rw [heq]
    exact ⟨rfl, rfl⟩
  have hlt := (hs.slots.localChild record hrecord hlocal).2
  rw [heq] at hlt
  exact Nat.lt_irrefl _ hlt

theorem live_withIsolate : (s.withIsolate isolate parent capacity).Live s.nextIsolateId :=
  ⟨_, List.mem_append_right _ (List.mem_singleton_self _), rfl, rfl⟩

theorem registerWithCapacityAndBootstrap_performs {bootstrap : h.Message}
    (hregister : kinds .register) (hqueue : kinds .queue) :
    Does kinds (registerWithCapacityAndBootstrap isolate capacity bootstrap) s := by
  simp only [registerWithCapacityAndBootstrap, Performs, bind_iff, ensures_nextIsolateId]
  by_cases hcapacity : 0 < capacity
  · have hsend : (new capacity).trySend bootstrap =
        .ok { capacity, queue := [bootstrap], reserved := 0, closed := false } := by
      have hlt : ¬ capacity ≤ 0 := by omega
      simp [DefaultMailbox.trySend, new, hlt]
    rw [hsend]
    simp only [registerEntryWithId, bind_iff, get_iff, set_iff, pure_iff, if_pos]
    rw [ensures_entryAt]
    intro entry hentry
    simp only [List.getElem?_concat_length, Option.some.injEq] at hentry
    subst hentry
    simp only [ensures_setEntry, ensures_note]
    refine ⟨?_, trivial⟩
    -- The prefilled mailbox is the empty one after it accepted the bootstrap message.
    have hfresh : (s.withIsolate isolate none capacity).entries[s.entries.length]? =
        some (freshEntry s.nextIsolateId isolate none (.new (.new capacity))) := by
      simp [Runtime.withIsolate, Runtime.register]
    have haccept : Steps kinds (s.withIsolate isolate none capacity) (Runtime.log _
        (.accepted s.nextIsolateId bootstrap none)) :=
      steps_accept hqueue hfresh ⟨rfl, rfl⟩ hcapacity Runtime.known_none
    simpa [Runtime.withIsolate, Runtime.register, Runtime.putEntry, Runtime.log, freshEntry,
      RegisteredEntry.accept, AnyMailboxAdapter.push, AnyMailboxAdapter.new,
      new] using (steps_withIsolate hregister).trans haccept
  · have hsend : (new capacity).trySend bootstrap = .error (.full bootstrap) := by
      have hle : capacity ≤ 0 := by omega
      simp [DefaultMailbox.trySend, new, hle]
    rw [hsend]
    simp only [pure_iff]
    exact ⟨.act .skipped hregister, trivial⟩

theorem registerWithCapacityUsing_performs
    {construct : RegisteredAddress → Option h.Isolate} (hregister : kinds .register) :
    Does kinds (registerWithCapacityUsing capacity construct) s := by
  simp only [registerWithCapacityUsing, Performs, bind_iff, ensures_nextIsolateId, get_iff]
  cases construct _ with
  | none => exact (throw_iff _).2 trivial
  | some =>
    simp only [registerEntryWithId, bind_iff, get_iff, set_iff, pure_iff]
    exact ⟨.act (.registered capacity _ rfl rfl rfl rfl rfl rfl) hregister, trivial⟩

theorem registerWithCapacity_performs (hregister : kinds .register) :
    Does kinds (registerWithCapacity isolate capacity : RuntimeM h RegisteredAddress) s := by
  refine .of_ensures registerEntry_spec ?_
  rintro _ t ⟨-, rfl⟩
  exact ⟨steps_withIsolate hregister, trivial⟩

theorem trySupervise_performs {supervisor : RegisteredAddress} {policy : RestartPolicy}
    {budget : RestartBudget} (hsupervise : kinds .supervise) :
    Does kinds (trySupervise supervisor policy budget : RuntimeM h Bool) s := by
  unfold trySupervise Does Performs
  rw [get_bind, ite_iff]
  refine ⟨fun _ => ?_, fun _ => .pure ⟨.refl s, trivial⟩⟩
  cases s.supervisors.findIdx? (·.parent = supervisor) <;>
    simp only [bind_iff, set_iff, pure_iff] <;>
    exact ⟨.act (.supervised _) hsupervise, trivial⟩

theorem enqueueBootstrapMessage_performs {child : RegisteredAddress} {message : h.Message}
    (hqueue : kinds .queue) :
    Does kinds (enqueueBootstrapMessage child message) s := by
  refine .get_bind ?_
  cases s.entries.findIdx? (fun entry =>
      entry.id = child.isolate ∧ entry.generation = child.generation) with
  | none => exact .throw
  | some =>
    refine bind (enqueueEntryMessage_performs hqueue Runtime.known_none) ?_
    rintro (_ | _) t ⟨hsteps, -⟩
    · exact (throw_iff _).2 trivial
    · exact .pure ⟨hsteps, trivial⟩

/-- A spawned child is registered and has its address; nothing is recorded yet. -/
theorem spawnIsolate_spec {parent : IsolateId} {bootstrap : Option h.Message} :
    Ensures (spawnIsolate parent isolate capacity bootstrap) s fun outcome t =>
      outcome.child = s.addressOf s.nextIsolateId ∧ outcome.terminalSlotReserved = false ∧
        t = s.withIsolate isolate (some parent) capacity := by
  refine .ite (fun _ => (throw_iff _).2 trivial) fun _ => ?_
  refine bind registerEntry_spec ?_
  rintro _ t ⟨rfl, rfl⟩
  exact .pure ⟨rfl, rfl, rfl⟩

end

section

variable {parent : IsolateId} {outcome : SpawnOutcome h}

/-- The record that `recordChild` writes. -/
def ownedRecord (parent : IsolateId) (ordinal : Nat) (outcome : SpawnOutcome h) :
    ChildRecord h where
  parent
  child := outcome.child
  childOrdinal := ordinal
  mailboxCapacity := outcome.mailboxCapacity
  restartRecipe := outcome.restartRecipe
  restartContinuation := outcome.restartContinuation
  terminalContinuation := outcome.terminalContinuation
  terminalSlotReserved := outcome.terminalSlotReserved
  terminalSettledGeneration := none
  previousChild := none
  remoteRequestId := none
  remoteOwner := none
  remoteRestartable := false
  terminal := false

theorem recordChild_spec : Ensures (recordChild parent outcome) s fun _ t =>
      t = (s.logOrdinal (ownedRecord parent (s.ownedRecords parent).length outcome)).pushRecord
        (ownedRecord parent (s.ownedRecords parent).length outcome) := by
  simp only [recordChild, bind_iff, get_iff, ensures_noteOrdinal, ensures_pushChildRecord]
  rfl

theorem recordChild_performs (hown : kinds .own) (hheld : outcome.terminalSlotReserved = false)
    (hfresh : s.FreshChild outcome.child) :
    Does kinds (recordChild parent outcome) s := by
  refine .of_ensures recordChild_spec ?_
  rintro _ t rfl
  exact ⟨.act (.owned _ rfl hheld hfresh) hown, trivial⟩

end

end Tina
