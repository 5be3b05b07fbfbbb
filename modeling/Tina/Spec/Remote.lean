import Tina.Runtime.Operations
import Tina.Spec.Step

/-!
The harvest of an envelope as acts, and as what it leaves behind: which request got a
child, which reply was recorded, which hosted child was stopped or replaced.
-/

namespace Tina

open Lib Ensures Kind QueuedRemoteEnvelope Tina.Runtime Steps

variable {h : Host} {s t : Runtime h} {kinds : Kind → Prop}
  {request : RemoteSpawnRequest h} {pending : PendingRemoteSpawn h}
  {restarted : RemoteChildRestarted} {child : RegisteredAddress} {reply : RemoteSpawnReply}
  {α : Type} {Q : α → Runtime h → Prop}

section

variable {callContext : Option MessageCallContext}

theorem harvestRemoteSend_performs {send : ErasedSend h} (hqueue : kinds .queue)
    (hs : Consistent s) (hknown : s.Known callContext) :
    Does kinds (harvestRemoteSend send callContext) s := by
  unfold harvestRemoteSend Does Performs
  rw [get_bind, ite_iff]
  refine ⟨fun _ => Performs.pure trivial, fun _ => ?_⟩
  cases s.entryIndexes send.targetIsolate with
  | none => exact Performs.pure trivial
  | some =>
  refine entryAt_bind fun entry _ => ?_
  refine .ite (fun _ => Performs.pure trivial) fun _ => ?_
  refine Performs.bind hs (enqueueEntryMessage_performs hqueue hknown) ?_
  rintro ((_ | _) | _) t - - - <;> exact .pure trivial

theorem harvestRemoteCallReply_performs {callId : CallId} {outcome : RemoteCallOutcome h}
    (hqueue : kinds .queue) (hcall : kinds .call) (hs : Consistent s) :
    Does kinds (harvestRemoteCallReply callId outcome) s := by
  exact (completeIsolateCall_performs hqueue hcall hs).andReturn

end

/-- A request is refused by its tombstone or by the spawn, or a child is there for it. -/
theorem harvestRemoteSpawnRequest_spec :
    Ensures (harvestRemoteSpawnRequest request) s fun answer t => ∃ outcome,
      answer = some (.spawnReply { requestId := request.requestId, requester := request.owner
                                   outcome }) ∧
      ((∃ error, outcome = .error error ∧ t = s) ∨
        (request.requestId ∉ s.remoteSpawnCancelTombstones ∧
          outcome = .ok (s.addressOf s.nextIsolateId) ∧
          ∃ u, SpawnedFor s request.owner request.childOrdinal (some request.requestId) u ∧
            Steps IsQueue u t)) := by
  refine get_bind.2 ?_
  refine .ite (fun _ => ?_) fun hnot => ?_
  · rw [pure_bind]
    exact .pure ⟨_, rfl, .inl ⟨_, rfl, rfl⟩⟩
  refine bind spawnRemote_spec ?_
  rintro _ t (⟨error, rfl, rfl⟩ | ⟨rfl, hspawned⟩)
  · exact .pure ⟨_, rfl, .inl ⟨error, rfl, rfl⟩⟩
  · exact .pure ⟨_, rfl, .inr ⟨hnot, rfl, hspawned⟩⟩

theorem harvestRemoteSpawnRequest_performs (hregister : kinds .register) (hown : kinds .own)
    (hhost : kinds .host) (hqueue : kinds .queue) (hs : Consistent s)
    :
    Does kinds (harvestRemoteSpawnRequest request) s := by
  refine .of_ensures harvestRemoteSpawnRequest_spec ?_
  rintro _ t ⟨_, -, ⟨_, -, rfl⟩ | ⟨-, -, u, hspawned, hsteps⟩⟩
  · exact ⟨.refl t, trivial⟩
  · exact ⟨(steps_spawnedFor hregister hown (fun _ => hhost) hs hspawned).trans
      (hsteps.weaken fun _ hkind => hkind ▸ hqueue), trivial⟩

/-- The state after the request at `position` got its reply. -/
def Runtime.settleSpawn (s : Runtime h) (position : Nat) (requestId : CallId) : Runtime h :=
  ({ s with pendingRemoteSpawns := s.pendingRemoteSpawns.eraseIdx position }).log
    (.spawnSettled requestId)

/-- The record that an owner keeps of a child on another shard. -/
def adoptedRecord (pending : PendingRemoteSpawn h) (child : RegisteredAddress) : ChildRecord h where
  parent := pending.requester.isolate
  child
  childOrdinal := pending.childOrdinal
  mailboxCapacity := pending.mailboxCapacity
  restartRecipe := none
  restartContinuation := none
  terminalContinuation := none
  terminalSlotReserved := false
  terminalSettledGeneration := none
  previousChild := none
  remoteRequestId := none
  remoteOwner := none
  remoteRestartable := pending.remoteRestartable
  terminal := false

/-- Whether the isolate at `address` is registered here and runs. -/
def Runtime.RunsAt (s : Runtime h) (address : RegisteredAddress) : Prop :=
  ∃ entry, s.entryByIsolate address.isolate = some entry ∧
    entry.generation = address.generation ∧ entry.stopped = false

/-- What a reply does to the request it answers. -/
inductive Replied (pending : PendingRemoteSpawn h) (position : Nat)
    (s : Runtime h) : Except SpawnObservedError RegisteredAddress →
    Option (QueuedRemoteEnvelope h) → Runtime h → Prop where
  | failed {error t} (hsteps : Steps Kind.IsQueue (s.settleSpawn position pending.requestId) t) :
      Replied pending position s (.error error) none t
  -- The owner has a record with this ordinal already: the child is not recorded.
  | unrecorded {child answer t} (hcarried : ∃ other ∈ s.ownedRecords pending.requester.isolate,
        other.childOrdinal = pending.childOrdinal)
      (hsteps : Steps Kind.IsQueue (s.settleSpawn position pending.requestId) t)
      (hstopped : ¬ s.RunsAt pending.requester → answer = some (.childStop
        { owner := pending.requester, child, childOrdinal := pending.childOrdinal }))
      (hrunning : s.RunsAt pending.requester → answer = none) :
      Replied pending position s (.ok child) answer t
  | recorded {child answer t} (hfree : ∀ other ∈ s.ownedRecords pending.requester.isolate,
        other.childOrdinal ≠ pending.childOrdinal)
      (hsteps : Steps Kind.IsQueue ((s.settleSpawn position pending.requestId).pushRecord
        (adoptedRecord pending child)) t)
      (hstopped : ¬ s.RunsAt pending.requester → answer = some (.childStop
        { owner := pending.requester, child, childOrdinal := pending.childOrdinal }))
      (hrunning : s.RunsAt pending.requester → answer = none) :
      Replied pending position s (.ok child) answer t

theorem recordRemoteChildOnOwner_spec :
    Ensures (recordRemoteChildOnOwner pending.requester.isolate child pending.childOrdinal
      pending.mailboxCapacity pending.remoteRestartable) s fun _ t =>
        ((∃ other ∈ s.ownedRecords pending.requester.isolate,
          other.childOrdinal = pending.childOrdinal) ∧ t = s) ∨
        ((∀ other ∈ s.ownedRecords pending.requester.isolate,
          other.childOrdinal ≠ pending.childOrdinal) ∧
          t = s.pushRecord (adoptedRecord pending child)) := by
  unfold recordRemoteChildOnOwner
  rw [get_bind, ite_iff]
  refine ⟨fun hany => .pure (.inl ⟨?_, rfl⟩), fun hany => ?_⟩
  · simpa using hany
  · rw [ensures_pushChildRecord]
    exact .inr ⟨by simpa using hany, rfl⟩

-- The owner is looked at after its record is written, which does not change it.
theorem stopped_iff_not_runsAt {address : RegisteredAddress} (hentries : t.entries = s.entries) :
    (match t.entryByIsolate address.isolate with
      | none => true
      | some entry => entry.generation ≠ address.generation || entry.stopped) = true ↔
      ¬ s.RunsAt address := by
  have hsame : t.entryByIsolate address.isolate = s.entryByIsolate address.isolate := by
    rw [entryByIsolate, hentries]
    rfl
  rw [hsame]
  unfold RunsAt
  cases s.entryByIsolate address.isolate with
  | none => simp
  | some => simp [imp_iff_not_or]

theorem harvestRemoteSpawnReply_spec : Ensures (harvestRemoteSpawnReply reply) s fun answer t =>
      (answer = none ∧ t = s ∧
        ∀ pending ∈ s.pendingRemoteSpawns, pending.requestId ≠ reply.requestId) ∨
      (∃ position pending, s.pendingRemoteSpawns[position]? = some pending ∧
        pending.requestId = reply.requestId ∧
        Replied pending position s reply.outcome answer t) := by
  have hqueue : IsQueue .queue := rfl
  refine get_bind.2 ?_
  cases hfind : s.pendingRemoteSpawns.findIdx? (fun pending =>
      pending.requestId = reply.requestId) with
  | none =>
    refine .pure (.inl ⟨rfl, rfl, fun pending hpending => ?_⟩)
    simpa using List.findIdx?_eq_none_iff.1 hfind pending hpending
  | some position =>
    obtain ⟨pending, hpending, hid⟩ := exists_of_findIdx? hfind
    have hrequest : pending.requestId = reply.requestId := by simpa using hid
    dsimp only
    rw [hpending]
    rw [bind_iff, set_iff, bind_iff, ensures_note]
    refine mono ?_ fun answer t hreplied =>
      .inr ⟨position, pending, hpending, hrequest, hreplied⟩
    rw [← hrequest]
    cases reply.outcome with
    | error =>
      refine bind (deliverObservedContinuation_performs hqueue) ?_
      exact fun _ t hpost => .pure (.failed hpost.1)
    | ok child =>
    refine bind recordRemoteChildOnOwner_spec ?_
    intro _ u hu
    have hentries : u.entries = s.entries := by
      rcases hu with ⟨-, rfl⟩ | ⟨-, rfl⟩ <;> rfl
    have hreplied : ∀ answer t, Steps IsQueue u t →
        (¬ s.RunsAt pending.requester → answer = some (.childStop
          { owner := pending.requester, child, childOrdinal := pending.childOrdinal })) →
        (s.RunsAt pending.requester → answer = none) →
        Replied pending position s (.ok child) answer t := by
      intro answer t hsteps hstopped hrunning
      rcases hu with ⟨hcarried, rfl⟩ | ⟨hfree, rfl⟩
      · exact .unrecorded hcarried hsteps hstopped hrunning
      · exact .recorded hfree hsteps hstopped hrunning
    rw [get_bind]
    refine .ite (fun hstopped => ?_) fun hrunning => ?_
    · have hnot := (stopped_iff_not_runsAt hentries).1 hstopped
      exact (pure_iff _).2 (hreplied _ u (.refl u) (fun _ => rfl) fun hruns => absurd hruns hnot)
    have hruns := not_not.1 (mt (stopped_iff_not_runsAt hentries).2 hrunning)
    refine bind (deliverObservedContinuation_performs hqueue) ?_
    exact fun _ t hpost => (pure_iff _).2
      (hreplied none t hpost.1 (absurd hruns ·) fun _ => rfl)

theorem steps_replied {position : Nat} {outcome : Except SpawnObservedError RegisteredAddress}
    {answer : Option (QueuedRemoteEnvelope h)} (hqueue : kinds .queue)
    (hreply : kinds .reply) (hpending : s.pendingRemoteSpawns[position]? = some pending)
    (hforeign : ∀ child, outcome = .ok child → ¬ s.Local child)
    (hreplied : Replied pending position s outcome answer t) : Steps kinds s t := by
  have hmere : Act .reply s (s.settleSpawn position pending.requestId) := .replied hpending
  cases hreplied with
  | failed hsteps | unrecorded _ hsteps =>
    exact (act hmere hreply).trans (hsteps.weaken fun _ hkind => hkind ▸ hqueue)
  | @recorded child _ _ hfree hsteps =>
  have hadopted : Act .reply s ((s.settleSpawn position pending.requestId).pushRecord
      (adoptedRecord pending child)) :=
    .adopted _ hpending rfl rfl rfl rfl (hforeign child rfl) hfree
  exact (act hadopted hreply).trans (hsteps.weaken fun _ hkind => hkind ▸ hqueue)

section

variable {child : RegisteredAddress}

/-- A hosted child that runs is stopped, and the rest follows. -/
theorem stopHosted_then {x : RuntimeM h α} (hs : Consistent s)
    (hx : ∀ t, Consistent t → Steps (InStop child) s t →
      (s.Local child → child.generation = 0 → ¬ t.Live child.isolate) → Ensures x t Q) :
    Ensures (match s.entryIndex child with
      | none => x
      | some index => do
        let entry ← entryAt index
        if entry.stopped then x
        else
          stopEntry index child.isolate .remoteOwner
          x) s Q := by
  cases hindex : s.entryIndex child with
  | none =>
    exact hx s hs (.refl s) fun hlocal hgeneration =>
      entryIndex_none hs.registry hlocal hgeneration hindex
  | some index =>
  obtain ⟨haddress, _, hentry, hid⟩ := entryIndex_some hs.registry hindex
  refine entryAt_bind (of_eq_some hentry ?_)
  rw [ite_iff]
  refine ⟨fun hstopped => hx s hs (.refl s) fun _ _ =>
    hid ▸ hs.registry.not_live_of_stopped hentry hstopped, fun _ => ?_⟩
  have hstop : Performs (InStop (s.addressOf child.isolate))
      (stopEntryFull index child.isolate .remoteOwner none none) s
      fun _ u => ¬ u.Live child.isolate :=
    stopEntryFull_performs hs (hid ▸ same_id hentry) (by simp) (by simp)
  rw [← haddress] at hstop
  refine bind hstop ?_
  exact fun _ t hpost => hx t (hpost.1.consistent hs) hpost.1 fun _ _ => hpost.2

/-- The child that an owner on another shard knows by its ordinal. -/
def Runtime.hostedChild (s : Runtime h) (owner child : RegisteredAddress) (ordinal : Nat) :
    RegisteredAddress :=
  ((s.childRecords.find? fun record =>
    record.remoteOwner = some owner ∧ record.childOrdinal = ordinal).map (·.child)).getD child

theorem stopRemoteOwnedChild_spec {owner : RegisteredAddress} {ordinal : Nat} (hs : Consistent s) :
    Ensures (stopRemoteOwnedChild owner child ordinal : RuntimeM h _) s fun answer t =>
      answer = some (.childStopped { owner, child := s.hostedChild owner child ordinal
                                     childOrdinal := ordinal }) ∧
      Steps (InStop (s.hostedChild owner child ordinal)) s t ∧
      (s.Local (s.hostedChild owner child ordinal) →
        (s.hostedChild owner child ordinal).generation = 0 →
        ¬ t.Live (s.hostedChild owner child ordinal).isolate) := by
  refine get_bind.2 ?_
  refine stopHosted_then hs ?_
  intro t ht hsteps hdead
  exact .pure ⟨rfl, hsteps, hdead⟩

theorem rememberRemoteSpawnCancel_performs {requestId : CallId} (htombstone : kinds .tombstone) :
    Performs kinds (rememberRemoteSpawnCancel requestId : RuntimeM h PUnit) s fun _ t =>
      ∃ tombstones full, t = { s with
        remoteSpawnCancelTombstones := tombstones, remoteChildControlFull := full } := by
  unfold rememberRemoteSpawnCancel Performs
  rw [modify_iff]
  split
  · exact ⟨.refl s, _, _, rfl⟩
  split
  · exact ⟨.act (.tombstones _ _ s.remoteChildControlCapacity) htombstone, _, _, rfl⟩
  · exact ⟨.act (.tombstones _ _ s.remoteChildControlCapacity) htombstone, _, _, rfl⟩

theorem harvestRemoteSpawnCancel_performs {cancel : RemoteSpawnCancel} (hkinds : AllowStop kinds)
    (htombstone : kinds .tombstone) (hs : Consistent s) :
    Does kinds (harvestRemoteSpawnCancel cancel : RuntimeM h _) s := by
  refine .bind hs (rememberRemoteSpawnCancel_performs htombstone) ?_
  intro _ t ht _ _
  refine get_bind.2 ?_
  cases t.childRecords.find? (fun record =>
      record.remoteRequestId = some cancel.requestId) with
  | none => exact Performs.pure trivial
  | some =>
    exact mono (stopRemoteOwnedChild_spec ht) fun _ _ hpost =>
      ⟨hpost.2.1.weaken fun _ hkind => hkind.imp hkinds, trivial⟩

end

section

variable {owner child : RegisteredAddress} {ordinal : Nat} {index : Nat}

/-- The record of a hosted child after `outcome` replaced it. -/
def ChildRecord.replace (record : ChildRecord h) (owner : RegisteredAddress)
    (recipe : RestartRecipe h) (outcome : SpawnOutcome h) :
    ChildRecord h :=
  { record with
    child := outcome.child, mailboxCapacity := outcome.mailboxCapacity
    restartRecipe := some recipe, remoteRequestId := none
    remoteOwner := some owner, terminal := false }

/-- A hosted child was replaced: a new isolate took its place in the record at `index`. -/
def Replaced (index : Nat) (s t : Runtime h) : Prop :=
  ∃ before u record record', Steps (fun kind => kind = .register ∨ kind = .queue) s before ∧
    before.childRecords = s.childRecords ∧ s.childRecords[index]? = some record ∧
    Act .restartHosted before u ∧ u.childRecords = s.childRecords.set index record' ∧
    record'.child = s.addressOf s.nextIsolateId ∧ record.Rebinds record' ∧
    Steps Kind.IsQueue u t

/-- A fresh child takes the place of a stopped one in the record at `index`, and the rest
follows. -/
theorem replaceHosted_then {answer : α} {record : ChildRecord h} {recipe : RestartRecipe h}
    {outcome : SpawnOutcome h} (hsteps : Steps (fun kind => kind = .register ∨ kind = .queue) s t)
    (hrecords : t.childRecords = s.childRecords) (hfresh : t.FreshChild outcome.child)
    (hrecord : s.childRecords[index]? = some record) (howner : record.remoteOwner = some owner)
    (hchild : outcome.child = s.addressOf s.nextIsolateId)
    (hQ : ∀ u, Replaced index s u → Q answer u) :
    Ensures (do
      updateRecord index (·.replace owner recipe outcome)
      match outcome.bootstrapMessage with
      | none => pure ()
      | some message => enqueueBootstrapMessage outcome.child message
      return answer) t Q := by
  rw [bind_iff, ensures_updateRecord]
  rw [← hrecords] at hrecord
  refine of_eq_some hrecord ?_
  have hrebinds : record.Rebinds (record.replace owner recipe outcome) :=
    ⟨rfl, rfl, howner.symm, rfl⟩
  have hact : Act .restartHosted t (t.putRecord index (record.replace owner recipe outcome)) :=
    .restartedHosted _ hrecord hrebinds (by simp [howner]) rfl hfresh
  have hset : (t.putRecord index (record.replace owner recipe outcome)).childRecords =
      s.childRecords.set index (record.replace owner recipe outcome) := by
    rw [putRecord, hrecords]
  have hreplaced : ∀ u, Steps IsQueue
      (t.putRecord index (record.replace owner recipe outcome)) u → Replaced index s u :=
    fun u hqueue => ⟨t, _, record, _, hsteps, hrecords, hrecords ▸ hrecord, hact, hset, hchild,
      hrebinds, hqueue⟩
  cases outcome.bootstrapMessage with
  | none => exact .pure (hQ _ (hreplaced _ (.refl _)))
  | some =>
    refine bind (enqueueBootstrapMessage_performs (show IsQueue .queue from rfl)) ?_
    exact fun _ u hpost => .pure (hQ u (hreplaced u hpost.1))

theorem restartRemoteOwnedChild_spec (hs : Consistent s) :
    Ensures (restartRemoteOwnedChild owner child ordinal : RuntimeM h _) s fun answer t =>
      ∃ outcome, answer = some (.childRestarted
        { owner, childOrdinal := ordinal, oldChild := child, outcome }) ∧
      ((∃ reason, outcome = .error reason ∧ Steps (InStop child) s t) ∨
        (∃ index record u, s.childRecords[index]? = some record ∧
          record.remoteOwner = some owner ∧ record.childOrdinal = ordinal ∧
          record.child = child ∧ Steps (InStop child) s u ∧
          (s.Local child → child.generation = 0 → ¬ u.Live child.isolate) ∧
          outcome = .ok (u.addressOf u.nextIsolateId) ∧ Replaced index u t)) := by
  refine get_bind.2 ?_
  cases hfind : s.childRecords.findIdx? (fun record =>
      record.remoteOwner = some owner ∧ record.childOrdinal = ordinal ∧ record.child = child) with
  | none => exact .pure ⟨_, rfl, .inl ⟨_, rfl, .refl s⟩⟩
  | some index =>
    obtain ⟨record, hrecord, hp⟩ := exists_of_findIdx? hfind
    obtain ⟨howner, hordinal, rfl⟩ : record.remoteOwner = some owner ∧
      record.childOrdinal = ordinal ∧ record.child = child := by simpa using hp
    rw [bind_iff, ensures_recordAt]
    refine of_eq_some hrecord ?_
    cases hrecipe : record.restartRecipe with
    | none => exact .pure ⟨_, rfl, .inl ⟨_, rfl, .refl s⟩⟩
    | some =>
    refine stopHosted_then hs ?_
    intro u hu hsteps hdead
    obtain ⟨_, hstopped, hpersists⟩ :=
      hsteps.record_persists hs hrecord (by rw [hrecipe]; rfl)
    have howner' := hpersists.remoteOwner.trans howner
    rw [ite_iff]
    refine ⟨fun _ => ?_, fun _ => .pure ⟨_, rfl, .inl ⟨_, rfl, hsteps⟩⟩⟩
    refine bind create_spec ?_
    rintro _ _ (⟨rfl, rfl⟩ | ⟨outcome, rfl, hchild, -, isolate, capacity, rfl⟩)
    · exact .pure ⟨_, rfl, .inl ⟨_, rfl, hsteps⟩⟩
    have hregistered : Steps (fun kind => kind = .register ∨ kind = .queue) u
        (u.withIsolate isolate (some owner.isolate) capacity) := steps_withIsolate (.inl rfl)
    have hfresh : (u.withIsolate isolate (some owner.isolate) capacity).FreshChild
      outcome.child := hchild ▸ freshChild_withIsolate hu
    refine mono (Q := fun answer t => answer = some (.childRestarted
      ⟨owner, ordinal, record.child, .ok outcome.child⟩) ∧ Replaced index u t) ?_ ?_
    · rw [get_bind, ite_iff]
      refine ⟨fun _ => ?_, fun _ => replaceHosted_then hregistered rfl hfresh hstopped howner'
        hchild fun _ => .intro rfl⟩
      cases entryIndex _ outcome.child with
      | none =>
        exact replaceHosted_then hregistered rfl hfresh hstopped howner' hchild fun _ => .intro rfl
      | some position =>
      refine entryAt_bind fun entry hentry => ?_
      rw [bind_iff, ensures_setEntry]
      refine replaceHosted_then (hregistered.trans ?_) rfl hfresh hstopped howner' hchild
        fun _ => .intro rfl
      have hquiet : Act .queue (u.withIsolate isolate (some owner.isolate) capacity)
          (((u.withIsolate isolate (some owner.isolate) capacity).putEntry position
            { entry with parent := none }).logAll []) :=
        .entry hentry (.quiet rfl rfl rfl (.refl _) rfl rfl)
      simpa [logAll] using act hquiet (Or.inr rfl)
    · rintro _ t ⟨rfl, hreplaced⟩
      exact ⟨_, rfl, .inr ⟨index, record, u, hrecord, howner, hordinal, rfl, hsteps, hdead,
        congrArg Except.ok hchild, hreplaced⟩⟩

theorem steps_replaced (hregister : kinds .register) (hqueue : kinds .queue)
    (hhosted : kinds .restartHosted) (hreplaced : Replaced index s t) : Steps kinds s t := by
  obtain ⟨_, _, _, _, hbefore, -, -, hact, -, -, -, hsteps⟩ := hreplaced
  refine ((hbefore.weaken ?_).trans (.act hact hhosted)).trans
    (hsteps.weaken fun _ hkind => hkind ▸ hqueue)
  rintro _ (rfl | rfl)
  · exact hregister
  · exact hqueue

theorem harvestRemoteChildRestarted_performs (hremote : kinds .restartRemote)
    (hold : restarted.oldChild.shard ≠ s.shardId)
    (hnew : ∀ child, restarted.outcome = .ok child → child.shard ≠ s.shardId) :
    Does kinds (harvestRemoteChildRestarted restarted : RuntimeM h PUnit) s := by
  unfold harvestRemoteChildRestarted Does Performs
  rw [get_bind]
  cases s.entryIndex restarted.owner with
  | none => exact Performs.pure trivial
  | some =>
  cases hfind : s.childRecords.findIdx? (fun record =>
      record.parent = restarted.owner.isolate ∧ record.remoteOwner = none ∧
        record.childOrdinal = restarted.childOrdinal ∧
        record.child = restarted.oldChild) with
  | none => exact Performs.pure trivial
  | some =>
    obtain ⟨record, hrecord, hp⟩ := exists_of_findIdx? hfind
    have hchild : record.child = restarted.oldChild := by
      have hall : record.parent = restarted.owner.isolate ∧ record.remoteOwner = none ∧
        record.childOrdinal = restarted.childOrdinal ∧
        record.child = restarted.oldChild := by simpa using hp
      exact hall.2.2.2
    cases houtcome : restarted.outcome with
    | error => exact Performs.pure trivial
    | ok newChild =>
    rw [ensures_updateRecord]
    refine of_eq_some hrecord ?_
    refine ⟨.act (.restartedRemotely newChild hrecord ?_ ?_) hremote, trivial⟩
    · exact fun hlocal => hold (hchild ▸ hlocal.2)
    · exact fun hlocal => hnew newChild houtcome hlocal.2

end

section

variable {P : Payload} {shard : ShardId}

theorem not_local_of_comesFromAfar {send : ErasedSend P} {callContext : Option MessageCallContext}
    (hafar : (QueuedRemoteEnvelope.send send callContext).comesFromAfar shard = true)
    (callId : CallId) : callContext ≠ some (.localCaller callId) := by
  rintro rfl
  cases hafar

theorem shard_ne_of_spawnReply
    (hafar : (spawnReply reply : QueuedRemoteEnvelope P).comesFromAfar shard = true)
    (houtcome : reply.outcome = .ok child) : child.shard ≠ shard := by
  obtain ⟨_, _, outcome⟩ := reply
  obtain rfl : outcome = .ok child := houtcome
  simpa [comesFromAfar] using hafar

theorem shard_ne_of_childRestarted
    (hafar : (childRestarted restarted : QueuedRemoteEnvelope P).comesFromAfar shard = true) :
    restarted.oldChild.shard ≠ shard ∧
      ∀ child, restarted.outcome = .ok child → child.shard ≠ shard := by
  obtain ⟨_, _, _, outcome⟩ := restarted
  cases outcome with
  | error => simpa [comesFromAfar] using hafar
  | ok =>
  simp only [comesFromAfar, Bool.and_eq_true, decide_eq_true_eq] at hafar
  refine ⟨hafar.1, ?_⟩
  rintro _ ⟨⟩
  exact hafar.2

end

/-- The acts of a harvest: none of them offers anything to the transport. -/
def Kind.InHarvest : Kind → Prop
  | .queue | .call | .register | .own | .host | .restartHosted | .restartRemote | .settle
  | .stop | .prune _ | .reply | .tombstone => True
  | _ => False

/-- The harvest of an envelope is a sequence of acts. -/
theorem harvestRemoteEnvelope_performs {envelope : QueuedRemoteEnvelope h}
    (hs : Consistent s) (hafar : envelope.comesFromAfar s.shardId = true) :
    Does InHarvest (harvestRemoteEnvelope envelope) s := by
  have hkinds : AllowStop InHarvest := ⟨trivial, trivial, trivial, trivial, fun _ => trivial⟩
  cases envelope with
  | send =>
    exact harvestRemoteSend_performs trivial hs
      fun callId hcontext => absurd hcontext (not_local_of_comesFromAfar hafar callId)
  | callReply =>
    exact (harvestRemoteCallReply_performs trivial trivial hs).andReturn
  | spawnRequest =>
    exact harvestRemoteSpawnRequest_performs trivial trivial trivial trivial hs
  | spawnReply =>
    refine .of_ensures harvestRemoteSpawnReply_spec ?_
    rintro _ t (⟨-, rfl, -⟩ | ⟨_, _, hpending, -, hreplied⟩)
    · exact ⟨.refl t, trivial⟩
    · exact ⟨steps_replied trivial trivial hpending
        (fun child heq hlocal => shard_ne_of_spawnReply hafar heq hlocal.2) hreplied, trivial⟩
  | spawnCancel =>
    exact harvestRemoteSpawnCancel_performs hkinds trivial hs
  | childStop =>
    exact mono (stopRemoteOwnedChild_spec hs)
      fun _ _ hpost => ⟨hpost.2.1.weaken fun _ hkind => hkind.imp hkinds, trivial⟩
  | childStopped => exact .pure trivial
  | childRestart =>
    refine .of_ensures (restartRemoteOwnedChild_spec hs) ?_
    rintro _ t ⟨_, -, ⟨_, -, hsteps⟩ | ⟨_, _, u, -, -, -, -, hsteps, -, -, hreplaced⟩⟩
    · exact ⟨hsteps.weaken fun _ hkind => hkind.imp hkinds, trivial⟩
    · exact ⟨(hsteps.weaken fun _ hkind => hkind.imp hkinds).trans
        (steps_replaced trivial trivial trivial hreplaced), trivial⟩
  | childRestarted =>
    obtain ⟨hold, hnew⟩ := shard_ne_of_childRestarted hafar
    exact (harvestRemoteChildRestarted_performs trivial hold hnew).andReturn

end Tina
