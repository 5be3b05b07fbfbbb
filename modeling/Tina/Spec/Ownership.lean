import Tina.Spec.Children

/-!
The two things a runtime does for the children of an isolate that fails: the cleanup that
sends a stop or a cancel to every other shard, and supervision.
-/

namespace Tina

open Lib List Ensures

variable {h : Host} {s t : Runtime h} {kinds : Kind → Prop} {parent : IsolateId}

section

variable {owner : RegisteredAddress}

/-- The cancel that is offered for one request in flight. -/
def spawnCancelOf (owner : RegisteredAddress) (request : CallId × ShardId) : RemoteSpawnCancel where
  requestId := request.1
  targetShard := request.2
  owner

/-- What offering a cancel for each request leaves in the history. -/
structure CancelsOffered (owner : RegisteredAddress) (requests : List (CallId × ShardId))
    (cancelled : List CallId) (events : List (Happening h)) : Prop where
  only : ∀ event ∈ events, ∃ request ∈ requests, ∃ taken,
    event = .routed (.spawnCancel (spawnCancelOf owner request)) taken
  taken : ∀ requestId ∈ cancelled, ∃ request ∈ requests, request.1 = requestId ∧
    .routed (.spawnCancel (spawnCancelOf owner request)) true ∈ events
  refused : ∀ request ∈ requests, request.1 ∉ cancelled →
    .routed (.spawnCancel (spawnCancelOf owner request)) false ∈ events

theorem cancelRemoteSpawns_performs {requests : List (CallId × ShardId)} (hnet : kinds .net)
    (hs : Consistent s) :
    Performs kinds (cancelRemoteSpawns owner requests : RuntimeM h _) s fun cancelled t =>
      ∃ net events, t = s.transmit net events ∧ CancelsOffered owner requests cancelled events := by
  induction requests generalizing s with
  | nil =>
    refine .pure ⟨s.net, [], transmit_nil.symm, ?_⟩
    exact ⟨by simp, by simp, by simp⟩
  | cons request rest ih =>
  refine .bind hs (routeRemote_performs hnet (by simp)) ?_
  rintro answer _ ht - ⟨net, -, rfl⟩
  refine .bind ht (ih ht) ?_
  rintro cancelled _ - - ⟨net', events, rfl, honly, htaken, hrefused⟩
  have honly' : ∀ taken, ∀ event ∈ (.routed (.spawnCancel (spawnCancelOf owner request))
      taken :: events : List (Happening h)), ∃ other ∈ request :: rest, ∃ taken,
      event = .routed (.spawnCancel (spawnCancelOf owner other)) taken := by
    intro taken event hevent
    rcases mem_cons.1 hevent with rfl | hevent
    · exact ⟨request, by simp, taken, rfl⟩
    · obtain ⟨other, hother, taken', rfl⟩ := honly event hevent
      exact ⟨other, mem_cons_of_mem _ hother, taken', rfl⟩
  have htaken' : ∀ taken, ∀ requestId ∈ cancelled, ∃ other ∈ request :: rest,
      other.1 = requestId ∧ .routed (.spawnCancel (spawnCancelOf owner other)) true ∈
        (.routed (.spawnCancel (spawnCancelOf owner request)) taken :: events :
          List (Happening h)) := by
    intro taken requestId hmem
    obtain ⟨other, hother, hid, hevent⟩ := htaken requestId hmem
    exact ⟨other, mem_cons_of_mem _ hother, hid, mem_cons_of_mem _ hevent⟩
  cases answer with
  | ok =>
    refine .pure ⟨net', _, transmit_transmit, honly' true, ?_, ?_⟩
    · intro requestId hmem
      rcases mem_cons.1 hmem with rfl | hmem
      · exact ⟨request, by simp, rfl, mem_cons_self⟩
      · exact htaken' true requestId hmem
    intro other hother hnot
    rcases mem_cons.1 hother with rfl | hother
    · simp at hnot
    · exact mem_cons_of_mem _ (hrefused other hother fun hmem => hnot (mem_cons_of_mem _ hmem))
  | error =>
  refine .pure ⟨net', _, transmit_transmit, honly' false, htaken' false, ?_⟩
  intro other hother hnot
  rcases mem_cons.1 hother with rfl | hother
  · exact mem_cons_self
  · exact mem_cons_of_mem _ (hrefused other hother hnot)

/-- The stops that are offered for children on other shards. -/
structure StopsOffered (owner : RegisteredAddress) (children : List (RegisteredAddress × Nat))
    (events : List (Happening h)) : Prop where
  only : ∀ event ∈ events, ∃ stop taken, event = .routed (.childStop stop) taken ∧
    stop.owner = owner
  offered : ∀ child ∈ children, ∃ taken, .routed (.childStop
    { owner, child := child.1, childOrdinal := child.2 }) taken ∈ events

theorem stopRemoteChildren_performs {records : List (ChildRecord h)}
    (hnet : kinds .net) (hs : Consistent s) :
    Performs kinds (records.forM fun record =>
      requestRemoteChildStop parent record.child record.childOrdinal : RuntimeM h PUnit) s
      fun _ t => ∃ net events, t = s.transmit net events ∧ StopsOffered (s.ownerAddress parent)
          (records.map fun record => (record.child, record.childOrdinal)) events := by
  induction records generalizing s with
  | nil => exact .pure ⟨s.net, [], transmit_nil.symm, by simp, by simp⟩
  | cons _ _ ih =>
  refine .bind hs (requestRemoteChildStop_performs hnet) ?_
  rintro _ _ ht - ⟨net, taken, rfl⟩
  refine .mono (ih ht) ?_
  rintro _ _ - ⟨net', events, rfl, honly, hoffered⟩
  refine ⟨net', _, transmit_transmit, ?_, ?_⟩
  · intro event hevent
    rcases mem_cons.1 hevent with rfl | hevent
    · exact ⟨_, taken, rfl, rfl⟩
    · exact honly event hevent
  intro child hchild
  rcases mem_cons.1 hchild with rfl | hchild
  · exact ⟨taken, mem_cons_self⟩
  · obtain ⟨taken', hevent⟩ := hoffered child hchild
    exact ⟨taken', mem_cons_of_mem _ hevent⟩

/-- The cleanup leaves its isolate clean, and does not touch the entries. -/
theorem cleanupRemoteChildrenForOwner_performs (hnet : kinds .net) (hrequest : kinds .request)
    (hs : Consistent s) :
    Performs kinds (cleanupRemoteChildrenForOwner parent : RuntimeM h PUnit) s fun _ t =>
      t.Cleaned parent ∧ t.entries = s.entries := by
  refine .get_bind ?_
  refine .bind hs (cancelRemoteSpawns_performs hnet hs) ?_
  rintro cancelled _ ht - ⟨net, cancels, rfl, hcancels⟩
  have hkept : Act .request (s.transmit net cancels) { s.transmit net cancels with
      pendingRemoteSpawns := s.pendingRemoteSpawns.filter fun pending =>
        pending.requester.isolate ≠ parent ∨ pending.requestId ∉ cancelled } := by
    refine .requestsCancelled _ ?_
    intro pending _ hdropped
    have hmem : pending.requestId ∈ cancelled := by
      by_contra hnot
      simp [hnot] at hdropped
    obtain ⟨request, -, hid, hevent⟩ := hcancels.taken _ hmem
    exact ⟨_, mem_append_right _ hevent, hid⟩
  refine .bind ht (R := fun _ u => u = { s.transmit net cancels with
    pendingRemoteSpawns := s.pendingRemoteSpawns.filter fun pending =>
      pending.requester.isolate ≠ parent ∨ pending.requestId ∉ cancelled })
    ((modify_iff _).2 ⟨.act hkept hrequest, rfl⟩) ?_
  rintro _ _ hu - rfl
  refine get_bind.2 ?_
  refine Performs.mono (stopRemoteChildren_performs hnet hu) ?_
  rintro _ _ - ⟨net', stops, rfl, hstops⟩
  refine ⟨⟨s.history, cancels ++ stops, append_assoc .., ?_, ?_, ?_⟩, rfl⟩
  · intro happening hmem
    rcases mem_append.1 hmem with hmem | hmem
    · obtain ⟨request, -, taken, rfl⟩ := hcancels.only happening hmem
      exact ⟨_, taken, rfl, .inl ⟨_, rfl, rfl⟩⟩
    · obtain ⟨stop, taken, rfl, howner⟩ := hstops.only happening hmem
      exact ⟨_, taken, rfl, .inr ⟨stop, rfl, by rw [howner]; rfl⟩⟩
  · intro child hchild
    obtain ⟨taken, hevent⟩ := hstops.offered child hchild
    exact ⟨taken, mem_append_right _ hevent⟩
  · intro pending hpending
    -- A request that is still waited for was not cancelled, so its cancel was refused.
    simp only [Runtime.spawnsOf, Runtime.transmit, mem_filter, decide_eq_true_eq] at hpending
    obtain ⟨⟨hmem, hkeep⟩, hrequester⟩ := hpending
    have hnot : pending.requestId ∉ cancelled := hkeep.resolve_left fun hne => hne hrequester
    refine mem_append_left _ (hcancels.refused (pending.requestId, pending.targetShard)
      (mem_map.2 ⟨pending, ?_, rfl⟩) hnot)
    exact mem_filter.2 ⟨hmem, by simpa using hrequester⟩

end

theorem superviseFailedChild_performs {failedChild : RegisteredAddress}
    (hkinds : Kind.AllowRestart kinds) (hsupervise : kinds .supervise) (hs : Consistent s) :
    Does kinds (superviseFailedChild failedChild : RuntimeM h PUnit) s := by
  unfold superviseFailedChild Does Performs
  rw [get_bind]
  cases s.childRecordIndexByChild failedChild with
  | none => exact Performs.pure trivial
  | some =>
  rw [bind_iff, ensures_recordAt]
  intro failed _
  cases s.supervisorIndex failed.parent with
  | none => exact Performs.pure trivial
  | some supervisorIndex =>
  dsimp only
  cases s.supervisors[supervisorIndex]? with
  | none => exact Performs.throw
  | some supervisor =>
  refine .ite (fun _ => Performs.pure trivial) fun _ => ?_
  have hclock : Act .queue s { s with clockReads := s.clockReads + 1 } :=
    .clock _ s.nextIsolateCallOrdinal
  refine Performs.bind hs (R := fun _ _ => True)
    (ensures_clockNow.2 ⟨.act hclock hkinds.queue, trivial⟩) ?_
  intro now t ht _ _
  cases supervisor.budgetState.recordRestartAt now with
  | none => exact .pure trivial
  | some =>
  refine .bind ht (.modify (.act (.supervised _) hsupervise)) ?_
  intro _ u hu _ _
  refine get_bind.2 ?_
  refine Performs.forM hu trivial ?_
  intro index _ v hv _ _
  unfold Performs
  rw [bind_iff, ensures_recordAt]
  intro record hrecord
  rw [ite_iff]
  refine ⟨fun hselected => restartChildRecord_performs hkinds hv ?_, fun _ => Performs.pure trivial⟩
  refine of_eq_some hrecord ?_
  exact hselected.1

end Tina
