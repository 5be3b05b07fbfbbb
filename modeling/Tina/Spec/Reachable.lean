import Tina.Spec.Remote

/-!
Every operation of a host is a sequence of acts, so what every act keeps holds in every
state that a runtime can reach.
-/

namespace Tina

open Lib Ensures Kind CallTable Operation

variable {h : Host} {s t : Runtime h} {kinds : Kind → Prop} {operation : Operation h}

theorem trySend_performs {address : RegisteredAddress} {message : h.Message}
    (hqueue : kinds .queue) : Does kinds (trySend address message) s := by
  unfold trySend Does Performs
  rw [get_bind, ite_iff]
  refine ⟨fun _ => Performs.pure trivial, fun _ => ?_⟩
  refine .ite (fun _ => Performs.throw) fun _ => ?_
  cases s.entryIndex address with
  | none => exact Performs.pure trivial
  | some =>
  refine bind (enqueueEntryMessage_performs hqueue Runtime.known_none) ?_
  rintro (error | _) t ⟨hsteps, -⟩
  · cases error <;> exact .pure ⟨hsteps, trivial⟩
  · exact .pure ⟨hsteps, trivial⟩

theorem notifySignal_performs {name : String} (hkinds : AllowStop kinds) (hs : Consistent s) :
    Does kinds (notifySignal name : RuntimeM h PUnit) s := by
  refine .get_bind ?_
  refine .bind hs (.set (.act (.backend _ s.pendingCompletions
    s.driverCompletionDrainBudget) hkinds.queue)) ?_
  intro _ t ht _ _
  exact .forM ht trivial fun _ _ _ hu _ _ => deliverCompletion_performs hkinds hu

/-- The acts of an operation beside a round. -/
def Kind.Outside (kind : Kind) : Prop :=
  kind.Quiet ∧ kind ≠ .collect

theorem Kind.InHarvest.outside {kind : Kind} (hkind : kind.InHarvest) : kind.Outside := by
  cases kind <;> first | exact hkind.elim | simp [Outside, Quiet]

/-- Only a round runs handlers: every other operation of the host, or of the shards outside,
is a sequence of quiet acts that collect nothing. -/
theorem Operation.run_quiet (hs : Consistent s) (hadmissible : operation.Admissible s)
    (hstep : operation ≠ .step) :
    Does Outside operation.run s := by
  have hkinds : AllowStop Outside := by
    constructor <;> simp [Outside, Quiet]
  have hregister : Outside .register := by simp [Outside, Quiet]
  cases operation with
  | registerWithCapacity =>
    exact (registerWithCapacity_performs hregister).andReturn
  | registerWithCapacityAndBootstrap =>
    exact (registerWithCapacityAndBootstrap_performs hregister hkinds.queue).andReturn
  | registerWithCapacityUsing =>
    exact (registerWithCapacityUsing_performs hregister).andReturn
  | trySupervise =>
    exact (trySupervise_performs (by simp [Outside, Quiet])).andReturn
  | trySend =>
    exact (trySend_performs hkinds.queue).andReturn
  | step => exact absurd rfl hstep
  | harvest =>
    exact ((harvestRemoteEnvelope_performs hs hadmissible).weaken
      fun _ hkind => hkind.outside).andReturn
  | notifySignal => exact notifySignal_performs hkinds hs
  | setDriverCompletionDrainBudget =>
    exact .modify (.act (.backend s.driver s.pendingCompletions _) hkinds.queue)
  | setRemoteChildControlCapacity =>
    exact .modify (.act (.tombstones s.remoteSpawnCancelTombstones
      s.remoteChildControlFull _) (by simp [Outside, Quiet]))
  | settleTerminalReservationsOnShutdown =>
    exact disposeAllTerminalReservationsOnShutdown_performs hkinds.settle hs
  | cancelInFlightCallsForShutdown =>
    exact cancelInFlightCallsForShutdown_performs hkinds.queue hkinds.call hs
  | connect net next =>
    exact .modify (.act (.connected net next hadmissible) (by simp [Outside, Quiet]))
  | foreignHandle handle cell =>
  obtain ⟨hbefore, hafter, hstamped⟩ := hadmissible
  exact .modify (.act (.foreignHandle handle cell hbefore hafter hstamped) hkinds.call)

/-- An operation that the shards outside can do, or the host, is a sequence of acts. -/
theorem Operation.run_performs (hs : Consistent s) (hadmissible : operation.Admissible s) :
    Does (fun _ => True) operation.run s := by
  by_cases hstep : operation = .step
  · rw [hstep]
    exact (stepWithRemote_performs hs).weaken fun _ _ => trivial
  · exact (run_quiet hs hadmissible hstep).weaken fun _ _ => trivial

section

variable {system : SystemIncarnation} {shardId : ShardId} {shard : h.Shard}
  {driver : h.Driver} {net : h.Net}

/-- A runtime that its constructor has just made is consistent: it has nothing. -/
theorem consistent_new : Consistent (Runtime.new h system shardId shard driver net) where
  registry := by
    refine ⟨.nil, fun id index => ?_, by rintro _ ⟨⟩⟩
    simp [Runtime.new, Runtime.keys]
  slots := by
    refine ⟨⟨?_, ?_, ?_, .nil, ?_⟩, ?_⟩ <;> rintro _ ⟨⟩
  hosted := by rintro _ ⟨⟩
  calls := by
    constructor
    case ended => rintro callId ⟨_, ⟨⟩, -⟩
    all_goals simp [Runtime.new, new]
  handles := by
    intro handle callId hcell
    simp [Runtime.new] at hcell
  contexts := by constructor <;> simp [Runtime.new, new]
  inFlight := by constructor <;> simp [Runtime.new, new]
  spawns := by constructor <;> simp [Runtime.new]

end

namespace Reachable

variable {I : Runtime h → Prop}

/-- An invariant of every act, in consistent states, holds in every reachable state. -/
theorem induct (hs : Reachable s)
    (hnew : ∀ system shardId shard driver net, I (Runtime.new h system shardId shard driver net))
    (hact : ∀ kind s t, Act kind s t → Consistent s → I s → I t) : I s := by
  have hboth : Consistent s ∧ I s := by
    induction hs with
    | new system shardId shard driver net =>
      exact ⟨consistent_new, hnew system shardId shard driver net⟩
    | after _ _ hadmissible hrun ih =>
      obtain ⟨hsteps, -⟩ := run_performs ih.1 hadmissible _ _ hrun
      exact ⟨hsteps.consistent ih.1, hsteps.induct ih.1 (fun kind s t _ => hact kind s t) ih.2⟩
  exact hboth.2

theorem consistent (hs : Reachable s) : Consistent s :=
  hs.induct (fun _ _ _ _ _ => consistent_new) fun _ _ _ hact hs _ => hact.consistent hs

/-- What quiet acts and whole turns keep holds in every reachable state. -/
theorem induct_turns (hs : Reachable s)
    (hnew : ∀ system shardId shard driver net, I (Runtime.new h system shardId shard driver net))
    (hquiet : ∀ s t, Consistent s → Steps Quiet s t → I s → I t)
    (hturned : ∀ s t holding effect, Consistent s → Turned s holding effect t → I s → I t) :
    I s := by
  induction hs with
  | new system shardId shard driver net => exact hnew system shardId shard driver net
  | @after s t operation hs hadmissible hrun ih =>
  by_cases hstep : operation = .step
  · subst hstep
    have hround := deliverRound_induct hs.consistent
      (fun s t hs hsteps => hquiet s t hs (hsteps.weaken fun _ hkind => hkind.1.2)) hturned ih
    have hstep : Ensures (stepWithRemote : RuntimeM h Unit) s fun _ t => I t := by
      rw [stepWithRemote_eq]
      refine bind hround ?_
      rintro _ u ⟨hu, hI⟩
      exact mono (gcStoppedEntries_performs (by simp [Quiet]) hu)
        fun _ v hpost => hquiet u v hu hpost.1 hI
    exact hstep () t hrun
  · obtain ⟨hsteps, -⟩ := run_quiet hs.consistent hadmissible hstep _ _ hrun
    exact hquiet s t hs.consistent (hsteps.weaken fun _ hkind => hkind.1) ih

end Reachable

end Tina
