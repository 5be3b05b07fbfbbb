import Tina.Pool.Account

/-!
Every handler of the pool returns, keeps the pool sound and is a sequence of acts on its account.
-/

namespace Tina.Pool

open Lib List Option Relation ReflTransGen WaiterTable ResourceState Act

variable {H : Type} {slotState : DeferredSlotId → DeferredSlotState} {Recovers : Prop}

namespace WorkerPool

variable {pool pool' : WorkerPool H} {past : List (Effect H)} {errand : Errand}
  {slot : ResourceSlot H}

/-- What the vectors of a pool say about each other. -/
structure Sound (pool : WorkerPool H) : Prop where
  waiters : pool.waiters.Valid
  places : pool.waiters.slab.length = pool.config.maxWaiters
  handles : ∀ slot ∈ pool.slots, slot.handle.isSome = !slot.state.isRetired
  tracked : ∀ entry ∈ pool.inFlight, entry.resourceId < pool.slots.length
  size : pool.slots.length = pool.config.capacity

/-- What no message changes. -/
structure Kin (pool pool' : WorkerPool H) : Prop where
  config : pool'.config = pool.config
  poolId : pool'.poolId = pool.poolId

open Kin

theorem Kin.refl (pool : WorkerPool H) : Kin pool pool := ⟨rfl, rfl⟩

theorem Kin.trans {pool'' : WorkerPool H} (h : Kin pool pool') (h' : Kin pool' pool'') :
    Kin pool pool'' :=
  ⟨h'.config.trans h.config, h'.poolId.trans h.poolId⟩

theorem account_states_getElem? (resourceId : Nat) :
    (pool.account past errand).states[resourceId]? = pool.slots[resourceId]?.map (·.state) := by
  simp [account]

/-- A handler returns, keeps the pool sound and does what acts can do. -/
def Performs (slotState : DeferredSlotId → DeferredSlotState) (Recovers : Prop)
    (pool : WorkerPool H) (past : List (Effect H)) (errand errand' : Errand)
    (result : Option (WorkerPool H × List (Effect H))) : Prop :=
  ∃ pool' effects, result = some (pool', effects) ∧ pool'.Sound ∧ Kin pool pool' ∧
    Acts slotState Recovers (pool.account past errand) (pool'.account (past ++ effects) errand')

section

variable (h : pool'.Sound) (hkin : Kin pool pool')
  (haccount : ∀ past, pool'.account past errand = pool.account past errand)

include h hkin haccount

/-- Nothing happens but a quiet effect. -/
theorem Performs.quiet (effect : Effect H) (hquiet : effect.Quiet) :
    Performs slotState Recovers pool past errand errand (some (pool', [effect])) := by
  refine ⟨pool', [effect], rfl, h, hkin, single ?_⟩
  rw [haccount]
  exact .quiet effect hquiet

theorem Performs.nothing :
    Performs slotState Recovers pool past errand errand (some (pool', [])) := by
  refine ⟨pool', [], rfl, h, hkin, ?_⟩
  rw [append_nil, haccount]

end

/-- The errand of the message is done. -/
theorem Performs.done {errand' : Errand} {result : Option (WorkerPool H × List (Effect H))}
    (h : Performs slotState Recovers pool past errand errand' result) :
    Performs slotState Recovers pool past errand .nothing result := by
  obtain ⟨pool', effects, hresult, hsound, hkin, hacts⟩ := h
  exact ⟨pool', effects, hresult, hsound, hkin, .tail hacts .keep⟩

theorem count_account (update : PoolCounters → PoolCounters) :
    (pool.count update).account past errand = pool.account past errand := rfl

theorem setSlot_account (resourceId : Nat) (slot : ResourceSlot H) :
    (pool.setSlot resourceId slot).account past errand = { pool.account past errand with
      states := (pool.account past errand).states.set resourceId slot.state } := by
  simp [setSlot, account, map_set]

theorem retireSlot_account (resourceId : Nat) (slot : ResourceSlot H) :
    (pool.retireSlot resourceId slot).1.account past errand = { pool.account past errand with
      states := (pool.account past errand).states.set resourceId
        (.retired slot.state.nextGeneration) } :=
  setSlot_account resourceId _

/-- The waiters of a pool that closes are answered. -/
theorem settled_acts (slots : List DeferredSlotId) (a : Account H) : Acts slotState Recovers a
      { a with effects := a.effects ++ slots.map fun slot =>
        .replyTo slot (.acquire .closed) } := by
  induction slots generalizing a with
  | nil => rw [map_nil, append_nil]
  | cons slot _ ih =>
  refine .head (.quiet (.replyTo slot (.acquire .closed)) trivial) ?_
  have hrest := ih { a with effects := a.effects ++ [.replyTo slot (.acquire .closed)] }
  rwa [append_assoc] at hrest

/-- What an idle queue must not list. -/
def Account.Listed (a : Account H) : Prop :=
  ∀ resourceId ∈ a.idle, ∃ next, a.states[resourceId]? = some (.idle next)

/-- What a message brings to the pool. -/
def errandOf (pool : WorkerPool H) : WorkerPoolMsg H → Errand
  | .acquire (.slot slot) => .caller slot
  | .release lease _ =>
    if lease.poolId = pool.poolId then .lease lease.resourceId lease.generation else .nothing
  | _ => .nothing

/-- What the lifetime sweep does to a pool and its report. -/
structure Inspected (turn turn' : WorkerPool H × ResourcePolicyReport) : Prop where
  sound : turn'.1.Sound
  frame : turn'.1 = { turn.1 with slots := turn'.1.slots, counters := turn'.1.counters }
  shelved : ∀ i : Nat, Shelved (turn.1.slots.map (·.state))[i]? (turn'.1.slots.map (·.state))[i]?
  kept : turn'.2.retired = [] →
    turn.2.retired = [] ∧ turn'.1.slots.map (·.state) = turn.1.slots.map (·.state)

theorem Inspected.trans {turn turn' turn'' : WorkerPool H × ResourcePolicyReport}
    (h : Inspected turn turn') (h' : Inspected turn' turn'') : Inspected turn turn'' := by
  refine ⟨h'.sound, ?_, fun i => (h.shelved i).trans (h'.shelved i), fun hretired => ?_⟩
  · rw [h'.frame, h.frame]
  obtain ⟨hnone, hstates'⟩ := h'.kept hretired
  obtain ⟨hzero, hstates⟩ := h.kept hnone
  exact ⟨hzero, hstates'.trans hstates⟩

section

variable (h : pool.Sound) {resourceId generation : Nat}

include h

theorem Sound.count (update : PoolCounters → PoolCounters) : (pool.count update).Sound :=
  { h with }

/-- A message that is only counted and answered. -/
theorem Performs.counted (update : PoolCounters → PoolCounters)
    (effect : Effect H) (hquiet : effect.Quiet) :
    Performs slotState Recovers pool past errand errand
      (some (pool.count update, [effect])) :=
  have hkin : Kin pool (pool.count update) := ⟨rfl, rfl⟩
  .quiet (h.count update) hkin (fun _ => count_account update) effect hquiet

/-- A place that is filled with a slot whose handle fits its state leaves the pool sound. -/
theorem Sound.setSlot
    (hslot : slot.handle.isSome = !slot.state.isRetired) :
    (pool.setSlot resourceId slot).Sound where
  __ := h
  handles := forall_mem_set h.handles hslot
  tracked entry hentry := by simpa [WorkerPool.setSlot] using h.tracked entry hentry
  size := by simpa [WorkerPool.setSlot] using h.size

variable (slotState) in
theorem sweepWaiters_spec :
    ∃ pool', pool.sweepWaiters slotState = some pool' ∧ pool'.Sound ∧ Kin pool pool' ∧
      pool'.inFlight = pool.inFlight ∧
      ∀ past errand, pool'.account past errand = { pool.account past errand with
        parked := (pool.account past errand).parked.filter
          fun slot => !decide (slotState slot ≠ .opened) } := by
  obtain ⟨waiters, _, hrun, hvalid, hparked, hlength⟩ :=
    sweep_spec (fun slot => decide (slotState slot ≠ .opened)) h.waiters
  unfold sweepWaiters
  rw [hrun]
  refine ⟨_, rfl, ⟨hvalid, hlength.trans h.places, h.handles, h.tracked, h.size⟩,
    ⟨rfl, rfl⟩, rfl, ?_⟩
  intro past errand
  rw [count_account]
  simp only [account, hparked]

/-- A closed dispatch gives its resource back, if it is still out on that lease. -/
theorem recoverDispatched_spec (generation : Nat)
    (hbound : resourceId < pool.slots.length) (hrecovers : Recovers) :
    ∃ pool' notes, pool.recoverDispatched resourceId generation = some (pool', notes) ∧
      pool'.Sound ∧ Kin pool pool' ∧ pool'.inFlight = pool.inFlight ∧
      Acts slotState Recovers (pool.account past errand)
        (pool'.account (past ++ notes) errand) := by
  have hget : pool.slots[resourceId]? = some pool.slots[resourceId] := getElem?_eq_getElem hbound
  unfold recoverDispatched
  rw [hget]
  by_cases hstate : pool.slots[resourceId].state = .leased generation
  · simp only [hstate, if_true]
    have hhandle := h.handles _ (getElem_mem hbound)
    rw [hstate] at hhandle
    have hsound : (pool.returned resourceId pool.slots[resourceId] generation).Sound :=
      h.setSlot hhandle
    refine ⟨_, _, rfl, { hsound with }, ⟨rfl, rfl⟩, rfl, ?_⟩
    apply single
    have hact : Act slotState Recovers (pool.account past errand) _ :=
      .recover resourceId generation hrecovers
        (by rw [account_states_getElem?, hget, map_some, hstate])
    simpa [account, returned, setSlot, count, map_set] using hact
  · simp only [hstate, if_false]
    exact ⟨pool, [], rfl, h, refl _, rfl, by rw [append_nil]⟩

/-- A finished dispatch is forgotten. -/
theorem Sound.dropDispatch (i : Nat) : (pool.dropDispatch i).Sound where
  __ := h
  tracked entry hentry := h.tracked entry (mem_of_mem_swapRemove hentry)

/-- The loop over the dispatches. Without a closed dispatch it recovers nothing. -/
theorem sweepFrom_spec (fuel i : Nat)
    (hrecovers : ∀ entry ∈ pool.inFlight, slotState entry.slot = .closed → Recovers) :
    Performs slotState Recovers pool past errand errand (sweepFrom slotState fuel i pool) := by
  induction fuel generalizing pool past i with
  | zero => exact .nothing h (refl _) fun _ => rfl
  | succ _ ih =>
  unfold sweepFrom
  cases hentry : pool.inFlight[i]? with
  | none => exact .nothing h (refl _) fun _ => rfl
  | some entry =>
  have hmem : entry ∈ pool.inFlight := mem_of_getElem? hentry
  have hrest : ∀ other ∈ (pool.dropDispatch i).inFlight,
      slotState other.slot = .closed → Recovers :=
    fun other hother => hrecovers other (mem_of_mem_swapRemove hother)
  cases hslot : slotState entry.slot with
  | opened => simpa only [hslot] using ih h (i + 1) hrecovers
  | replied =>
    obtain ⟨last, notes, hrun, hsound, hkin, hacts⟩ := ih (h.dropDispatch i) i hrest
    exact ⟨last, notes, by simpa only [hslot] using hrun, hsound, ⟨hkin.config, hkin.poolId⟩, hacts⟩
  | closed =>
  obtain ⟨middle, notes, hrun, hsound, hkin, hflight, hacts⟩ :=
    recoverDispatched_spec (h.dropDispatch i) entry.generation (h.tracked entry hmem)
      (hrecovers entry hmem hslot)
  obtain ⟨last, more, hrun', hsound', hkin', hacts'⟩ :=
    ih hsound i (hflight ▸ hrest)
  refine ⟨last, notes ++ more, by simp [hslot, hrun, hrun'], hsound',
    Kin.trans ⟨hkin.config, hkin.poolId⟩ hkin', ?_⟩
  rw [← append_assoc]
  exact .trans hacts hacts'

/-- The sweeps before a message. -/
theorem sweep_spec
    (hrecovers : ∀ entry ∈ pool.inFlight, slotState entry.slot = .closed → Recovers) :
    Performs slotState Recovers pool past errand errand (pool.sweep slotState) := by
  obtain ⟨swept, hrun, hsound, hkin, hflight, haccount⟩ := sweepWaiters_spec slotState h
  obtain ⟨last, notes, hrun', hsound', hkin', hacts⟩ :=
    sweepFrom_spec hsound swept.inFlight.length 0 (hflight ▸ hrecovers)
  refine ⟨last, notes, by simpa [sweep, hrun, sweepInFlight] using hrun', hsound',
    hkin.trans hkin', ?_⟩
  rw [haccount] at hacts
  exact .head .unpark hacts

/-- A lease is minted from an idle resource. -/
theorem grant_spec (slot : DeferredSlotId)
    (hstate : (pool.slots.map (·.state))[resourceId]? = some (.idle generation)) :
    ∃ pool' lease, pool.grant resourceId slot = some (pool', acquiredBy slot lease) ∧
      lease.resourceId = resourceId ∧ lease.generation = generation ∧ pool'.Sound ∧
      Kin pool pool' ∧
      ∀ past errand, pool'.account past errand = { pool.account past errand with
        states := (pool.account past errand).states.set resourceId (.leased generation) } := by
  rw [getElem?_map] at hstate
  obtain ⟨place, hplace, hidle⟩ := map_eq_some_iff.1 hstate
  have hhandle := h.handles place (mem_of_getElem? hplace)
  have hbound := lt_of_getElem? hplace
  obtain ⟨handle, _, createdAt, _⟩ := place
  cases hidle
  obtain ⟨handle, rfl⟩ := isSome_iff_exists.1 hhandle
  have hset : (pool.setSlot resourceId
      ⟨some handle, .leased generation, createdAt, none⟩).Sound := h.setSlot rfl
  unfold grant mintLease
  rw [hplace]
  refine ⟨_, _, rfl, rfl, rfl, { hset with tracked := ?_ }, ⟨rfl, rfl⟩, ?_⟩
  · refine Lib.forall_mem_concat hset.tracked ?_
    simpa [trackDispatch, setSlot] using hbound
  · intro past errand
    exact setSlot_account resourceId _

variable (slotState) in
/-- A resource that has just become idle goes to the first waiter that is still there, or into the
idle queue. -/
theorem dispatchToNextWaiter_spec
    (hstate : (pool.account past errand).states[resourceId]? = some (.idle generation)) :
    ∃ pool' effects, pool.dispatchToNextWaiter slotState resourceId = some (pool', effects) ∧
      pool'.Sound ∧ Kin pool pool' ∧
      ((pool.waiters.parked.filter (fun slot => !decide (slotState slot ≠ .opened)) = [] ∧
          effects = [] ∧
          ∀ past errand, pool'.account past errand = { pool.account past errand with
            parked := []
            idle := pool.idle ++ [resourceId] }) ∨
        ∃ slot parked lease,
          pool.waiters.parked.filter (fun slot => !decide (slotState slot ≠ .opened)) =
            slot :: parked ∧
          effects = [acquiredBy slot lease] ∧ lease.resourceId = resourceId ∧
          lease.generation = generation ∧ slotState slot = .opened ∧
          ∀ past errand, pool'.account past errand = { pool.account past errand with
            states := (pool.account past errand).states.set resourceId (.leased generation)
            parked }) := by
  obtain ⟨swept, hrun, hsound, hkin, -, haccount⟩ := sweepWaiters_spec slotState h
  obtain ⟨waiters, hpop, hvalid, hparked, hlength⟩ := popNext_spec hsound.waiters
  have hswept : swept.waiters.parked =
      pool.waiters.parked.filter fun slot => !decide (slotState slot ≠ .opened) :=
    congrArg Account.parked (haccount past errand)
  have hsound' : ({ swept with waiters } : WorkerPool H).Sound :=
    ⟨hvalid, hlength.trans hsound.places, hsound.handles, hsound.tracked, hsound.size⟩
  unfold dispatchToNextWaiter
  rw [hrun]
  simp only [bind_eq_bind, bind_some, hpop]
  rw [← hswept]
  cases hhead : swept.waiters.parked with
  | nil =>
    refine ⟨_, _, rfl, { hsound' with }, ⟨hkin.config, hkin.poolId⟩, .inl ⟨rfl, rfl, ?_⟩⟩
    intro past errand
    have heq := haccount past errand
    simp only [account, Account.mk.injEq, hparked, hhead, tail_nil] at heq ⊢
    simp [heq]
  | cons slot parked =>
  have hstate' : (({ swept with waiters } : WorkerPool H).account past errand).states[resourceId]? =
      some (.idle generation) := by
    have heq := congrArg Account.states (haccount past errand)
    exact (congrArg (·[resourceId]?) heq).trans hstate
  obtain ⟨last, lease, hgrant, hid, hgeneration, hlast, hkin', haccount'⟩ :=
    grant_spec hsound' slot hstate'
  have hlive : slotState slot = .opened := by
    have hmem : slot ∈ swept.waiters.parked := by simp [hhead]
    rw [hswept, mem_filter] at hmem
    simpa using hmem.2
  refine ⟨last, _, by simp [hgrant], hlast, hkin.trans ⟨hkin'.config, hkin'.poolId⟩,
    .inr ⟨slot, parked, lease, rfl, rfl, hid, hgeneration, hlive, ?_⟩⟩
  intro past errand
  have heq := haccount past errand
  rw [haccount']
  simp only [account, Account.mk.injEq, hparked, hhead, tail_cons] at heq ⊢
  simp [heq]

theorem handleAcquireSlot_spec {slot : DeferredSlotId}
    (hlisted : Account.Listed (pool.account past (.caller slot))) (hopen : pool.closed = none) :
    Performs slotState Recovers pool past (.caller slot) .nothing
      (pool.handleAcquireSlot slot) := by
  have hclosed : (pool.account past (.caller slot)).isClosed = false := by simp [account, hopen]
  unfold handleAcquireSlot
  split
  · next resourceId idle hidle =>
    obtain ⟨generation, hstate⟩ := hlisted resourceId (by simp [account, hidle])
    have hsound : ({ pool with idle } : WorkerPool H).Sound :=
      { h with }
    obtain ⟨last, lease, hgrant, rfl, rfl, hlast, hkin, haccount⟩ :=
      grant_spec hsound slot hstate
    refine ⟨last, [acquiredBy slot lease], by simp [hgrant], hlast, ⟨hkin.config, hkin.poolId⟩, ?_⟩
    rw [haccount]
    exact .single (.grant slot lease idle hidle hclosed rfl hstate)
  next hidle =>
  by_cases hfull : pool.waiters.free = []
  · rw [if_pos (by simp [hfull])]
    exact (Performs.counted h _ (.replyTo slot (.acquire .full)) trivial).done
  obtain ⟨waiters, hpark, hvalid, hparked, hlength⟩ := park_spec slot h.waiters hfull
  refine ⟨bumpWaiterHighWater { pool with waiters }, [], by simp [hfull, hpark],
    ⟨hvalid, hlength.trans h.places, h.handles, h.tracked, h.size⟩, ⟨rfl, rfl⟩, ?_⟩
  have hact : Act slotState Recovers (pool.account past (.caller slot)) _ :=
    .park slot hidle hclosed rfl
  apply single
  simpa [account, bumpWaiterHighWater, count, hparked] using hact

theorem handleAcquire_spec
    (hlisted : ∀ errand, Account.Listed (pool.account past errand)) (caller : Caller) :
    Performs slotState Recovers pool past (pool.errandOf (.acquire caller)) .nothing
      (pool.handleAcquire caller) := by
  unfold handleAcquire
  by_cases hclosed : pool.closed = none
  · rw [if_neg (by simp [hclosed])]
    cases caller with
    | slot => exact handleAcquireSlot_spec h (hlisted _) hclosed
    | noCaller =>
      exact Performs.nothing (h.count _) ⟨rfl, rfl⟩ fun _ => count_account _
    | crossShardUnsupported => exact .counted h _ (.reply (.acquire .wrongShard)) trivial
  · rw [if_pos (isSome_iff_ne_none.2 hclosed)]
    exact (Performs.counted h _ (.reply (.acquire .closed)) trivial).done

theorem Sound.retireSlot (resourceId : Nat) (slot : ResourceSlot H) :
    (pool.retireSlot resourceId slot).1.Sound := by
  have hset : (pool.setSlot resourceId
      ⟨none, .retired slot.state.nextGeneration, none, none⟩).Sound := h.setSlot rfl
  exact { hset with }

/-- A resource that is out on a lease is retired, and the release is answered. -/
theorem retireSlot_performs (hslot : pool.slots[resourceId]? = some slot)
    (hstate : slot.state = .leased generation) (outcome : ReleaseOutcome) :
    Performs slotState Recovers pool past errand .nothing
      (some ((pool.retireSlot resourceId slot).1,
        (pool.retireSlot resourceId slot).2 ++ [.reply (.release outcome)])) := by
  have hnotes : (pool.retireSlot resourceId slot).2 = [.leaseRetired resourceId generation] := by
    simp [retireSlot, hstate]
  refine ⟨_, _, rfl, h.retireSlot _ _, ⟨rfl, rfl⟩, ?_⟩
  rw [hnotes, ← append_assoc, retireSlot_account, hstate]
  have hact : Act slotState Recovers (pool.account past errand) _ := .retire resourceId generation
    (by rw [account_states_getElem?, hslot, map_some, hstate])
  exact .tail (.tail (.single hact) (.quiet (.reply (.release outcome)) trivial)) .keep

/-- A lease that the resource is out on is taken back. -/
theorem takeBack_spec (lease : PoolLease H) (hslot : pool.slots[lease.resourceId]? = some slot)
    (hstate : slot.state = .leased lease.generation) (disposition : ReleaseDisposition) :
    Performs slotState Recovers pool past (.lease lease.resourceId lease.generation) .nothing
      (pool.takeBack slotState lease slot disposition) := by
  have hleased : ∀ errand, (pool.account past errand).states[lease.resourceId]? =
      some (.leased lease.generation) := by
    intro errand
    rw [account_states_getElem?, hslot, map_some, hstate]
  have hbound := lt_of_getElem? (hleased .nothing)
  unfold takeBack
  cases disposition with
  | retire => exact retireSlot_performs h hslot hstate _
  | reuse =>
  have hhandle := h.handles slot (mem_of_getElem? hslot)
  rw [hstate] at hhandle
  have hback : (pool.returned lease.resourceId slot lease.generation).Sound := h.setSlot hhandle
  have haccount : ∀ past errand,
      (pool.returned lease.resourceId slot lease.generation).account past errand =
        { pool.account past errand with
          states := (pool.account past errand).states.set lease.resourceId
            (.idle (nextAfter lease.generation)) } := fun _ _ => setSlot_account _ _
  by_cases hclosed : pool.closed = none
  · rw [if_neg (by simp [returned, setSlot, hclosed])]
    have hopen : (pool.account past .nothing).isClosed = false := by simp [account, hclosed]
    have hidle : ((pool.returned lease.resourceId slot lease.generation).account past
        .nothing).states[lease.resourceId]? = some (.idle (nextAfter lease.generation)) := by
      rw [haccount]
      exact getElem?_set_self hbound
    obtain ⟨last, effects, hrun, hlast, hkin, hcases⟩ :=
      dispatchToNextWaiter_spec slotState hback hidle
    refine ⟨last, effects ++ [.reply (.release .released)], by simp [hrun], hlast,
      ⟨hkin.config, hkin.poolId⟩, ?_⟩
    rw [← append_assoc]
    refine .tail (b := last.account (past ++ effects) .nothing) (.head .unpark ?_)
      (.quiet (.reply (.release .released)) trivial)
    rcases hcases with ⟨hnone, rfl, heq⟩ | ⟨waiter, parked, minted, hfirst, rfl, hid,
      hgeneration, hlive, heq⟩
    · rw [heq, haccount, append_nil]
      exact .single (.putBack lease.resourceId lease.generation rfl hopen hnone (hleased .nothing))
    · rw [heq, haccount, set_set, ← hid, ← hgeneration]
      exact .single (.handOver lease.generation waiter parked minted rfl hopen hfirst hlive
        (hid ▸ hleased .nothing) hgeneration)
  · rw [if_pos (by simpa [returned, setSlot] using isSome_iff_ne_none.2 hclosed)]
    refine ⟨_, [.reply (.release .released)], rfl, hback, ⟨rfl, rfl⟩, ?_⟩
    rw [haccount]
    exact .tail (.single (.drainBack _ _ rfl
        (by simpa [account] using isSome_iff_ne_none.2 hclosed) (hleased _)))
      (.quiet (.reply (.release .released)) trivial)

/-- A release that names the lease of a resource takes it back; any other is only answered. -/
theorem handleRelease_spec (lease : PoolLease H) (disposition : ReleaseDisposition)
    (herrand : lease.poolId = pool.poolId → errand = .lease lease.resourceId lease.generation) :
    Performs slotState Recovers pool past errand .nothing
      (pool.handleRelease slotState lease disposition) := by
  have hrefused (outcome : ReleaseOutcome) : Performs slotState Recovers pool past errand .nothing
      (some (pool, [.reply (.release outcome)])) :=
    ⟨pool, _, rfl, h, refl _, .tail (.single (.quiet (.reply (.release outcome)) trivial)) .keep⟩
  unfold handleRelease
  split
  · exact hrefused _
  next hours =>
  obtain rfl := herrand (not_not.1 hours)
  split
  · exact hrefused _
  next _ hslot =>
  split
  · split
    · next hstate => exact retireSlot_performs h hslot hstate _
    · exact hrefused _
  · split
    · next hstate => exact takeBack_spec h lease hslot hstate disposition
    · exact hrefused _

/-- The loop of a force close retires leases and touches nothing else. -/
theorem retireLeased_spec (idxs : List Nat) {a : Account H}
    (ha : a.states = pool.slots.map (·.state)) :
    (pool.retireLeased idxs).1.Sound ∧ Kin pool (pool.retireLeased idxs).1 ∧
      (pool.retireLeased idxs).1.idle = pool.idle ∧
      (pool.retireLeased idxs).1.closed = pool.closed ∧
      Acts slotState Recovers a
        { a with
          states := (pool.retireLeased idxs).1.slots.map (·.state)
          effects := a.effects ++ (pool.retireLeased idxs).2 } := by
  induction idxs generalizing pool a with
  | nil => exact ⟨h, refl _, rfl, rfl, by rw [retireLeased, append_nil, ← ha]⟩
  | cons idx _ ih =>
  unfold retireLeased
  split
  · next slot hslot =>
    split
    · next hleased =>
      obtain ⟨generation, hstate⟩ : ∃ generation, slot.state = .leased generation := by
        cases hstate : slot.state with
        | leased generation => exact ⟨generation, rfl⟩
        | _ => simp [isLeased, hstate] at hleased
      have hget : a.states[idx]? = some (.leased generation) := by simp [ha, hslot, hstate]
      have hact : Act slotState Recovers a _ := .retire idx generation hget
      have hafter : a.states.set idx (.retired (nextAfter generation)) =
          (pool.retireSlot idx slot).1.slots.map (·.state) := by
        simp [ha, hstate, retireSlot, setSlot, count, map_set, nextGeneration]
      obtain ⟨hsound, hkin, hidle, hclosed, hacts⟩ := ih (h.retireSlot idx slot)
        (a := { a with
          states := a.states.set idx (.retired (nextAfter generation))
          effects := a.effects ++ [Effect.leaseRetired idx generation] }) hafter
      refine ⟨hsound, ⟨hkin.config, hkin.poolId⟩, hidle, hclosed, .head hact ?_⟩
      simpa [retireSlot, hstate] using hacts
    · exact ih h ha
  · exact ih h ha

theorem closing_spec (mode : CloseMode) {a : Account H} (ha : a.states = pool.slots.map (·.state)) :
    (pool.closing mode).1.Sound ∧ Kin pool (pool.closing mode).1 ∧
      (pool.closing mode).1.idle = pool.idle ∧ (pool.closing mode).1.closed.isSome = true ∧
      Acts slotState Recovers a
        { a with
          states := (pool.closing mode).1.slots.map (·.state)
          effects := a.effects ++ (pool.closing mode).2 } := by
  have hsound (closed : Option CloseMode) : ({ pool with closed } : WorkerPool H).Sound :=
    { h with }
  unfold closing
  split
  · obtain ⟨hforced, hkin, hidle, hclosed, hacts⟩ := 
      retireLeased_spec (hsound (some .force)) (range pool.slots.length) ha
    refine ⟨⟨hforced.waiters, hforced.places, hforced.handles, by simp [forceClose], hforced.size⟩,
      ⟨hkin.config, hkin.poolId⟩, hidle, ?_, hacts⟩
    change (retireLeased _ _).1.closed.isSome = true
    rw [hclosed]
    rfl
  · refine ⟨hsound _, ⟨rfl, rfl⟩, rfl, rfl, ?_⟩
    rw [append_nil, ← ha]

theorem handleClose_spec (mode : CloseMode) :
    Performs slotState Recovers pool past errand errand (pool.handleClose mode) := by
  obtain ⟨hsound, hkin, hidle, hclosed, hacts⟩ := closing_spec h mode
    (a := { pool.account past errand with isClosed := true, parked := [] }) rfl
  obtain ⟨waiters, dropped, hrun, hvalid, hparked, hlength⟩ := clear_spec hsound.waiters
  have hsound' : ({ (pool.closing mode).1 with waiters } : WorkerPool H).Sound :=
    ⟨hvalid, hlength.trans hsound.places, hsound.handles, hsound.tracked, hsound.size⟩
  unfold handleClose
  simp only [hrun]
  refine ⟨_, _, rfl, hsound'.count _, ⟨hkin.config, hkin.poolId⟩, ?_⟩
  have hsettled : Acts slotState Recovers (pool.account past errand) _ :=
    tail (.trans (head .close hacts) (settled_acts dropped _)) (.quiet (.reply .closed) trivial)
  rw [count_account]
  simpa [account, hidle, hclosed, hparked] using hsettled

theorem Inspected.same {report report' : ResourcePolicyReport}
    (hretired : report'.retired = report.retired) : Inspected (pool, report) (pool, report') :=
  ⟨h, rfl, fun _ => .same _, fun hnone => ⟨hretired ▸ hnone, rfl⟩⟩

/-- One resource of the lifetime sweep: an idle one may be retired, and the report says so. -/
theorem inspect_spec (lifetime : ResourceLifetime) (now idx : Nat) (report : ResourcePolicyReport) :
    Inspected (pool, report) (inspect lifetime now (pool, report) idx) := by
  unfold inspect
  dsimp only
  split
  · exact .same h rfl
  next slot hslot =>
  have hhandle := h.handles slot (mem_of_getElem? hslot)
  split
  · next next hstate =>
    split
    · have hmap : (pool.setSlot idx { slot with
          idleSince := some (slot.idleSince.getD now) }).slots.map (·.state) =
            pool.slots.map (·.state) := map_set_of_eq _ hslot rfl
      refine ⟨h.setSlot hhandle, rfl, fun i => ?_, fun hnone => ⟨hnone, hmap⟩⟩
      rw [hmap]
      exact .same _
    refine ⟨h.retireSlot _ _, rfl, fun i => ?_, fun hnone => by simp at hnone⟩
    simp only [retireSlot, setSlot, count, map_set, getElem?_set]
    split
    · next heq =>
      subst heq
      have hbound := lt_of_getElem? hslot
      rw [if_pos (by simpa using hbound), getElem?_map, hslot, map_some, hstate]
      exact .retired next
    · exact .same _
  · split
    · exact .same h rfl
    · exact .same h rfl
  · exact .same h rfl

/-- The whole sweep. -/
theorem inspectAll_spec (lifetime : ResourceLifetime) (now : Nat) (idxs : List Nat)
    (report : ResourcePolicyReport) :
    Inspected (pool, report) (idxs.foldl (inspect lifetime now) (pool, report)) := by
  induction idxs generalizing pool report with
  | nil => exact .same h rfl
  | cons idx _ ih =>
  have hfirst := inspect_spec h lifetime now idx report
  exact hfirst.trans (ih hfirst.sound (inspect lifetime now (pool, report) idx).2)

/-- The lifetime sweep of an open pool, and the queue of idle resources after it. -/
theorem handleMaintain_spec (hlisted : Account.Listed (pool.account past errand))
    (now : Nat) :
    Performs slotState Recovers pool past errand errand (pool.handleMaintain now) := by
  unfold handleMaintain
  split
  · next lifetime hopen hlifetime =>
    have hspec := inspectAll_spec h lifetime now (range pool.slots.length) {}
    generalize (range pool.slots.length).foldl (inspect lifetime now) (pool, {}) = turn at hspec ⊢
    obtain ⟨swept, report⟩ := turn
    obtain ⟨hsound, hframe, hshelved, hnone⟩ := hspec
    dsimp only at hsound hframe hshelved hnone ⊢
    by_cases hretired : report.retired = []
    · have hstates := (hnone hretired).2
      rw [if_pos (by simp [hretired])]
      refine .quiet hsound ⟨by rw [hframe], by rw [hframe]⟩ (fun past => ?_)
        (.reply (.maintenance (swept.fillReportTail report))) trivial
      simp only [account, hstates]
      rw [hframe]
    rw [if_neg (by simp [hretired])]
    have hbound : ∀ resourceId ∈ swept.idle, resourceId < swept.slots.length := by
      intro resourceId hmem
      rw [hframe] at hmem
      obtain ⟨next, hstate⟩ := hlisted resourceId hmem
      have hkept := hshelved resourceId
      rw [account] at hstate
      rw [hstate] at hkept
      by_contra hout
      rw [getElem?_eq_none (by simpa using hout)] at hkept
      cases hkept
    have hretain : swept.retainIdle =
        some { swept with idle := swept.idle.filter swept.isIdleAt } :=
          if_pos (by simpa using hbound)
    have hidle : swept.isIdleAt = fun resourceId =>
        ((swept.slots.map (·.state))[resourceId]?).any isIdle := by
      funext resourceId
      rw [isIdleAt, getElem?_map, Option.any_map]
    refine ⟨{ swept with idle := swept.idle.filter swept.isIdleAt }, _, by rw [hretain]; rfl,
      { hsound with }, ⟨by rw [hframe], by rw [hframe]⟩, ?_⟩
    have hshelve : Act slotState Recovers (pool.account past errand) _ :=
      .shelve (swept.account past errand).states hshelved
    have hswept : (swept.account past errand).idle = pool.idle ∧
        (swept.account past errand).parked = pool.waiters.parked ∧
        (swept.account past errand).isClosed = pool.closed.isSome := by
      rw [hframe]
      exact ⟨rfl, rfl, rfl⟩
    obtain ⟨hqueue, hparked, hclosed⟩ := hswept
    simp only [account] at hqueue hparked hclosed
    refine .tail (b := ({ swept with
        idle := swept.idle.filter swept.isIdleAt } : WorkerPool H).account past errand)
      (.single ?_) (.quiet _ trivial)
    simpa only [account, hqueue, hparked, hclosed, hidle] using hshelve
  · exact .quiet h (refl _) (fun _ => rfl) (.reply (.maintenance (pool.fillReportTail {}))) trivial

/-- A retired resource is replaced; the new one goes where an idle resource goes. -/
theorem handleRefill_spec (resourceId : Nat) (handle : H) (now : Nat) :
    Performs slotState Recovers pool past .nothing .nothing
      (pool.handleRefill slotState resourceId handle now) := by
  unfold handleRefill
  split
  · exact .quiet h (refl _) (fun _ => rfl) (.reply (.refilled .closed)) trivial
  next hclosed =>
  have hopen : (pool.account past .nothing).isClosed = false := by simpa [account] using hclosed
  split
  · exact .quiet h (refl _) (fun _ => rfl) (.reply (.refilled .unknownResource)) trivial
  next _ hslot =>
  split
  · next next hstate =>
    have hretired : (pool.account past .nothing).states[resourceId]? = some (.retired next) := by
      rw [account_states_getElem?, hslot, map_some, hstate]
    have hbound := lt_of_getElem? hretired
    have hfresh : (pool.refilled resourceId handle next now).Sound := h.setSlot rfl
    have haccount : ∀ past errand, (pool.refilled resourceId handle next now).account past errand =
          { pool.account past errand with
            states := (pool.account past errand).states.set resourceId (.idle next) } :=
      fun _ _ => setSlot_account _ _
    have hidle : ((pool.refilled resourceId handle next now).account past .nothing).states[
        resourceId]? = some (.idle next) := by
      rw [haccount]
      exact getElem?_set_self hbound
    obtain ⟨last, effects, hrun, hlast, hkin, hcases⟩ :=
      dispatchToNextWaiter_spec slotState hfresh hidle
    refine ⟨last, effects ++ [.reply (.refilled .refilled)], by simp [hrun], hlast,
      ⟨hkin.config, hkin.poolId⟩, ?_⟩
    rw [← append_assoc]
    refine .tail (b := last.account (past ++ effects) .nothing) (.head .unpark ?_)
      (.quiet (.reply (.refilled .refilled)) trivial)
    rcases hcases with ⟨hnone, rfl, heq⟩ | ⟨waiter, parked, minted, hfirst, rfl, hid,
      hgeneration, hlive,
    heq⟩
    · rw [heq, haccount, append_nil]
      exact .single (.refill resourceId next hopen hnone hretired)
    rw [heq, haccount, set_set, ← hid, ← hgeneration]
    exact .single (.refillOver waiter parked minted hopen hfirst hlive rfl
      (hid ▸ hgeneration ▸ hretired))
  · exact .quiet h (refl _) (fun _ => rfl) (.reply (.refilled .notRetired)) trivial

/-- Every message is answered and does what acts can do. -/
theorem respond_spec
    (hlisted : ∀ errand, Account.Listed (pool.account past errand)) (msg : WorkerPoolMsg H) :
    Performs slotState Recovers pool past (pool.errandOf msg) .nothing
      (pool.respond slotState msg) := by
  cases msg with
  | acquire caller => exact handleAcquire_spec h hlisted caller
  | release lease disposition =>
    apply handleRelease_spec h lease disposition
    intro hours
    simp [errandOf, hours]
  | close mode => exact handleClose_spec h mode
  | pressureReport =>
    exact .quiet h (refl _) (fun _ => rfl) (.reply (.pressure pool.pressure)) trivial
  | maintain now => exact handleMaintain_spec h (hlisted _) now
  | refill resourceId handle now => exact handleRefill_spec h resourceId handle now

end

end WorkerPool

end Tina.Pool
