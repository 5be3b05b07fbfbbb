import Tina.Pool.World

/-!
The leases of a worker pool. As long as no generation counter has run out, no two leases that are
out name the same resource, whatever is released and however often.
-/

namespace Tina.Pool

open Lib List Option WorkerPool ResourceState

variable {H : Type} {slotState : DeferredSlotId → DeferredSlotState} {resourceId generation : Nat}
  {states : List ResourceState} {errand : Errand}

section

/-- How often a resource was leased. -/
def leases (effects : List (Effect H)) (resourceId : Nat) : Nat :=
  (minted effects).countP (·.resourceId = resourceId)

/-- The generations of a resource count its leases, and the lease that is out is the last one. The
counters saturate, so all of this ends with the lease number `2 ^ 64 - 1`. -/
structure Ledgered (states : List ResourceState) (errand : Errand)
    (effects : List (Effect H)) : Prop where
  leased : ∀ resourceId generation, states[resourceId]? = some (.leased generation) →
    generation = min (leases effects resourceId) u64Max
  resting : ∀ resourceId state, states[resourceId]? = some state → state.isLeased = false →
    state.nextGeneration = min (leases effects resourceId + 1) u64Max
  counted : ∀ lease ∈ minted effects, leases effects lease.resourceId ≤ u64Max →
    lease.generation ≤ leases effects lease.resourceId
  ordered : (minted effects).Pairwise fun lease lease' =>
    lease.resourceId = lease'.resourceId → leases effects lease.resourceId ≤ u64Max →
      lease.generation < lease'.generation
  out : ∀ entry ∈ live effects, (minted effects)[entry.1]? = some entry.2 ∧
    (leases effects entry.2.resourceId ≤ u64Max →
      states[entry.2.resourceId]? = some (.leased entry.2.generation))
  given : ∀ resourceId generation, errand = .lease resourceId generation →
    leases effects resourceId ≤ u64Max → ∀ entry ∈ live effects,
      ¬ (entry.2.resourceId = resourceId ∧ entry.2.generation = generation)

namespace Ledgered

variable {states states' : List ResourceState} {errand errand' : Errand}
  {effects effects' : List (Effect H)} {state : ResourceState}

variable (h : Ledgered states errand effects)

include h

/-- The books may note more, as long as no lease is minted and none comes back. -/
theorem relist (hminted : minted effects' = minted effects) (hlive : live effects' ⊆ live effects)
    (hgiven : ∀ resourceId generation, errand' = .lease resourceId generation →
      leases effects resourceId ≤ u64Max → ∀ entry ∈ live effects',
        ¬ (entry.2.resourceId = resourceId ∧ entry.2.generation = generation)) :
    Ledgered states errand' effects' := by
  have hleases : leases effects' = leases effects := by
    funext resourceId
    rw [leases, leases, hminted]
  constructor
  case out =>
    intro entry hentry
    rw [hminted, hleases]
    exact h.out entry (hlive hentry)
  all_goals simp only [hleases, hminted]
  exacts [h.leased, h.resting, h.counted, h.ordered, hgiven]

/-- An effect that neither grants nor ends a lease is no entry of the books. -/
theorem quiet {effect : Effect H} (hquiet : effect.Quiet) :
    Ledgered states errand (effects ++ [effect]) := by
  have hnone : effect.minted = none := by
    cases effect with
    | replyTo _ reply =>
      cases reply with
      | acquire outcome => cases outcome <;> first | rfl | cases hquiet
      | _ => rfl
    | _ => rfl
  have hends : ∀ entry, effect.ends entry = false := by
    intro entry
    cases effect <;> first | rfl | cases hquiet
  have hlive : live (effects ++ [effect]) = live effects := by
    simp [live_concat, liveAfter, hnone, hends]
  exact h.relist (minted_concat_of_none hnone effects) (hlive ▸ fun _ h => h) (hlive ▸ h.given)

/-- A resource that is not out on a lease has none that is out. -/
theorem not_out (hstate : states[resourceId]? = some state)
    (hresting : state.isLeased = false) (hbound : leases effects resourceId ≤ u64Max) :
    ∀ entry ∈ live effects, entry.2.resourceId ≠ resourceId := by
  intro entry hentry heq
  obtain ⟨-, hout⟩ := h.out entry hentry
  rw [heq, hstate] at hout
  cases hout hbound
  cases hresting

/-- The lease that is out is the one of the current generation. -/
theorem current (hstate : states[resourceId]? = some (.leased generation))
    (hbound : leases effects resourceId ≤ u64Max) :
    ∀ entry ∈ live effects, entry.2.resourceId = resourceId → entry.2.generation = generation := by
  intro entry hentry heq
  obtain ⟨-, hout⟩ := h.out entry hentry
  rw [heq, hstate] at hout
  cases hout hbound
  rfl

/-- A lease comes to its end: the resource rests, and none of its leases is out. -/
theorem rest (hstate : states[resourceId]? = some (.leased generation))
    (hresting : state.isLeased = false) (hnext : state.nextGeneration = nextAfter generation)
    (hgone : leases effects resourceId ≤ u64Max →
      ∀ entry ∈ live effects, entry.2.resourceId ≠ resourceId) :
    Ledgered (states.set resourceId state) errand effects := by
  have := lt_of_getElem? hstate
  refine { h with leased := ?_, resting := ?_, out := ?_ }
  · intro other generation' hother
    rw [getElem?_set] at hother
    split at hother
    · cases hother
      cases hresting
    · exact h.leased other generation' hother
  · intro other state' hother hrest
    rw [getElem?_set] at hother
    split at hother
    · next heq =>
      cases hother
      subst heq
      rw [hnext, h.leased _ generation hstate, nextAfter]
      omega
    · exact h.resting other state' hother hrest
  · intro entry hentry
    obtain ⟨hnumber, hout⟩ := h.out entry hentry
    refine ⟨hnumber, fun hfew => ?_⟩
    have hne : resourceId ≠ entry.2.resourceId := by
      intro heq
      exact hgone (heq ▸ hfew) entry hentry heq.symm
    rw [getElem?_set_ne hne]
    exact hout hfew

/-- A lease is minted for a resource of which none is out. -/
theorem mint (slot : DeferredSlotId) (lease : PoolLease H)
    (hbound : lease.resourceId < states.length)
    (hgeneration : lease.generation = min (leases effects lease.resourceId + 1) u64Max)
    (hfree : leases effects lease.resourceId ≤ u64Max →
      ∀ entry ∈ live effects, entry.2.resourceId ≠ lease.resourceId) :
    Ledgered (states.set lease.resourceId (.leased lease.generation)) .nothing
      (effects ++ [acquiredBy slot lease]) := by
  have hminted := minted_acquired effects slot lease
  have hlive := live_acquired effects slot lease
  have hself : leases (effects ++ [acquiredBy slot lease]) lease.resourceId =
      leases effects lease.resourceId + 1 := by
    simp [leases, hminted, countP_append]
  have hother : ∀ resourceId, lease.resourceId ≠ resourceId →
      leases (effects ++ [acquiredBy slot lease]) resourceId = leases effects resourceId := by
    intro resourceId hne
    simp [leases, hminted, countP_append, hne]
  have hmono : ∀ resourceId, leases effects resourceId ≤
      leases (effects ++ [acquiredBy slot lease]) resourceId := by
    intro resourceId
    simp [leases, hminted, countP_append]
  -- The new generation is larger than those before it, as long as the counter has not run out.
  have hnew : leases (effects ++ [acquiredBy slot lease]) lease.resourceId ≤ u64Max →
      ∀ old ∈ minted effects, old.resourceId = lease.resourceId →
        old.generation < lease.generation := by
    intro hfew old hold heq
    have hcount := h.counted old hold (heq ▸ Nat.le_trans (hmono _) hfew)
    rw [heq] at hcount
    rw [hself] at hfew
    omega
  constructor
  case leased =>
    intro resourceId generation hstate
    rw [getElem?_set] at hstate
    split at hstate
    · next heq =>
      cases hstate
      rw [← heq, hself, hgeneration]
    · next hne =>
      rw [hother resourceId hne]
      exact h.leased resourceId generation hstate
  case resting =>
    intro resourceId state hstate hresting
    rw [getElem?_set] at hstate
    split at hstate
    · cases hstate
      cases hresting
    next hne =>
    rw [hother resourceId hne]
    exact h.resting resourceId state hstate hresting
  case counted =>
    intro old hold hfew
    rw [hminted, mem_append, mem_singleton] at hold
    rcases hold with hold | rfl
    · exact Nat.le_trans (h.counted old hold (Nat.le_trans (hmono _) hfew)) (hmono _)
    · rw [hself, hgeneration]
      exact Nat.min_le_left _ _
  case ordered =>
    rw [hminted]
    refine pairwise_concat (h.ordered.imp fun hlt hsame hfew => ?_) fun old hold hsame hfew => ?_
    · exact hlt hsame (Nat.le_trans (hmono _) hfew)
    · exact hnew (hsame ▸ hfew) old hold hsame
  case out =>
    intro entry hentry
    rw [hlive, mem_append, mem_singleton] at hentry
    rw [hminted]
    rcases hentry with hentry | rfl
    · obtain ⟨hnumber, hout⟩ := h.out entry hentry
      have hlt := lt_of_getElem? hnumber
      refine ⟨by rw [getElem?_append_left hlt, hnumber], fun hfew => ?_⟩
      have hfew' := Nat.le_trans (hmono _) hfew
      have hne : lease.resourceId ≠ entry.2.resourceId := by
        intro heq
        exact hfree (heq ▸ hfew') entry hentry heq.symm
      rw [getElem?_set_ne hne]
      exact hout hfew'
    · exact ⟨by simp, fun _ => by simp [hbound]⟩
  case given =>
    intro _ _ hgiven
    cases hgiven

/-- The states may change as long as the leases and the counters stay. -/
theorem restate (hleased : ∀ resourceId generation : Nat, states'[resourceId]? =
      some (.leased generation) ↔ states[resourceId]? = some (.leased generation))
    (hresting : ∀ (resourceId : Nat) (state' : ResourceState), states'[resourceId]? = some state' →
      state'.isLeased = false → ∃ state, states[resourceId]? = some state ∧
        state.isLeased = false ∧ state.nextGeneration = state'.nextGeneration) :
    Ledgered states' errand effects := by
  refine { h with
    leased := fun resourceId generation hstate =>
      h.leased resourceId generation ((hleased _ _).1 hstate)
    resting := fun resourceId state' hstate hrest => ?_
    out := fun entry hentry => ?_ }
  · obtain ⟨state, hbefore, hrest', hnext⟩ := hresting resourceId state' hstate hrest
    rw [← hnext]
    exact h.resting resourceId state hbefore hrest'
  · obtain ⟨hnumber, hout⟩ := h.out entry hentry
    exact ⟨hnumber, fun hfew => (hleased _ _).2 (hout hfew)⟩

theorem forget (hnone : ∀ resourceId generation, errand' ≠ .lease resourceId generation) :
    Ledgered states errand' effects :=
  h.relist rfl (fun _ h => h) fun _ _ hgiven => absurd hgiven (hnone _ _)

/-- Two leases of one resource and one generation are the same lease. -/
theorem distinct {i j : Nat} {first second : PoolLease H} (hi : (minted effects)[i]? = some first)
    (hj : (minted effects)[j]? = some second) (hsame : first.resourceId = second.resourceId)
    (hfew : leases effects first.resourceId ≤ u64Max)
    (hgeneration : first.generation = second.generation) : i = j := by
  obtain ⟨hi', rfl⟩ := List.getElem?_eq_some_iff.1 hi
  obtain ⟨hj', rfl⟩ := List.getElem?_eq_some_iff.1 hj
  have hordered := pairwise_iff_getElem.1 h.ordered
  rcases Nat.lt_trichotomy i j with hlt | heq | hgt
  · have := hordered i j hi' hj' hlt hsame hfew
    omega
  · exact heq
  · have := hordered j i hj' hi' hgt hsame.symm (hsame ▸ hfew)
    omega

end Ledgered

variable {Recovers : Prop} {a b : Account H} {effects : List (Effect H)}

/-- A note that ends the lease of a resource takes all of it off the books. -/
theorem Ledgered.ended (h : Ledgered states errand effects)
    (hstate : states[resourceId]? = some (.leased generation)) {state : ResourceState}
    (hresting : state.isLeased = false) (hnext : state.nextGeneration = nextAfter generation)
    {note : Effect H} (hnone : note.minted = none)
    (hends : ∀ entry : Nat × PoolLease H, entry.2.resourceId = resourceId →
      entry.2.generation = generation → note.ends entry = true) :
    Ledgered (states.set resourceId state) errand (effects ++ [note]) := by
  have hlive : live (effects ++ [note]) = (live effects).filter fun entry => !note.ends entry := by
    simp [live_concat, liveAfter, hnone]
  have hfewer : live (effects ++ [note]) ⊆ live effects := hlive ▸ filter_sublist.subset
  have hnoted : Ledgered states errand (effects ++ [note]) :=
    h.relist (minted_concat_of_none hnone effects) hfewer
      fun other generation' hgiven hfew entry hentry =>
        h.given _ _ hgiven hfew entry (hfewer hentry)
  refine hnoted.rest hstate hresting hnext fun hfew entry hentry heq => ?_
  have hgeneration := hnoted.current hstate hfew entry hentry heq
  rw [hlive, mem_filter] at hentry
  simp [hends entry heq hgeneration] at hentry

/-- A lease that was given back is off the books already. -/
theorem Ledgered.taken (h : Ledgered states (.lease resourceId generation) effects)
    (hstate : states[resourceId]? = some (.leased generation))
    (hfew : leases effects resourceId ≤ u64Max) :
    ∀ entry ∈ live effects, entry.2.resourceId ≠ resourceId := by
  intro entry hentry heq
  exact h.given resourceId generation rfl hfew entry hentry
    ⟨heq, h.current hstate hfew entry hentry heq⟩

theorem Act.ledgered (hact : Act slotState Recovers a b)
    (h : Ledgered a.states a.errand a.effects) : Ledgered b.states b.errand b.effects := by
  cases hact with
  | unpark | close => exact h
  | park | keep => exact h.forget (by simp)
  | quiet _ hquiet => exact h.quiet hquiet
  | recover _ _ _ hstate | retire _ _ hstate =>
    exact h.ended hstate rfl rfl rfl (by simp +contextual [Effect.ends])
  | putBack _ _ herrand _ _ hstate | drainBack _ _ herrand _ hstate =>
    rw [herrand] at h
    exact (h.forget (by simp)).rest hstate rfl rfl (h.taken hstate)
  | handOver _ slot _ lease herrand _ _ _ hstate hgeneration =>
    rw [herrand] at h
    have hbound := lt_of_getElem? hstate
    refine h.mint slot lease hbound ?_ (h.taken hstate)
    have hcount := h.leased _ _ hstate
    rw [hgeneration, hcount, nextAfter]
    omega
  | grant slot lease _ _ _ _ hstate =>
    have hbound := lt_of_getElem? hstate
    exact h.mint slot lease hbound (h.resting _ _ hstate rfl) (h.not_out hstate rfl)
  | refillOver slot _ lease _ _ _ herrand hstate =>
    have hbound := lt_of_getElem? hstate
    rw [herrand]
    exact h.mint slot lease hbound (h.resting _ _ hstate rfl) (h.not_out hstate rfl)
  | refill _ next _ _ hstate =>
    obtain ⟨hbound, hget⟩ := List.getElem?_eq_some_iff.1 hstate
    apply h.restate
    · intro other generation
      rw [getElem?_set]
      split
      · next heq =>
        subst heq
        simp [hget, hbound]
      · rfl
    · intro other state' hother hresting
      rw [getElem?_set] at hother
      split at hother
      · next heq =>
        cases hother
        exact ⟨.retired next, heq ▸ hstate, rfl, rfl⟩
      · exact ⟨state', hother, hresting, rfl⟩
  | shelve states hstates =>
  apply h.restate
  · intro resourceId generation
    have hkept := hstates resourceId
    generalize a.states[resourceId]? = before at hkept ⊢
    generalize states[resourceId]? = after at hkept ⊢
    cases hkept <;> simp
  intro resourceId state' hstate hresting
  have hkept := hstates resourceId
  rw [hstate] at hkept
  generalize a.states[resourceId]? = before at hkept ⊢
  cases hkept with
  | same => exact ⟨state', rfl, hresting, rfl⟩
  | retired next => exact ⟨.idle next, rfl, rfl, rfl⟩

end

section

variable {w : World H} {config : PoolConfig} {lease : PoolLease H} {w' : World H}
  {pool pool' : WorkerPool H} {notes : List (Effect H)}

/-- A release of one of our leases is noted: that lease is off the books. -/
theorem Ledgered.release {effects : List (Effect H)} {origin : Nat}
    (h : Ledgered states .nothing effects) (hlease : (minted effects)[origin]? = some lease)
    (herrand : errand = .nothing ∨ errand = .lease lease.resourceId lease.generation) :
    Ledgered states errand (effects ++ [.releaseOf origin]) := by
  have hlive : live (effects ++ [.releaseOf origin]) =
      (live effects).filter fun entry => !decide (entry.1 = origin) := by
    simp [live_concat, liveAfter, Effect.minted, Effect.ends]
  refine h.relist (minted_concat_of_none rfl effects) (hlive ▸ filter_sublist.subset) ?_
  rintro _ _ hgiven hfew entry hentry ⟨hid, hgeneration⟩
  rw [hlive, mem_filter] at hentry
  rcases herrand with rfl | rfl
  · cases hgiven
  cases hgiven
  have hnumber := (h.out entry hentry.1).1
  have hsame := h.distinct hnumber hlease hid (hid ▸ hfew) hgeneration
  simp [hsame] at hentry

theorem World.turn_ledgered {arrival : List (Effect H)} {msg : WorkerPoolMsg H}
    (hordered : w.Ordered config) (h : Ledgered w.account.states .nothing w.history)
    (harrives : w.Arrives arrival msg) (hturn : w.turn arrival msg = some w') :
    Ledgered w'.account.states .nothing w'.history := by
  obtain ⟨_, middle, notes, hrun, -, -, hid, -, hsweep, hacts, -⟩ :=
    World.turn_spec hordered arrival msg fun _ _ _ => trivial
  rw [hturn] at hrun
  cases hrun
  have hswept : Ledgered (middle.account (w.history ++ notes) .nothing).states .nothing
      (w.history ++ notes) :=
    hsweep.invariant (P := fun a => Ledgered a.states a.errand a.effects) Act.ledgered h
  refine hacts.invariant (P := fun a => Ledgered a.states a.errand a.effects) Act.ledgered ?_
  cases harrives with
  | other msg hnone =>
    have hnone' : ∀ resourceId generation, middle.errandOf msg ≠ .lease resourceId generation := by
      simpa [errandOf, hid] using hnone
    rw [append_nil]
    exact hswept.forget hnone'
  | release origin lease _ hlease =>
  have hlease' : (minted (w.history ++ notes))[origin]? = some lease := by
    have hbound := lt_of_getElem? hlease
    rw [minted_append, getElem?_append_left hbound, hlease]
  apply hswept.release hlease'
  · simp only [WorkerPool.account, errandOf]
    split
    · exact .inr rfl
    · exact .inl rfl

theorem ledgered_initial {capacity : Nat} (hstates : states = replicate capacity (.idle 1)) :
    Ledgered states .nothing ([] : List (Effect H)) := by
  subst hstates
  constructor
  case leased =>
    intro resourceId generation hstate
    rw [getElem?_replicate] at hstate
    split at hstate <;> cases hstate
  case resting =>
    intro resourceId state hstate _
    rw [getElem?_replicate] at hstate
    split at hstate
    · cases hstate
      rfl
    · cases hstate
  all_goals simp [minted, live]

/-- A pool with its books. -/
structure World.Kept (config : PoolConfig) (w : World H) : Prop where
  ordered : w.Ordered config
  books : Ledgered w.account.states .nothing w.history

theorem World.Kept.step {move : Move H} (h : w.Kept config) (hstep : w.step move = some w') :
    w'.Kept config := by
  refine ⟨h.ordered.step hstep, ?_⟩
  cases World.step_stepped hstep with
  | settled _ _ _ heq =>
    subst heq
    exact h.books
  | handled _ _ _ harrives _ hturn =>
    exact World.turn_ledgered h.ordered h.books harrives hturn
  | acquired _ hturn =>
    exact World.turn_ledgered h.ordered.withCaller h.books (.other _ (by simp [errandOf])) hturn

/-- The resource that a lease names is out on it. -/
def WorkerPool.Current (pool : WorkerPool H) (lease : PoolLease H) : Prop :=
  lease.poolId = pool.poolId ∧
    (pool.slots[lease.resourceId]?).map (·.state) = some (.leased lease.generation)

/-- A release of a lease that no resource is out on is answered and changes nothing. -/
theorem WorkerPool.handleRelease_of_not_current (slotState : DeferredSlotId → DeferredSlotState)
    (h : ¬ pool.Current lease) (disposition : ReleaseDisposition) :
    ∃ outcome, pool.handleRelease slotState lease disposition =
      some (pool, [.reply (.release outcome)]) := by
  unfold handleRelease
  split
  · exact ⟨_, rfl⟩
  next hours =>
  split
  · exact ⟨_, rfl⟩
  next slot hslot =>
  have hother : slot.state ≠ .leased lease.generation := by
    intro hstate
    exact h ⟨not_not.1 hours, by rw [hslot, map_some, hstate]⟩
  split <;> exact ⟨_, rfl⟩

/-- The sweeps end leases and make none. -/
theorem WorkerPool.sweepFrom_leased {fuel i : Nat}
    (hrun : sweepFrom slotState fuel i pool = some (pool', notes)) (resourceId generation : Nat)
    (hleased : (pool'.slots[resourceId]?).map (·.state) = some (.leased generation)) :
    (pool.slots[resourceId]?).map (·.state) = some (.leased generation) := by
  induction fuel generalizing pool i notes with
  | zero =>
    cases hrun
    exact hleased
  | succ _ ih =>
  unfold sweepFrom at hrun
  split at hrun
  · cases hrun
    exact hleased
  next =>
  split at hrun
  · exact ih hrun
  · have hdropped := ih hrun
    exact hdropped
  obtain ⟨⟨_, _⟩, hrecover, hrest⟩ := bind_eq_some_iff.1 hrun
  obtain ⟨⟨_, _⟩, hlast, heq⟩ := bind_eq_some_iff.1 hrest
  cases heq
  have hmiddle := ih hlast
  unfold recoverDispatched at hrecover
  split at hrecover
  · cases hrecover
  split at hrecover
  · cases hrecover
    simp only [count, returned, setSlot, dropDispatch, getElem?_set] at hmiddle
    split at hmiddle
    · split at hmiddle <;> cases hmiddle
    · exact hmiddle
  · cases hrecover
    exact hmiddle

theorem WorkerPool.sweep_leased (hrun : pool.sweep slotState = some (pool', notes))
    (resourceId generation : Nat)
    (hleased : (pool'.slots[resourceId]?).map (·.state) = some (.leased generation)) :
    (pool.slots[resourceId]?).map (·.state) = some (.leased generation) := by
  obtain ⟨_, hwaiters, hflight⟩ := bind_eq_some_iff.1 hrun
  obtain ⟨⟨_, _⟩, -, heq⟩ := bind_eq_some_iff.1 hwaiters
  cases heq
  exact sweepFrom_leased hflight resourceId generation hleased

/-- In every run of a pool: each resource has a handle unless it is retired; the idle queue of an
open pool lists the idle resources, each once; no more callers are parked than there are places; two
leases that are out name different resources, as long as the resource has been leased less than
`2 ^ 64` times; a release that does not name the current lease of a resource does no more than the
sweeps that every message does; and no message makes the pool panic. -/
theorem leases_exclusive {poolId : Nat} {resources : List H} {lifetime : Option ResourceLifetime}
    {now : Option Nat} {pool : WorkerPool H}
    (hbuild : WorkerPool.build poolId config resources lifetime now = some pool)
    (hrun : Run World.step (fun _ _ => True) (.initial pool) w) :
    w.pool.slots.length = config.capacity ∧
      (∀ slot ∈ w.pool.slots, slot.handle.isSome = !slot.state.isRetired) ∧
      (w.pool.closed = none →
        w.pool.idle.Nodup ∧ ∀ resourceId, resourceId ∈ w.pool.idle ↔ w.pool.isIdleAt resourceId) ∧
      w.pool.waiters.parked.length ≤ config.maxWaiters ∧
      (∀ first ∈ live w.history, ∀ second ∈ live w.history,
        first.2.resourceId = second.2.resourceId →
        leases w.history first.2.resourceId < 2 ^ 64 → first = second) ∧
      (∀ arrival lease disposition, ¬ w.pool.Current lease → ∃ swept notes outcome,
        w.pool.sweep w.slotState = some (swept, notes) ∧
        w.turn arrival (.release lease disposition) = some { w with
          pool := swept
          history := w.history ++ notes ++ arrival ++ [.reply (.release outcome)] }) ∧
      ∀ arrival msg, (w.turn arrival msg).isSome = true := by
  have hkept : w.Kept config := by
    refine hrun.invariant (I := World.Kept config) ?_ fun _ _ _ h _ hstep => h.step hstep
    obtain ⟨hordered, hstates⟩ := World.build_ordered hbuild
    exact ⟨hordered, ledgered_initial hstates⟩
  obtain ⟨hordered, hbooks⟩ := hkept
  refine ⟨hordered.sound.size.trans (by rw [hordered.config]), hordered.sound.handles, ?_, ?_,
    ?_, ?_, ?_⟩
  · intro hopen
    refine ⟨hordered.shelf.once, fun resourceId => ?_⟩
    have hstate : w.account.states[resourceId]? = _ := account_states_getElem? resourceId
    rw [isIdleAt, Option.any_eq_true]
    constructor
    · intro hmem
      obtain ⟨next, hidle⟩ := hordered.shelf.listed resourceId hmem
      obtain ⟨slot, hslot, hslotIdle⟩ := map_eq_some_iff.1 (hstate.symm.trans hidle)
      exact ⟨slot, hslot, by rw [hslotIdle]; rfl⟩
    rintro ⟨slot, hslot, hidle⟩
    obtain ⟨next, hnext⟩ : ∃ next, slot.state = .idle next := by
      cases hslotIdle : slot.state with
      | idle next => exact ⟨next, rfl⟩
      | _ => simp [hslotIdle, isIdle] at hidle
    refine hordered.shelf.complete (by simp [World.account, account, hopen]) resourceId
      next (hstate.trans ?_)
    rw [hslot, map_some, hnext]
  · calc w.pool.waiters.parked.length ≤ w.pool.waiters.slab.length :=
      hordered.sound.waiters.parked_le
      _ = config.maxWaiters := by rw [hordered.sound.places, hordered.config]
  · intro first hfirst second hsecond hsame hfew
    have hfew' : leases w.history first.2.resourceId ≤ u64Max := by
      unfold u64Max
      omega
    obtain ⟨hnumber, hout⟩ := hbooks.out first hfirst
    obtain ⟨hnumber', -⟩ := hbooks.out second hsecond
    have hgeneration := hbooks.current (hout hfew') hfew' second hsecond hsame.symm
    have hindex := hbooks.distinct hnumber hnumber' hsame hfew' hgeneration.symm
    rw [hindex, hnumber', some.injEq] at hnumber
    exact Prod.ext hindex hnumber.symm
  · intro arrival lease disposition houtdated
    have hsweeps : Performs w.slotState True w.pool w.history .nothing .nothing _ :=
      sweep_spec hordered.sound fun _ _ _ => trivial
    obtain ⟨swept, notes, hsweep, -, hkin, -⟩ := hsweeps
    have hswept : ¬ swept.Current lease := by
      rintro ⟨hours, hleased⟩
      exact houtdated ⟨hours.trans hkin.poolId, sweep_leased hsweep _ _ hleased⟩
    obtain ⟨outcome, hrelease⟩ := handleRelease_of_not_current w.slotState hswept disposition
    exact ⟨swept, notes, outcome, hsweep, by simp [World.turn, hsweep, respond, hrelease]⟩
  · intro arrival msg
    obtain ⟨_, _, _, hturn, -⟩ :=
      World.turn_spec hordered arrival msg fun _ _ _ => trivial
    rw [hturn]
    rfl

end

section

variable {origin : Nat} {w' : World Unit}

/-- A pool of one resource without waiters, idle at a generation. -/
def restingPool (generation : Nat) : WorkerPool Unit :=
  { poolId := 1
    config := { capacity := 1, maxWaiters := 0 }
    lifetime := none
    slots := [{ handle := some (), state := .idle generation
                createdAt := none, idleSince := none }]
    idle := [0]
    waiters := .empty 0
    inFlight := []
    counters := {}
    closed := none }

/-- The same pool while its resource is out, and the reply may not have been seen. -/
def lendingPool (generation : Nat) (inFlight : List InFlightDispatch) : WorkerPool Unit :=
  { restingPool generation with
    slots := [{ handle := some (), state := .leased generation
                createdAt := none, idleSince := none }]
    idle := []
    inFlight }

def soleLease (generation : Nat) : PoolLease Unit :=
  { poolId := 1, resourceId := 0, generation, handle := () }

/-- The lease is out and delivered. -/
structure Lent (generation : Nat) (w : World Unit) : Prop where
  run : Run World.step (fun _ _ => True) (.initial (restingPool 1)) w
  pool : ∃ slot, w.pool = lendingPool generation [⟨0, generation, slot⟩] ∧
    w.slotState slot = .replied

/-- The resource is at rest. -/
structure Resting (generation : Nat) (w : World Unit) : Prop where
  run : Run World.step (fun _ _ => True) (.initial (restingPool 1)) w
  pool : w.pool = restingPool generation

variable {w : World Unit} {generation : Nat}

/-- The resource is lent to one more caller. -/
theorem Resting.lend (h : Resting generation w) : ∃ w', Lent generation w' ∧
      w'.history = w.history ++ [acquiredBy w.slots.length (soleLease generation)] := by
  have hacquire : w.step .acquire = some
      { pool := lendingPool generation [⟨0, generation, w.slots.length⟩]
        slots := w.slots ++ [.opened]
        history := w.history ++ [acquiredBy w.slots.length (soleLease generation)] } := by
    have hsweep : (restingPool generation).sweep w.withCaller.slotState =
        some (restingPool generation, []) := rfl
    have hrespond : (restingPool generation).respond w.withCaller.slotState
        (.acquire (.slot w.slots.length)) =
          some (lendingPool generation [⟨0, generation, w.slots.length⟩],
            [acquiredBy w.slots.length (soleLease generation)]) := rfl
    have hpool : w.withCaller.pool = restingPool generation := h.pool
    simp only [World.step, World.turn, hpool, hsweep, bind_eq_bind, bind_some, hrespond]
    simp [World.withCaller]
  have hdeliver : World.step
      { pool := lendingPool generation [⟨0, generation, w.slots.length⟩]
        slots := w.slots ++ [.opened]
        history := w.history ++ [acquiredBy w.slots.length (soleLease generation)] }
      (.deliver w.slots.length) = some
        { pool := lendingPool generation [⟨0, generation, w.slots.length⟩]
          slots := w.slots ++ [.replied]
          history := w.history ++ [acquiredBy w.slots.length (soleLease generation)] } := by
    simp [World.step, World.repliedTo, acquiredBy, World.settleSlot, World.slotState]
  refine ⟨_, ⟨.step _ (.step _ h.run trivial hacquire) trivial hdeliver, w.slots.length, rfl, ?_⟩,
    rfl⟩
  simp [World.slotState]

/-- Any release of a lease of that generation, even of an old one, ends the lease that is out. -/
theorem Lent.giveBack (h : Lent generation w)
    (horigin : (minted w.history)[origin]? = some (soleLease generation)) :
    ∃ w', Resting (nextAfter generation) w' ∧
      w'.history = w.history ++ [.releaseOf origin, .reply (.release .released)] := by
  obtain ⟨slot, hpool, hslot⟩ := h.pool
  have hsweep : (lendingPool generation [⟨0, generation, slot⟩]).sweep w.slotState =
      some (lendingPool generation [], []) := by
    change sweepFrom w.slotState 1 0 (lendingPool generation [⟨0, generation, slot⟩]) = _
    simp only [sweepFrom, lendingPool, List.getElem?_cons_zero, hslot]
    rfl
  have hrespond : (lendingPool generation []).respond w.slotState
      (.release (soleLease generation) .reuse) =
        some (restingPool (nextAfter generation), [.reply (.release .released)]) := by
    have htakeBack : (lendingPool generation []).takeBack w.slotState (soleLease generation)
        ⟨some (), .leased generation, none, none⟩ .reuse =
          some (restingPool (nextAfter generation), [.reply (.release .released)]) := rfl
    change (lendingPool generation []).handleRelease w.slotState (soleLease generation) .reuse = _
    unfold handleRelease
    rw [if_neg (show ¬ (soleLease generation).poolId ≠ (lendingPool generation []).poolId from
      not_not.2 rfl)]
    change (if (none : Option CloseMode) = some .force then _ else
      if leased generation = .leased generation then _ else _) = _
    rw [if_neg (by simp), if_pos rfl, htakeBack]
  have hstep : w.step (.release origin .reuse) = some
      { w with
        pool := restingPool (nextAfter generation)
        history := w.history ++ [.releaseOf origin, .reply (.release .released)] } := by
    simp [World.step, horigin, World.turn, hpool, hsweep, hrespond]
  exact ⟨_, ⟨.step _ h.run trivial hstep, rfl⟩, rfl⟩

/-- A lease that was just minted can be released. -/
theorem minted_lent {slot : DeferredSlotId}
    (hhistory : w'.history = w.history ++ [acquiredBy slot (soleLease generation)]) :
    (minted w'.history)[(minted w.history).length]? = some (soleLease generation) := by
  rw [hhistory, minted_acquired]
  exact getElem?_concat_length

section

variable (hhistory : w'.history = w.history ++ [.releaseOf origin, .reply (.release .released)])

include hhistory

theorem minted_back : minted w'.history = minted w.history := by
  rw [hhistory, minted_append]
  exact append_nil _

/-- A release leaves every lease out that it does not name. -/
theorem live_back {entry : Nat × PoolLease Unit} (hentry : entry ∈ live w.history)
    (hother : entry.1 ≠ origin) : entry ∈ live w'.history := by
  have hsplit : w'.history = (w.history ++ [.releaseOf origin]) ++
      [.reply (.release .released)] := by
    simp [hhistory]
  rw [hsplit, live_concat, live_concat]
  simp [liveAfter, Effect.minted, Effect.ends, hentry, hother]

end

/-- Every generation up to the last one is reached. -/
theorem exists_resting (n : Nat) (hn : n < u64Max) : ∃ w, Resting (n + 1) w := by
  induction n with
  | zero => exact ⟨_, .start, rfl⟩
  | succ n ih =>
  obtain ⟨w, hresting⟩ := ih (Nat.lt_of_succ_lt hn)
  obtain ⟨_, hlent, hhistory⟩ := hresting.lend
  obtain ⟨back, hback, -⟩ := hlent.giveBack (minted_lent hhistory)
  have hnext : nextAfter (n + 1) = n + 1 + 1 := Nat.min_eq_left hn
  exact ⟨back, hnext ▸ hback⟩

/-- Once the counter of a resource has run out, a late release of an old lease takes the resource
from its holder, and the next caller shares it. -/
theorem leases_overlap_at_last_generation : ∃ (pool : WorkerPool Unit) (w : World Unit),
      WorkerPool.build 1 { capacity := 1, maxWaiters := 0 } [()] none none = some pool ∧
      Run World.step (fun _ _ => True) (.initial pool) w ∧
      ∃ first ∈ live w.history, ∃ second ∈ live w.history, first ≠ second ∧
        first.2.resourceId = second.2.resourceId := by
  have hlast : nextAfter u64Max = u64Max := Nat.min_eq_right (Nat.le_succ _)
  obtain ⟨w₀, h₀⟩ := exists_resting (u64Max - 1) (by decide)
  rw [show u64Max - 1 + 1 = u64Max by decide] at h₀
  obtain ⟨_, h₁, hhistory₁⟩ := h₀.lend
  obtain ⟨w₂, h₂, hhistory₂⟩ := h₁.giveBack (minted_lent hhistory₁)
  rw [hlast] at h₂
  obtain ⟨w₃, h₃, hhistory₃⟩ := h₂.lend
  -- The first lease is released a second time, while the second lease is out.
  have hminted₂ : minted w₂.history = minted w₀.history ++ [soleLease u64Max] := by
    rw [minted_back hhistory₂, hhistory₁, minted_acquired]
  have hagain : (minted w₃.history)[(minted w₀.history).length]? = some (soleLease u64Max) := by
    rw [hhistory₃, minted_acquired, hminted₂]
    simp
  obtain ⟨w₄, h₄, hhistory₄⟩ := h₃.giveBack hagain
  rw [hlast] at h₄
  obtain ⟨w₅, h₅, hhistory₅⟩ := h₄.lend
  have hsecond : ((minted w₂.history).length, soleLease u64Max) ∈ live w₃.history := by
    rw [hhistory₃, live_acquired]
    simp
  have hminted₄ : (minted w₄.history).length = (minted w₂.history).length + 1 := by
    rw [minted_back hhistory₄, hhistory₃, minted_acquired, length_append, length_singleton]
  refine ⟨restingPool 1, w₅, rfl, h₅.run, ((minted w₂.history).length, soleLease u64Max), ?_,
    ((minted w₄.history).length, soleLease u64Max), ?_, ?_, rfl⟩
  · rw [hhistory₅, live_acquired]
    exact mem_append_left _ (live_back hhistory₄ hsecond (by simp [hminted₂]))
  · rw [hhistory₅, live_acquired]
    simp
  · intro heq
    have := congrArg Prod.fst heq
    simp only at this
    omega

/-- A pool of two resources. The first is released, leased again to a caller who gives up, recovered
and leased once more; the late release of its first lease changes nothing. -/
theorem leases_exclusive_of_two : ∃ w : World Unit, (live w.history).map (·.1) = [1, 3] ∧
      ∀ first ∈ live w.history, ∀ second ∈ live w.history,
        first.2.resourceId = second.2.resourceId →
        leases w.history first.2.resourceId < 2 ^ 64 → first = second := by
  obtain ⟨pool, hbuild⟩ : ∃ pool : WorkerPool Unit,
      build 1 { capacity := 2, maxWaiters := 1 } [(), ()] none none = some pool := ⟨_, rfl⟩
  obtain ⟨w, hrun, hlive⟩ := exists_run World.step (fun _ _ => True) (.initial pool)
    [.acquire, .deliver 0, .acquire, .deliver 1, .release 0 .reuse, .acquire, .closeSlot 2,
      .pressureReport, .acquire, .deliver 3, .release 0 .reuse]
    (fun w => (live w.history).map (·.1) = [1, 3]) (by cases hbuild; decide)
  exact ⟨w, of_decide_eq_true hlive, (leases_exclusive hbuild hrun).2.2.2.2.1⟩

end

end Tina.Pool
