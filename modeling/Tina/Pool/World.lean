import Mathlib.Data.List.Induction
import Tina.Lib.Runs
import Tina.Pool.Turns

/-!
A pool together with the reply slots of its callers. Messages arrive in any order, a reply that was
sent is delivered at any time, and a caller may close its slot at any time. The history keeps all
that the pool has told.
-/

namespace Tina.Pool

open Lib List WorkerPool ResourceState

variable {H : Type}

structure World (H : Type) where
  pool : WorkerPool H
  slots : List DeferredSlotState
  history : List (Effect H)

def Effect.minted : Effect H → Option (PoolLease H)
  | .replyTo _ (.acquire (.acquired lease)) => some lease
  | _ => none

/-- The leases that were minted, in that order. -/
def minted (history : List (Effect H)) : List (PoolLease H) :=
  history.filterMap Effect.minted

/-- An effect after which a lease is no longer out: it was released, retired or recovered. -/
def Effect.ends (effect : Effect H) (entry : Nat × PoolLease H) : Bool :=
  match effect with
  | .releaseOf origin => entry.1 = origin
  | .leaseRetired resourceId generation | .leaseRecovered resourceId generation =>
    entry.2.resourceId = resourceId && entry.2.generation = generation
  | _ => false

/-- The leases that are out after one more effect, numbered in the order they were minted in. -/
def liveAfter (count : Nat) (live : List (Nat × PoolLease H)) (effect : Effect H) :
    List (Nat × PoolLease H) :=
  match effect.minted with
  | some lease => live ++ [(count, lease)]
  | none => live.filter (!effect.ends ·)

/-- The leases that were minted and not yet released, retired or recovered. -/
def live (history : List (Effect H)) : List (Nat × PoolLease H) :=
  (history.foldl (fun (acc : Nat × List (Nat × PoolLease H)) effect =>
    (acc.1 + effect.minted.toList.length, liveAfter acc.1 acc.2 effect)) (0, [])).2

inductive Move (H : Type) where
  /-- An `Acquire` from a caller whose reply slot the pool can hold. -/
  | acquire
  | acquireNoCaller
  | acquireCrossShard
  /-- A `Release` of the lease that was minted as number `origin`, at any time and any number of
  times. -/
  | release (origin : Nat) (disposition : ReleaseDisposition)
  /-- A `Release` of a lease of another pool. -/
  | releaseForeign (lease : PoolLease H) (disposition : ReleaseDisposition)
  | close (mode : CloseMode)
  | pressureReport
  | maintain (now : Nat)
  | refill (resourceId : Nat) (handle : H) (now : Nat)
  /-- The runtime delivers the reply that the pool has sent to a slot. -/
  | deliver (slot : DeferredSlotId)
  /-- A caller gives up, or its reply cannot be delivered. -/
  | closeSlot (slot : DeferredSlotId)

/-- The moves in which the pool handles a message. -/
def Move.isMessage : Move H → Bool
  | .deliver _ | .closeSlot _ => false
  | _ => true

namespace World

def initial (pool : WorkerPool H) : World H := { pool, slots := [], history := [] }

def slotState (w : World H) (slot : DeferredSlotId) : DeferredSlotState :=
  w.slots[slot]?.getD .closed

/-- The pool handles a message; `arrival` is what the history notes of the message itself. -/
def turn (w : World H) (arrival : List (Effect H)) (msg : WorkerPoolMsg H) : Option (World H) := do
  let (pool, notes) ← w.pool.sweep w.slotState
  let (pool, effects) ← pool.respond w.slotState msg
  return { w with pool, history := w.history ++ notes ++ arrival ++ effects }

/-- One more caller has asked. -/
def withCaller (w : World H) : World H := { w with slots := w.slots ++ [.opened] }

def repliedTo (w : World H) (slot : DeferredSlotId) : Bool :=
  w.history.any fun
    | .replyTo other _ => other = slot
    | _ => false

/-- The slot of a caller changes, as long as it is open. -/
def settleSlot (w : World H) (slot : DeferredSlotId) (state : DeferredSlotState) :
    Option (World H) :=
  if w.slotState slot = .opened then some { w with slots := w.slots.set slot state } else none

def step (w : World H) : Move H → Option (World H)
  | .acquire => w.withCaller.turn [] (.acquire (.slot w.slots.length))
  | .acquireNoCaller => w.turn [] (.acquire .noCaller)
  | .acquireCrossShard => w.turn [] (.acquire .crossShardUnsupported)
  | .release origin disposition => do
    let lease ← (minted w.history)[origin]?
    w.turn [.releaseOf origin] (.release lease disposition)
  | .releaseForeign lease disposition =>
    if lease.poolId = w.pool.poolId then none else w.turn [] (.release lease disposition)
  | .close mode => w.turn [] (.close mode)
  | .pressureReport => w.turn [] .pressureReport
  | .maintain now => w.turn [] (.maintain now)
  | .refill resourceId handle now => w.turn [] (.refill resourceId handle now)
  | .deliver slot => if w.repliedTo slot then w.settleSlot slot .replied else none
  | .closeSlot slot => w.settleSlot slot .closed

end World

/-- The idle queue of an open pool lists the idle resources, each of them once. -/
structure Account.Shelf (a : Account H) : Prop where
  once : a.idle.Nodup
  listed : WorkerPool.Account.Listed a
  complete : a.isClosed = false → ∀ resourceId next,
    a.states[resourceId]? = some (.idle next) → resourceId ∈ a.idle

namespace Account.Shelf

variable {a : Account H} {resourceId : Nat} {state : ResourceState}

section

variable (h : a.Shelf) (hstate : a.states[resourceId]? = some state) (hbusy : state.isIdle = false)

include h hstate hbusy

theorem not_mem : resourceId ∉ a.idle := by
  intro hmem
  obtain ⟨next, hidle⟩ := h.listed resourceId hmem
  rw [hstate] at hidle
  cases hidle
  simp [isIdle] at hbusy

/-- A busy resource becomes idle and joins the queue. -/
theorem join (next : Nat) (parked : List DeferredSlotId) (errand : Errand)
    (effects : List (Effect H)) :
    ({ a with
      states := a.states.set resourceId (.idle next)
      idle := a.idle ++ [resourceId]
      parked
      errand
      effects } : Account H).Shelf := by
  have hbound := lt_of_getElem? hstate
  have hnot := h.not_mem hstate hbusy
  constructor
  case once =>
    refine nodup_append.2 ⟨h.once, by simp, ?_⟩
    intro other hother _ hself heq
    exact hnot (mem_singleton.1 hself ▸ heq ▸ hother)
  case listed =>
    intro other hother
    simp only [getElem?_set]
    by_cases heq : resourceId = other
    · exact ⟨next, by simp [heq.symm, hbound]⟩
    rw [if_neg heq]
    apply h.listed
    simpa [Ne.symm heq] using hother
  case complete =>
    intro hopen other next' hidle
    simp only [getElem?_set] at hidle
    by_cases heq : resourceId = other
    · simp [heq]
    · rw [if_neg heq] at hidle
      exact mem_append_left _ (h.complete hopen other next' hidle)

/-- A resource outside the queue takes another state that is not idle, or the pool is closed. -/
theorem pass {state' : ResourceState} (hafter : state'.isIdle = false ∨ a.isClosed = true)
    (parked : List DeferredSlotId) (errand : Errand) (effects : List (Effect H)) :
    ({ a with
      states := a.states.set resourceId state'
      parked
      errand
      effects } : Account H).Shelf := by
  have hnot := h.not_mem hstate hbusy
  constructor
  case once => exact h.once
  case listed =>
    intro other hother
    simp only [getElem?_set]
    rw [if_neg fun heq : resourceId = other => hnot (heq ▸ hother)]
    exact h.listed other hother
  case complete =>
    intro hopen other next hidle
    simp only [getElem?_set] at hidle
    split at hidle
    · rcases hafter with hafter | hclosed
      · split at hidle
        · cases hidle
          cases hafter
        · cases hidle
      · rw [hopen] at hclosed
        cases hclosed
    · exact h.complete hopen other next hidle

end

end Account.Shelf

theorem Act.shelf {slotState : DeferredSlotId → DeferredSlotState} {Recovers : Prop}
    {a b : Account H} (hact : Act slotState Recovers a b) (h : a.Shelf) : b.Shelf := by
  cases hact with
  | quiet | unpark | park | keep => exact { h with }
  | close => exact ⟨h.once, h.listed, fun hopen => by cases hopen⟩
  | recover _ _ _ hstate | putBack _ _ _ _ _ hstate | refill _ _ _ _ hstate =>
    exact h.join hstate rfl _ _ _ _
  | handOver _ _ _ _ _ _ _ _ hstate | refillOver _ _ _ _ _ _ _ hstate =>
    exact h.pass hstate rfl (.inl rfl) _ _ _
  | drainBack _ _ _ hclosed hstate =>
    exact h.pass hstate rfl (.inr hclosed) _ _ _
  | retire _ _ hstate => exact h.pass hstate rfl (.inl rfl) _ _ _
  | grant _ lease _ hidle hopen =>
    have hnodup := h.once
    rw [hidle, nodup_cons] at hnodup
    refine ⟨hnodup.2, ?_, ?_⟩
    · intro other hother
      simp only [getElem?_set]
      rw [if_neg fun heq : lease.resourceId = other => hnodup.1 (heq ▸ hother)]
      exact h.listed other (by simp [hidle, hother])
    intro hopen' other next hother
    simp only [getElem?_set] at hother
    split at hother
    · split at hother <;> cases hother
    next hne =>
    have hmem := h.complete hopen other next hother
    simpa [hidle, Ne.symm hne] using hmem
  | shelve _ hstates =>
  refine ⟨h.once.filter _, ?_, ?_⟩
  · intro resourceId hmem
    obtain ⟨-, hidle⟩ := mem_filter.1 hmem
    obtain ⟨state, hstate, hisIdle⟩ := (Option.any_eq_true _ _).1 hidle
    cases state with
    | idle next => exact ⟨next, hstate⟩
    | _ => simp [isIdle] at hisIdle
  intro hopen resourceId next hidle
  have hsame : a.states[resourceId]? = some (.idle next) := by
    have hkept := hstates resourceId
    rw [hidle] at hkept
    generalize a.states[resourceId]? = before at hkept
    cases hkept
    rfl
  exact mem_filter.2 ⟨h.complete hopen resourceId next hsame, by simp [hidle, isIdle]⟩

@[simp] theorem minted_append (history more : List (Effect H)) :
    minted (history ++ more) = minted history ++ minted more :=
  filterMap_append

theorem minted_concat_of_none {effect : Effect H} (h : effect.minted = none)
    (history : List (Effect H)) : minted (history ++ [effect]) = minted history := by
  simp [minted, h]

theorem live_concat (history : List (Effect H)) (effect : Effect H) :
    live (history ++ [effect]) = liveAfter (minted history).length (live history) effect := by
  have hcount : (history.foldl (fun (acc : Nat × List (Nat × PoolLease H)) effect =>
      (acc.1 + effect.minted.toList.length, liveAfter acc.1 acc.2 effect)) (0, [])).1 =
        (minted history).length := by
    induction history using reverseRecOn with
    | nil => rfl
    | append_singleton _ last ih =>
      rw [foldl_append, minted_append, length_append, ← ih]
      cases hlast : last.minted <;> simp [minted, hlast]
  simp only [live, foldl_append, foldl_cons, foldl_nil, hcount]

section

variable (history : List (Effect H)) (slot : DeferredSlotId) (lease : PoolLease H)

include history slot lease

theorem minted_acquired :
    minted (history ++ [acquiredBy slot lease]) = minted history ++ [lease] := by
  rw [minted_append]
  rfl

theorem live_acquired : live (history ++ [acquiredBy slot lease]) =
      live history ++ [((minted history).length, lease)] := by
  rw [live_concat]
  rfl

end

namespace World

variable {pool : WorkerPool H} {w' : World H} {move : Move H}

def account (w : World H) : Account H := w.pool.account w.history .nothing

/-- A world whose pool is in order. -/
structure Ordered (config : PoolConfig) (w : World H) : Prop where
  sound : w.pool.Sound
  shelf : w.account.Shelf
  config : w.pool.config = config

variable {w : World H} {config : PoolConfig} {Recovers : Prop}

theorem shelf_of_account {past past' : List (Effect H)} {errand errand' : Errand}
    (h : (pool.account past errand).Shelf) :
    (pool.account past' errand').Shelf :=
  { h with }

/-- A message: the sweeps, then the message itself. -/
theorem turn_spec (h : w.Ordered config) (arrival : List (Effect H)) (msg : WorkerPoolMsg H)
    (hrecovers : ∀ entry ∈ w.pool.inFlight, w.slotState entry.slot = .closed → Recovers) :
    ∃ (w' : World H) (middle : WorkerPool H) (notes : List (Effect H)),
      w.turn arrival msg = some w' ∧ w'.Ordered config ∧ w'.slots = w.slots ∧
      middle.poolId = w.pool.poolId ∧ w'.pool.poolId = w.pool.poolId ∧
      Acts w.slotState Recovers w.account (middle.account (w.history ++ notes) .nothing) ∧
      Acts w.slotState False
        (middle.account (w.history ++ notes ++ arrival) (middle.errandOf msg)) w'.account ∧
      w.pool.sweep w.slotState = some (middle, notes) := by
  obtain ⟨middle, notes, hsweep, hmiddle, hkin, hacts⟩ :=
    sweep_spec h.sound hrecovers
  have hshelf : (middle.account (w.history ++ notes) .nothing).Shelf :=
    hacts.invariant Act.shelf h.shelf
  have hperforms : Performs w.slotState False middle (w.history ++ notes ++ arrival) _ _ _ :=
    respond_spec hmiddle (fun errand => (shelf_of_account hshelf).listed) msg
  obtain ⟨last, effects, hrespond, hlast, hkin', hacts'⟩ := hperforms
  have hshelf' : (last.account (w.history ++ notes ++ arrival ++ effects) .nothing).Shelf :=
    hacts'.invariant Act.shelf (shelf_of_account hshelf)
  refine ⟨{ w with pool := last, history := w.history ++ notes ++ arrival ++ effects },
    middle, notes, by simp [turn, hsweep, hrespond], ⟨hlast, hshelf', ?_⟩, rfl, hkin.poolId,
    hkin'.poolId.trans hkin.poolId, hacts, hacts', hsweep⟩
  rw [hkin'.config, hkin.config, h.config]

/-- How a message arrives: a release of one of our leases is noted, and nothing else gives a lease
back. -/
inductive Arrives (w : World H) : List (Effect H) → WorkerPoolMsg H → Prop
  | other (msg : WorkerPoolMsg H)
      (hnone : ∀ resourceId generation, w.pool.errandOf msg ≠ .lease resourceId generation) :
      Arrives w [] msg
  | release (origin : Nat) (lease : PoolLease H) (disposition : ReleaseDisposition)
      (hlease : (minted w.history)[origin]? = some lease) :
      Arrives w [.releaseOf origin] (.release lease disposition)

/-- What a move is: a slot settles, or a message is handled. -/
inductive Stepped (w : World H) (move : Move H) (w' : World H) : Prop
  | settled (slot : DeferredSlotId) (state : DeferredSlotState) (hopen : w.slotState slot = .opened)
      (heq : w' = { w with slots := w.slots.set slot state })
  | handled (arrival : List (Effect H)) (msg : WorkerPoolMsg H) (hmessage : move.isMessage = true)
      (harrives : w.Arrives arrival msg) (hslot : ∀ slot, msg ≠ .acquire (.slot slot))
      (hturn : w.turn arrival msg = some w')
  | acquired (hmessage : move.isMessage = true)
      (hturn : w.withCaller.turn [] (.acquire (.slot w.slots.length)) = some w')

theorem settleSlot_spec {slot : DeferredSlotId} {state : DeferredSlotState}
    (hstep : w.settleSlot slot state = some w') :
    w.slotState slot = .opened ∧ w' = { w with slots := w.slots.set slot state } := by
  unfold settleSlot at hstep
  split at hstep
  · next hopen => exact ⟨hopen, (Option.some.inj hstep).symm⟩
  · cases hstep

theorem step_stepped (hstep : w.step move = some w') : w.Stepped move w' := by
  have hplain (msg : WorkerPoolMsg H) (hmessage : move.isMessage = true)
      (hnone : ∀ resourceId generation, w.pool.errandOf msg ≠ .lease resourceId generation)
      (hslot : ∀ slot, msg ≠ .acquire (.slot slot)) (hturn : w.turn [] msg = some w') :
      w.Stepped move w' := .handled [] msg hmessage (.other msg hnone) hslot hturn
  cases move with
  | acquire => exact .acquired rfl hstep
  | release origin disposition =>
    obtain ⟨lease, hlease, hturn⟩ := Option.bind_eq_some_iff.1 hstep
    exact .handled _ _ rfl (.release origin lease disposition hlease) (by simp) hturn
  | releaseForeign lease disposition =>
    simp only [step] at hstep
    split at hstep
    · cases hstep
    · next hforeign =>
      exact hplain (.release lease disposition) rfl (by simp [errandOf, hforeign]) (by simp) hstep
  | acquireNoCaller | acquireCrossShard | close | pressureReport | maintain | refill =>
    exact hplain _ rfl (by simp [errandOf]) (by simp) hstep
  | deliver slot =>
    simp only [step] at hstep
    split at hstep
    · obtain ⟨hopen, heq⟩ := settleSlot_spec hstep
      exact .settled slot _ hopen heq
    · cases hstep
  | closeSlot slot =>
    obtain ⟨hopen, heq⟩ := settleSlot_spec hstep
    exact .settled slot _ hopen heq

theorem build_ordered {poolId : Nat} {resources : List H} {lifetime : Option ResourceLifetime}
    {now : Option Nat} (hbuild : build poolId config resources lifetime now = some pool) :
    (initial pool).Ordered config ∧
      pool.slots.map (·.state) = replicate config.capacity (.idle 1) := by
  unfold build at hbuild
  split at hbuild
  · next hvalid =>
    cases hbuild
    have hstates : (resources.map fun handle =>
        (⟨some handle, .idle 1, now, now⟩ : ResourceSlot H)).map (·.state) =
          replicate config.capacity (.idle 1) := by
      rw [map_map, ← hvalid.2.1]
      exact map_const
    refine ⟨⟨⟨WaiterTable.empty_valid _, length_replicate, ?_, ?_, ?_⟩, ⟨?_, ?_, ?_⟩, rfl⟩, hstates⟩
    · intro slot hslot
      obtain ⟨handle, -, rfl⟩ := mem_map.1 hslot
      rfl
    · intro entry hentry
      cases hentry
    · exact (length_map _).trans hvalid.2.1
    · exact nodup_range
    · intro resourceId hmem
      refine ⟨1, ?_⟩
      simp only [account, WorkerPool.account, initial, hstates]
      rw [getElem?_replicate, if_pos (mem_range.1 hmem)]
    · intro _ resourceId next hstate
      simp only [account, WorkerPool.account, initial, hstates] at hstate
      have hbound := lt_of_getElem? hstate
      exact mem_range.2 (by simpa using hbound)
  · cases hbuild

theorem Ordered.withCaller (h : w.Ordered config) : w.withCaller.Ordered config :=
  { h with }

/-- Every move leaves the pool in order. -/
theorem Ordered.step (h : w.Ordered config) (hstep : w.step move = some w') :
    w'.Ordered config := by
  cases step_stepped hstep with
  | settled _ _ _ heq =>
    subst heq
    exact { h with }
  | handled arrival msg _ _ _ hturn =>
    obtain ⟨_, _, _, hrun, hordered, -⟩ :=
      turn_spec h arrival msg fun _ _ _ => trivial
    rw [hturn] at hrun
    cases hrun
    exact hordered
  | acquired _ hturn =>
  obtain ⟨_, _, _, hrun, hordered, -⟩ :=
    turn_spec h.withCaller [] (.acquire (.slot w.slots.length)) fun _ _ _ => trivial
  rw [hturn] at hrun
  cases hrun
  exact hordered

end World

end Tina.Pool
