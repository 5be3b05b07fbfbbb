import Tina.Pool.Worker

/-!
The account of a pool: where its resources are, who waits for them, and what it has told so far.
`Act` lists what a turn can do to the account; every handler is a sequence of acts, so that a law of
the pool has to be checked for each act and for nothing else.
-/

namespace Tina.Pool

open WorkerPool

variable {H : Type}

/-- What the message at hand brings: the lease of a resource that it gives back, or a caller that
asks for one. -/
inductive Errand where
  | nothing
  | lease (resourceId generation : Nat)
  | caller (slot : DeferredSlotId)

structure Account (H : Type) where
  states : List ResourceState
  idle : List Nat
  parked : List DeferredSlotId
  isClosed : Bool
  errand : Errand
  effects : List (Effect H)

namespace WorkerPool

def account (past : List (Effect H)) (errand : Errand) (pool : WorkerPool H) :
    Account H :=
  { states := pool.slots.map (·.state)
    idle := pool.idle
    parked := pool.waiters.parked
    isClosed := pool.closed.isSome
    errand
    effects := past }

end WorkerPool

/-- An effect that ends no lease and grants none. -/
def Effect.Quiet : Effect H → Prop
  | .reply _ => True
  | .replyTo _ (.acquire (.acquired _)) => False
  | .replyTo _ _ => True
  | .leaseRetired _ _ => False
  | .leaseRecovered _ _ => False
  | .releaseOf _ => False

/-- An idle resource may be retired where it lies. -/
inductive Shelved : Option ResourceState → Option ResourceState → Prop
  | same (state : Option ResourceState) : Shelved state state
  | retired (next : Nat) : Shelved (some (.idle next)) (some (.retired next))

theorem Shelved.trans {x y z : Option ResourceState} (h : Shelved x y) (h' : Shelved y z) :
    Shelved x z := by
  cases h with
  | same => exact h'
  | retired next =>
    cases h' with
    | same => exact .retired next

variable (slotState : DeferredSlotId → DeferredSlotState) (Recovers : Prop) (a : Account H)

/-- What a turn can make of the account `a`. `Recovers` says whether a dispatch that was closed may
be found. -/
inductive Act : Account H → Prop
  | quiet (effect : Effect H) (hquiet : effect.Quiet) :
      Act { a with effects := a.effects ++ [effect] }
  | unpark :
      Act { a with parked := a.parked.filter fun slot => !decide (slotState slot ≠ .opened) }
  | recover (resourceId generation : Nat) (hrecovers : Recovers)
      (hstate : a.states[resourceId]? = some (.leased generation)) :
      Act { a with
        states := a.states.set resourceId (.idle (nextAfter generation))
        idle := a.idle ++ [resourceId]
        effects := a.effects ++ [.leaseRecovered resourceId generation] }
  | grant (slot : DeferredSlotId) (lease : PoolLease H) (idle : List Nat)
      (hidle : a.idle = lease.resourceId :: idle) (hopen : a.isClosed = false)
      (herrand : a.errand = .caller slot)
      (hstate : a.states[lease.resourceId]? = some (.idle lease.generation)) :
      Act { a with
        states := a.states.set lease.resourceId (.leased lease.generation)
        idle
        errand := .nothing
        effects := a.effects ++ [acquiredBy slot lease] }
  | park (slot : DeferredSlotId) (hidle : a.idle = []) (hopen : a.isClosed = false)
      (herrand : a.errand = .caller slot) :
      Act { a with parked := a.parked ++ [slot], errand := .nothing }
  | putBack (resourceId generation : Nat) (herrand : a.errand = .lease resourceId generation)
      (hopen : a.isClosed = false) (hparked : a.parked = [])
      (hstate : a.states[resourceId]? = some (.leased generation)) :
      Act { a with
        states := a.states.set resourceId (.idle (nextAfter generation))
        idle := a.idle ++ [resourceId]
        parked := []
        errand := .nothing }
  | handOver (generation : Nat) (slot : DeferredSlotId) (parked : List DeferredSlotId)
      (lease : PoolLease H) (herrand : a.errand = .lease lease.resourceId generation)
      (hopen : a.isClosed = false) (hparked : a.parked = slot :: parked)
      (hlive : slotState slot = .opened)
      (hstate : a.states[lease.resourceId]? = some (.leased generation))
      (hgeneration : lease.generation = nextAfter generation) :
      Act { a with
        states := a.states.set lease.resourceId (.leased lease.generation)
        parked
        errand := .nothing
        effects := a.effects ++ [acquiredBy slot lease] }
  | drainBack (resourceId generation : Nat) (herrand : a.errand = .lease resourceId generation)
      (hclosed : a.isClosed = true) (hstate : a.states[resourceId]? = some (.leased generation)) :
      Act { a with
        states := a.states.set resourceId (.idle (nextAfter generation))
        errand := .nothing }
  | retire (resourceId generation : Nat)
      (hstate : a.states[resourceId]? = some (.leased generation)) :
      Act { a with
        states := a.states.set resourceId (.retired (nextAfter generation))
        effects := a.effects ++ [.leaseRetired resourceId generation] }
  | shelve (states : List ResourceState)
      (hstates : ∀ resourceId : Nat, Shelved a.states[resourceId]? states[resourceId]?) :
      Act { a with
        states
        idle := a.idle.filter fun resourceId =>
          (states[resourceId]?).any ResourceState.isIdle }
  | refill (resourceId next : Nat) (hopen : a.isClosed = false) (hparked : a.parked = [])
      (hstate : a.states[resourceId]? = some (.retired next)) :
      Act { a with
        states := a.states.set resourceId (.idle next)
        idle := a.idle ++ [resourceId]
        parked := [] }
  | refillOver (slot : DeferredSlotId) (parked : List DeferredSlotId) (lease : PoolLease H)
      (hopen : a.isClosed = false) (hparked : a.parked = slot :: parked)
      (hlive : slotState slot = .opened) (herrand : a.errand = .nothing)
      (hstate : a.states[lease.resourceId]? = some (.retired lease.generation)) :
      Act { a with
        states := a.states.set lease.resourceId (.leased lease.generation)
        parked
        effects := a.effects ++ [acquiredBy slot lease] }
  | close : Act { a with isClosed := true, parked := [] }
  | keep : Act { a with errand := .nothing }

abbrev Acts : Account H → Account H → Prop :=
  Relation.ReflTransGen (Act slotState Recovers)

namespace Acts

variable {slotState Recovers a} {b : Account H}

/-- A law that every act keeps is kept by a whole turn. -/
theorem invariant {P : Account H → Prop} (hacts : Acts slotState Recovers a b)
    (hact : ∀ {a b}, Act slotState Recovers a b → P a → P b) (h : P a) : P b := by
  induction hacts with
  | refl => exact h
  | tail _ hlast ih => exact hact hlast ih

end Acts

end Tina.Pool
