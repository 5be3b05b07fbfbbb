import Mathlib.Tactic.Ring

/-!
The vocabulary of the worker pool: its configuration, the leases it hands out, what it is asked and
what it answers. Instants and durations are natural numbers of one clock.
-/

namespace Tina.Pool

variable {H : Type}

/-- The largest value of the generation counters. -/
def u64Max : Nat := 2 ^ 64 - 1

def u32Max : Nat := 2 ^ 32 - 1

/-- `saturating_add(1)` on a generation. -/
def nextAfter (generation : Nat) : Nat := min (generation + 1) u64Max

abbrev DeferredSlotId := Nat

/-- Where the reply slot of a caller stands. -/
inductive DeferredSlotState where
  | opened
  | replied
  | closed
deriving DecidableEq

structure PoolConfig where
  capacity : Nat
  maxWaiters : Nat

structure ResourceLifetime where
  maxIdle : Option Nat
  maxLifetime : Option Nat

structure PoolLease (H : Type) where
  poolId : Nat
  resourceId : Nat
  generation : Nat
  handle : H

inductive AcquireOutcome (H : Type) where
  | acquired (lease : PoolLease H)
  | full
  | closed
  | wrongShard

inductive ReleaseDisposition where
  | reuse
  | retire

inductive ReleaseOutcome where
  | released
  | retired
  | staleLease
  | doubleRelease
  | poolClosed

inductive CloseMode where
  | drain
  | force
deriving DecidableEq

inductive RefillOutcome where
  | refilled
  | notRetired
  | unknownResource
  | closed

inductive RetireReason where
  | idleTimeout
  | maxLifetime

inductive PolicyCheckPoint where
  | scheduledMaintenance

structure RetiredResource where
  resourceId : Nat
  reason : RetireReason
  checkPoint : PolicyCheckPoint

structure ResourcePolicyReport where
  inspected : Nat := 0
  retired : List RetiredResource := []
  overAgeLeased : List Nat := []
  availableAfter : Nat := 0
  leasedAfter : Nat := 0
  retiredSlots : Nat := 0

structure PoolPressureReport where
  capacity : Nat
  available : Nat
  leased : Nat
  waiters : Nat
  maxWaiters : Nat
  highWaterWaiters : Nat
  fullCount : Nat
  closedCount : Nat
  wrongShardCount : Nat
  cancelCount : Nat
  retiredCount : Nat
  noCallerDrops : Nat
  dispatchRecovered : Nat
  closed : Bool

inductive WorkerPoolReply (H : Type) where
  | acquire (outcome : AcquireOutcome H)
  | release (outcome : ReleaseOutcome)
  | closed
  | pressure (report : PoolPressureReport)
  | maintenance (report : ResourcePolicyReport)
  | refilled (outcome : RefillOutcome)

/-- What the context of an `Acquire` yields when the pool asks it for a reply slot. -/
inductive Caller where
  | slot (slot : DeferredSlotId)
  | noCaller
  | crossShardUnsupported

inductive WorkerPoolMsg (H : Type) where
  | acquire (caller : Caller)
  | release (lease : PoolLease H) (disposition : ReleaseDisposition)
  | close (mode : CloseMode)
  | pressureReport
  | maintain (now : Nat)
  | refill (resourceId : Nat) (handle : H) (now : Nat)

inductive ResourceState where
  | idle (nextGeneration : Nat)
  | leased (generation : Nat)
  | retired (nextGeneration : Nat)
deriving DecidableEq

namespace ResourceState

def isIdle : ResourceState → Bool
  | .idle _ => true
  | _ => false

def isLeased : ResourceState → Bool
  | .leased _ => true
  | _ => false

def isRetired : ResourceState → Bool
  | .retired _ => true
  | _ => false

/-- The generation the next lease of the resource gets. -/
def nextGeneration : ResourceState → Nat
  | .idle next => next
  | .leased generation => nextAfter generation
  | .retired next => next

end ResourceState

/-- The entries of one resource in the vectors `resources`, `states`, `created_at` and
`idle_since`. -/
structure ResourceSlot (H : Type) where
  handle : Option H
  state : ResourceState
  createdAt : Option Nat
  idleSince : Option Nat

/-- An `Acquired` reply of which the pool does not know yet whether it was delivered. -/
structure InFlightDispatch where
  resourceId : Nat
  generation : Nat
  slot : DeferredSlotId

structure PoolCounters where
  full : Nat := 0
  cancel : Nat := 0
  retired : Nat := 0
  closed : Nat := 0
  wrongShard : Nat := 0
  noCallerDrops : Nat := 0
  dispatchRecovered : Nat := 0
  highWaterWaiters : Nat := 0

/-- The effects of a turn. The last three are no effects of the source: they note that the lease of
a resource was retired, that it was taken back because its reply was closed, and that a release of
the lease that was minted as number `origin` was handled. -/
inductive Effect (H : Type) where
  | reply (reply : WorkerPoolReply H)
  | replyTo (slot : DeferredSlotId) (reply : WorkerPoolReply H)
  | leaseRetired (resourceId generation : Nat)
  | leaseRecovered (resourceId generation : Nat)
  | releaseOf (origin : Nat)

end Tina.Pool
