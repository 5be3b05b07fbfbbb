import Tina.Lib.SwapRemove
import Tina.Pool.Waiters

/-!
The worker pool as it handles one message. A handler that would panic returns `none`.
-/

namespace Tina.Pool

open Lib

variable {H : Type}

structure WorkerPool (H : Type) where
  poolId : Nat
  config : PoolConfig
  lifetime : Option ResourceLifetime
  slots : List (ResourceSlot H)
  idle : List Nat
  waiters : WaiterTable
  inFlight : List InFlightDispatch
  counters : PoolCounters
  closed : Option CloseMode

namespace WorkerPool

def build (poolId : Nat) (config : PoolConfig) (resources : List H)
    (lifetime : Option ResourceLifetime) (now : Option Nat) : Option (WorkerPool H) :=
  if resources ≠ [] ∧ resources.length = config.capacity ∧ config.capacity ≤ u32Max ∧
      config.maxWaiters ≤ u32Max then
    some
      { poolId
        config
        lifetime
        slots := resources.map fun handle =>
          { handle := some handle, state := .idle 1, createdAt := now, idleSince := now }
        idle := List.range config.capacity
        waiters := .empty config.maxWaiters
        inFlight := []
        counters := {}
        closed := none }
  else none

def setSlot (pool : WorkerPool H) (resourceId : Nat) (slot : ResourceSlot H) : WorkerPool H :=
  { pool with slots := pool.slots.set resourceId slot }

def count (pool : WorkerPool H) (update : PoolCounters → PoolCounters) : WorkerPool H :=
  { pool with counters := update pool.counters }

section

variable (slotState : DeferredSlotId → DeferredSlotState)

def sweepWaiters (pool : WorkerPool H) : Option (WorkerPool H) := do
  let (waiters, dropped) ← pool.waiters.sweep (slotState · ≠ .opened)
  return ({ pool with waiters } : WorkerPool H).count fun counters =>
    { counters with cancel := counters.cancel + dropped.length }

/-- The pool once a resource is back from a lease, idle again. -/
def returned (pool : WorkerPool H) (resourceId : Nat) (slot : ResourceSlot H) (generation : Nat) :
    WorkerPool H :=
  pool.setSlot resourceId { slot with state := .idle (nextAfter generation), idleSince := none }

def recoverDispatched (pool : WorkerPool H) (resourceId generation : Nat) :
    Option (WorkerPool H × List (Effect H)) :=
  match pool.slots[resourceId]? with
  | none => none
  | some slot =>
    if slot.state = .leased generation then
      let pool :=
        { pool.returned resourceId slot generation with idle := pool.idle ++ [resourceId] }
      some (pool.count fun counters =>
          { counters with dispatchRecovered := counters.dispatchRecovered + 1 },
        [.leaseRecovered resourceId generation])
    else some (pool, [])

def dropDispatch (pool : WorkerPool H) (i : Nat) : WorkerPool H :=
  { pool with inFlight := swapRemove pool.inFlight i }

/-- The loop of `sweep_in_flight` from position `i`. Each round moves on or shortens the list, so
its length is fuel enough. -/
def sweepFrom : Nat → Nat → WorkerPool H → Option (WorkerPool H × List (Effect H))
  | 0, _, pool => some (pool, [])
  | fuel + 1, i, pool =>
    match pool.inFlight[i]? with
    | none => some (pool, [])
    | some entry =>
      match slotState entry.slot with
      | .opened => sweepFrom fuel (i + 1) pool
      | .replied => sweepFrom fuel i (pool.dropDispatch i)
      | .closed => do
        let (pool, notes) ←
          (pool.dropDispatch i).recoverDispatched entry.resourceId entry.generation
        let (pool, more) ← sweepFrom fuel i pool
        return (pool, notes ++ more)

def sweepInFlight (pool : WorkerPool H) : Option (WorkerPool H × List (Effect H)) :=
  sweepFrom slotState pool.inFlight.length 0 pool

end

/-- `retire_slot`, with a note when a lease ends that way. -/
def retireSlot (pool : WorkerPool H) (resourceId : Nat) (slot : ResourceSlot H) :
    WorkerPool H × List (Effect H) :=
  let retired := pool.setSlot resourceId
    { handle := none, state := .retired slot.state.nextGeneration, createdAt := none,
      idleSince := none }
  (retired.count fun counters => { counters with retired := counters.retired + 1 },
    match slot.state with
    | .leased generation => [.leaseRetired resourceId generation]
    | _ => [])

/-- Only an idle resource that has a handle can be leased; anything else panics. -/
def mintLease (pool : WorkerPool H) (resourceId : Nat) : Option (WorkerPool H × PoolLease H) :=
  match pool.slots[resourceId]? with
  | some { handle := some handle, state := .idle generation, createdAt, .. } =>
    some (pool.setSlot resourceId
        { handle := some handle, state := .leased generation, createdAt, idleSince := none },
      { poolId := pool.poolId, resourceId, generation, handle })
  | _ => none

def trackDispatch (pool : WorkerPool H) (lease : PoolLease H) (slot : DeferredSlotId) :
    WorkerPool H :=
  { pool with
    inFlight := pool.inFlight ++
      [{ resourceId := lease.resourceId, generation := lease.generation, slot }] }

def acquiredBy (slot : DeferredSlotId) (lease : PoolLease H) : Effect H :=
  .replyTo slot (.acquire (.acquired lease))

/-- Mint a lease for a caller and keep an eye on its reply. -/
def grant (pool : WorkerPool H) (resourceId : Nat) (slot : DeferredSlotId) :
    Option (WorkerPool H × Effect H) := do
  let (pool, lease) ← pool.mintLease resourceId
  return (pool.trackDispatch lease slot, acquiredBy slot lease)

def dispatchToNextWaiter (slotState : DeferredSlotId → DeferredSlotState) (pool : WorkerPool H)
    (resourceId : Nat) : Option (WorkerPool H × List (Effect H)) := do
  let pool ← pool.sweepWaiters slotState
  match ← pool.waiters.popNext pool.waiters.queue with
  | (waiters, some slot) =>
    let (pool, effect) ← ({ pool with waiters } : WorkerPool H).grant resourceId slot
    return (pool, [effect])
  | (waiters, none) => return ({ pool with waiters, idle := pool.idle ++ [resourceId] }, [])

def bumpWaiterHighWater (pool : WorkerPool H) : WorkerPool H :=
  pool.count fun counters =>
    { counters with highWaterWaiters := max pool.waiters.live counters.highWaterWaiters }

def handleAcquireSlot (pool : WorkerPool H) (slot : DeferredSlotId) :
    Option (WorkerPool H × List (Effect H)) :=
  match pool.idle with
  | resourceId :: idle => do
    let (pool, effect) ← ({ pool with idle } : WorkerPool H).grant resourceId slot
    return (pool, [effect])
  | [] =>
    if pool.waiters.free.isEmpty then
      some (pool.count fun counters => { counters with full := counters.full + 1 },
        [.replyTo slot (.acquire .full)])
    else do
      let waiters ← pool.waiters.park slot
      return (bumpWaiterHighWater { pool with waiters }, [])

def handleAcquire (pool : WorkerPool H) (caller : Caller) :
    Option (WorkerPool H × List (Effect H)) :=
  if pool.closed.isSome then
    some (pool.count fun counters => { counters with closed := counters.closed + 1 },
      [.reply (.acquire .closed)])
  else
    match caller with
    | .slot slot => pool.handleAcquireSlot slot
    | .noCaller =>
      some (pool.count fun counters =>
        { counters with noCallerDrops := counters.noCallerDrops + 1 }, [])
    | .crossShardUnsupported =>
      some (pool.count fun counters => { counters with wrongShard := counters.wrongShard + 1 },
        [.reply (.acquire .wrongShard)])

/-- The answer to a release that does not name the lease a resource is out on. -/
def refusal (state : ResourceState) (generation : Nat) : ReleaseOutcome :=
  match state with
  | .leased current => if generation < current then .doubleRelease else .staleLease
  | .idle next => if generation < next then .doubleRelease else .staleLease
  | .retired _ => .retired

/-- A release of the lease that a resource is out on. -/
def takeBack (slotState : DeferredSlotId → DeferredSlotState) (pool : WorkerPool H)
    (lease : PoolLease H) (slot : ResourceSlot H) (disposition : ReleaseDisposition) :
    Option (WorkerPool H × List (Effect H)) :=
  match disposition with
  | .retire =>
    let (pool, notes) := pool.retireSlot lease.resourceId slot
    some (pool, notes ++ [.reply (.release .retired)])
  | .reuse =>
    let pool := pool.returned lease.resourceId slot lease.generation
    if pool.closed.isSome then some (pool, [.reply (.release .released)])
    else do
      let (pool, effects) ← pool.dispatchToNextWaiter slotState lease.resourceId
      return (pool, effects ++ [.reply (.release .released)])

def handleRelease (slotState : DeferredSlotId → DeferredSlotState) (pool : WorkerPool H)
    (lease : PoolLease H) (disposition : ReleaseDisposition) :
    Option (WorkerPool H × List (Effect H)) :=
  if lease.poolId ≠ pool.poolId then some (pool, [.reply (.release .staleLease)])
  else
    match pool.slots[lease.resourceId]? with
    | none => some (pool, [.reply (.release .staleLease)])
    | some slot =>
      if pool.closed = some .force then
        if slot.state = .leased lease.generation then
          let (pool, notes) := pool.retireSlot lease.resourceId slot
          some (pool, notes ++ [.reply (.release .poolClosed)])
        else some (pool, [.reply (.release .poolClosed)])
      else if slot.state = .leased lease.generation then
        pool.takeBack slotState lease slot disposition
      else some (pool, [.reply (.release (refusal slot.state lease.generation))])

/-- The loop of a force close: every lease ends. -/
def retireLeased (pool : WorkerPool H) : List Nat → WorkerPool H × List (Effect H)
  | [] => (pool, [])
  | idx :: rest =>
    match pool.slots[idx]? with
    | some slot =>
      if slot.state.isLeased then
        let (pool, notes) := pool.retireSlot idx slot
        let (pool, more) := pool.retireLeased rest
        (pool, notes ++ more)
      else pool.retireLeased rest
    | none => pool.retireLeased rest

def forceClose (pool : WorkerPool H) : WorkerPool H × List (Effect H) :=
  let (pool, notes) := pool.retireLeased (List.range pool.slots.length)
  ({ pool with inFlight := [] }, notes)

/-- A force close also takes over from a drain. -/
def upgradesToForce (closed : Option CloseMode) (mode : CloseMode) : Bool :=
  mode = .force && closed ≠ some .force

/-- The pool as it closes, before its waiters are settled. -/
def closing (pool : WorkerPool H) (mode : CloseMode) : WorkerPool H × List (Effect H) :=
  if upgradesToForce pool.closed mode then ({ pool with closed := some .force }).forceClose
  else ({ pool with closed := some (pool.closed.getD mode) }, [])

def handleClose (pool : WorkerPool H) (mode : CloseMode) :
    Option (WorkerPool H × List (Effect H)) := do
  let (pool, notes) := pool.closing mode
  let (waiters, dropped) ← pool.waiters.clear
  return (({ pool with waiters } : WorkerPool H).count fun counters =>
      { counters with closed := counters.closed + dropped.length },
    notes ++ dropped.map (fun slot => .replyTo slot (.acquire .closed)) ++ [.reply .closed])

def available (pool : WorkerPool H) : Nat := pool.slots.countP (·.state.isIdle)

def leased (pool : WorkerPool H) : Nat := pool.slots.countP (·.state.isLeased)

def retiredSlots (pool : WorkerPool H) : Nat := pool.slots.countP (·.state.isRetired)

def pressure (pool : WorkerPool H) : PoolPressureReport :=
  { capacity := pool.config.capacity
    available := pool.available
    leased := pool.leased
    waiters := pool.waiters.live
    maxWaiters := pool.config.maxWaiters
    highWaterWaiters := pool.counters.highWaterWaiters
    fullCount := pool.counters.full
    closedCount := pool.counters.closed
    wrongShardCount := pool.counters.wrongShard
    cancelCount := pool.counters.cancel
    retiredCount := pool.counters.retired
    noCallerDrops := pool.counters.noCallerDrops
    dispatchRecovered := pool.counters.dispatchRecovered
    closed := pool.closed.isSome }

def fillReportTail (pool : WorkerPool H) (report : ResourcePolicyReport) : ResourcePolicyReport :=
  { report with
    availableAfter := pool.available
    leasedAfter := pool.leased
    retiredSlots := pool.retiredSlots }

def overAge (lifetime : ResourceLifetime) (now : Nat) (createdAt : Option Nat) : Bool :=
  match lifetime.maxLifetime, createdAt with
  | some max, some created => decide (max ≤ now - created)
  | _, _ => false

def overIdle (lifetime : ResourceLifetime) (now idleSince : Nat) : Bool :=
  match lifetime.maxIdle with
  | some max => decide (max ≤ now - idleSince)
  | none => false

/-- Why an idle resource is to go, if it is. -/
def retireReason (lifetime : ResourceLifetime) (now : Nat) (slot : ResourceSlot H) :
    Option RetireReason :=
  if overAge lifetime now slot.createdAt then some .maxLifetime
  else if overIdle lifetime now (slot.idleSince.getD now) then some .idleTimeout
  else none

/-- One resource of the lifetime sweep. -/
def inspect (lifetime : ResourceLifetime) (now : Nat)
    (turn : WorkerPool H × ResourcePolicyReport) (idx : Nat) :
    WorkerPool H × ResourcePolicyReport :=
  let (pool, report) := turn
  match pool.slots[idx]? with
  | none => turn
  | some slot =>
    match slot.state with
    | .idle _ =>
      let report := { report with inspected := report.inspected + 1 }
      let stamped := { slot with idleSince := some (slot.idleSince.getD now) }
      match retireReason lifetime now slot with
      | none => (pool.setSlot idx stamped, report)
      | some reason =>
        ((pool.retireSlot idx stamped).1, { report with retired := report.retired ++
              [{ resourceId := idx, reason, checkPoint := .scheduledMaintenance }] })
    | .leased _ =>
      let report := { report with inspected := report.inspected + 1 }
      if overAge lifetime now slot.createdAt then
        (pool, { report with overAgeLeased := report.overAgeLeased ++ [idx] })
      else (pool, report)
    | .retired _ => turn

def isIdleAt (pool : WorkerPool H) (resourceId : Nat) : Bool :=
  (pool.slots[resourceId]?).any (·.state.isIdle)

/-- Forget the retired resources in the idle queue; an index out of range panics. -/
def retainIdle (pool : WorkerPool H) : Option (WorkerPool H) :=
  if pool.idle.all (· < pool.slots.length) then
    some { pool with idle := pool.idle.filter pool.isIdleAt }
  else none

def handleMaintain (pool : WorkerPool H) (now : Nat) :
    Option (WorkerPool H × List (Effect H)) :=
  match pool.closed, pool.lifetime with
  | none, some lifetime => do
    let (swept, report) := (List.range pool.slots.length).foldl (inspect lifetime now) (pool, {})
    let pool ← if report.retired.isEmpty then some swept else swept.retainIdle
    return (pool, [.reply (.maintenance (pool.fillReportTail report))])
  | _, _ => some (pool, [.reply (.maintenance (pool.fillReportTail {}))])

/-- The pool once a retired resource is replaced, before it is handed to anyone. -/
def refilled (pool : WorkerPool H) (resourceId : Nat) (handle : H) (nextGeneration now : Nat) :
    WorkerPool H :=
  let stamp := if pool.lifetime.isSome then some now else none
  pool.setSlot resourceId
    { handle := some handle, state := .idle nextGeneration, createdAt := stamp, idleSince := stamp }

def handleRefill (slotState : DeferredSlotId → DeferredSlotState) (pool : WorkerPool H)
    (resourceId : Nat) (handle : H) (now : Nat) : Option (WorkerPool H × List (Effect H)) :=
  if pool.closed.isSome then some (pool, [.reply (.refilled .closed)])
  else
    match pool.slots[resourceId]? with
    | none => some (pool, [.reply (.refilled .unknownResource)])
    | some slot =>
      match slot.state with
      | .retired nextGeneration => do
        let (pool, effects) ←
          (pool.refilled resourceId handle nextGeneration now).dispatchToNextWaiter slotState
            resourceId
        return (pool, effects ++ [.reply (.refilled .refilled)])
      | _ => some (pool, [.reply (.refilled .notRetired)])

/-- What every turn begins with. -/
def sweep (slotState : DeferredSlotId → DeferredSlotState) (pool : WorkerPool H) :
    Option (WorkerPool H × List (Effect H)) := do
  let pool ← pool.sweepWaiters slotState
  pool.sweepInFlight slotState

/-- The message itself, after the sweeps. -/
def respond (slotState : DeferredSlotId → DeferredSlotState) (pool : WorkerPool H) :
    WorkerPoolMsg H → Option (WorkerPool H × List (Effect H))
  | .acquire caller => pool.handleAcquire caller
  | .release lease disposition => pool.handleRelease slotState lease disposition
  | .close mode => pool.handleClose mode
  | .pressureReport => some (pool, [.reply (.pressure pool.pressure)])
  | .maintain now => pool.handleMaintain now
  | .refill resourceId handle now => pool.handleRefill slotState resourceId handle now

end WorkerPool

end Tina.Pool
