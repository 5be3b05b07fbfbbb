import Mathlib.Algebra.BigOperators.Group.List.Basic
import Tina.Http2.Client.Types
import Tina.Lib.RoundRobin

/-!
A pool over a fixed list of endpoints: round robin over those that are usable, with a cap on the
streams that are open on each.
-/

namespace Tina.Connect

open Lib (scan)
open Http2.Client (Http2ClientOutcome)

inductive EndpointDownReason where
  | closed
  | reset
  | protocolError
  | tlsAlpnMismatch
  | transport

inductive EndpointHealthSignal where
  | healthy
  | unhealthy (reason : EndpointDownReason)
  | busy

def http2HealthSignal : Http2ClientOutcome → EndpointHealthSignal
  | .replied _ | .grpcUnaryReplied .. | .responseStreaming .. => .healthy
  | .localCancel => .healthy
  | .full => .busy
  | .closed => .unhealthy .closed
  | .reset _ => .unhealthy .reset
  | .protocolError _ => .unhealthy .protocolError
  | .tlsAlpnMismatch => .unhealthy .tlsAlpnMismatch

structure FixedEndpointPoolConfig where
  maxInFlightPerConn : Nat
  preConnectQueueCap : Nat
  retainedReports : Nat

inductive FixedEndpointPoolError where
  | zeroStreams
  | zeroPreConnectQueueCap
  | zeroRetainedReports
  | noEndpoints
  | mismatchedConnections (targets connections : Nat)

namespace FixedEndpointPoolConfig

def balanced : FixedEndpointPoolConfig where
  maxInFlightPerConn := 64
  preConnectQueueCap := 128
  retainedReports := 8

def validate (config : FixedEndpointPoolConfig) : Except FixedEndpointPoolError Unit :=
  if config.maxInFlightPerConn = 0 then .error .zeroStreams
  else if config.preConnectQueueCap = 0 then .error .zeroPreConnectQueueCap
  else if config.retainedReports = 0 then .error .zeroRetainedReports
  else .ok ()

end FixedEndpointPoolConfig

structure EndpointSlot where
  routeKey : String
  healthy : Bool
  retired : Bool
  inFlight : Nat
  openedStreams : Nat
  downCount : Nat

inductive RetireReason where
  | unhealthy (reason : EndpointDownReason)
  | idle
  | stale

structure RetiredEndpointReport where
  index : Nat
  routeKey : String
  reason : RetireReason

inductive PickOutcome where
  | picked (index : Nat)
  | noHealthyEndpoint
  | allAtStreamCap
deriving DecidableEq

structure FixedEndpointPool where
  endpoints : List EndpointSlot
  config : FixedEndpointPoolConfig
  cursor : Nat
  preConnectWaiters : Nat
  highWaterInFlight : Nat
  noHealthyCount : Nat
  allBusyCount : Nat
  preConnectRejections : Nat
  retained : List RetiredEndpointReport

def EndpointSlot.usable (slot : EndpointSlot) : Bool :=
  slot.healthy && !slot.retired

namespace FixedEndpointPool

def new (routeKeys : List String) (config : FixedEndpointPoolConfig) :
    Except FixedEndpointPoolError FixedEndpointPool := do
  config.validate
  if routeKeys.isEmpty then .error .noEndpoints
  else
    .ok
      { endpoints := routeKeys.map fun routeKey =>
          { routeKey
            healthy := true
            retired := false
            inFlight := 0
            openedStreams := 0
            downCount := 0 }
        config
        cursor := 0
        preConnectWaiters := 0
        highWaterInFlight := 0
        noHealthyCount := 0
        allBusyCount := 0
        preConnectRejections := 0
        retained := [] }

def healthyCount (pool : FixedEndpointPool) : Nat :=
  pool.endpoints.countP EndpointSlot.usable

def isAllUnhealthy (pool : FixedEndpointPool) : Bool :=
  pool.healthyCount = 0

def totalInFlight (pool : FixedEndpointPool) : Nat :=
  (pool.endpoints.map (·.inFlight)).sum

/-- Whether an endpoint is usable and below the cap. -/
def hasRoom (pool : FixedEndpointPool) (index : Nat) : Bool :=
  pool.endpoints[index]?.any fun slot =>
    slot.usable && slot.inFlight < pool.config.maxInFlightPerConn

/-- The slot of an endpoint, if there is one, is replaced. -/
def modify (pool : FixedEndpointPool) (index : Nat) (f : EndpointSlot → EndpointSlot) :
    FixedEndpointPool :=
  { pool with endpoints := pool.endpoints.modify index f }

def takeStream (slot : EndpointSlot) : EndpointSlot :=
  { slot with inFlight := slot.inFlight + 1, openedStreams := slot.openedStreams + 1 }

def pick (pool : FixedEndpointPool) : FixedEndpointPool × PickOutcome :=
  let n := pool.endpoints.length
  if pool.isAllUnhealthy then
    ({ pool with noHealthyCount := pool.noHealthyCount + 1 }, .noHealthyEndpoint)
  else
    match scan n pool.cursor pool.hasRoom with
    | some index =>
      let pool := { pool with cursor := (index + 1) % n }.modify index takeStream
      ({ pool with highWaterInFlight := max pool.highWaterInFlight pool.totalInFlight },
        .picked index)
    | none => ({ pool with allBusyCount := pool.allBusyCount + 1 }, .allAtStreamCap)

/-- The count does not go below zero. -/
def release (pool : FixedEndpointPool) (index : Nat) : FixedEndpointPool :=
  pool.modify index fun slot => { slot with inFlight := slot.inFlight - 1 }

def pushRetained (pool : FixedEndpointPool) (report : RetiredEndpointReport) : FixedEndpointPool :=
  let retained :=
    if pool.retained.length = pool.config.retainedReports then pool.retained.tail else pool.retained
  { pool with retained := retained ++ [report] }

/-- An endpoint goes down, if it is `up`, and a report of it is kept. -/
def takeDown (pool : FixedEndpointPool) (index : Nat) (up : EndpointSlot → Bool)
    (down : EndpointSlot → EndpointSlot) (reason : RetireReason) : FixedEndpointPool :=
  match pool.endpoints[index]? with
  | some slot =>
    if up slot then
      (pool.modify index down).pushRetained { index, routeKey := slot.routeKey, reason }
    else pool
  | none => pool

def markUnhealthy (pool : FixedEndpointPool) (index : Nat) (reason : EndpointDownReason) :
    FixedEndpointPool :=
  pool.takeDown index (·.healthy)
    (fun slot => { slot with healthy := false, retired := true, downCount := slot.downCount + 1 })
    (.unhealthy reason)

def recordSignal (pool : FixedEndpointPool) (index : Nat) (signal : EndpointHealthSignal) :
    FixedEndpointPool :=
  let pool := pool.release index
  match signal with
  | .unhealthy reason => pool.markUnhealthy index reason
  | .healthy | .busy => pool

/-- The count of an endpoint that is revived starts again, whatever is open on it. -/
def markHealthy (pool : FixedEndpointPool) (index : Nat) : FixedEndpointPool :=
  pool.modify index fun slot => { slot with healthy := true, retired := false, inFlight := 0 }

def retire (pool : FixedEndpointPool) (index : Nat) (reason : RetireReason) : FixedEndpointPool :=
  pool.takeDown index (!·.retired) (fun slot => { slot with retired := true, healthy := false })
    reason

end FixedEndpointPool

inductive Http2PickOutcome (C : Type) where
  | picked (index : Nat) (connection : C)
  | noHealthyEndpoint
  | allAtStreamCap

/-- The addresses of the connections are opaque to the pool. -/
structure Http2ClientPool (C : Type) where
  connections : List C
  state : FixedEndpointPool

namespace Http2ClientPool

variable {C : Type}

/-- Of a target the pool reads the route key. -/
def new (targets : List String) (connections : List C) (config : FixedEndpointPoolConfig) :
    Except FixedEndpointPoolError (Http2ClientPool C) := do
  if targets.length ≠ connections.length then
    .error (.mismatchedConnections targets.length connections.length)
  else
    let state ← FixedEndpointPool.new targets config
    .ok { connections, state }

/-- `none` is the panic on an endpoint without a connection. -/
def pick (pool : Http2ClientPool C) : Option (Http2ClientPool C × Http2PickOutcome C) :=
  let (state, outcome) := pool.state.pick
  match outcome with
  | .picked index => pool.connections[index]?.map fun connection =>
    ({ pool with state }, .picked index connection)
  | .noHealthyEndpoint => some ({ pool with state }, .noHealthyEndpoint)
  | .allAtStreamCap => some ({ pool with state }, .allAtStreamCap)

def recordOutcome (pool : Http2ClientPool C) (index : Nat) (outcome : Http2ClientOutcome) :
    Http2ClientPool C :=
  { pool with state := pool.state.recordSignal index (http2HealthSignal outcome) }

end Http2ClientPool

end Tina.Connect
