import Mathlib.Logic.Function.Basic
import Tina.Runtime.Types

/-!
The worker threads of a multi-shard runtime. Every ordered pair of shards has two bounded channels,
one for terminal envelopes and one for the rest, and a worker keeps the terminal envelopes that
found their channel full. A move is one action of one thread on what the threads share, so that
moves in any order are the interleavings. The runtime inside a worker is left open: it routes any
envelopes at any time it could, and harvesting an envelope yields any answer.
-/

namespace Tina.Threaded

variable {P : Payload}

inductive LiveShardState where
  | running
  | stopped
  | failed
deriving DecidableEq

inductive Lane where
  | terminal
  | ordinary
deriving DecidableEq

def isTerminalRemoteEnvelope : QueuedRemoteEnvelope P → Bool
  | .callReply .. | .spawnReply _ | .spawnCancel _ | .childStop _ | .childStopped _
  | .childRestart _ | .childRestarted _ => true
  | .send .. | .spawnRequest _ => false

def laneOf (envelope : QueuedRemoteEnvelope P) : Lane :=
  if isTerminalRemoteEnvelope envelope then .terminal else .ordinary

structure ThreadedRuntimeConfig where
  shardPairCapacity : Nat
  remoteInboundDrainBudget : Nat

/-- A call of `drain_remote_inbound` that is under way. -/
structure InboundDrain where
  lane : Lane
  budget : Nat
  offset : Nat
  delivered : Nat
  lastDeliveredIndex : Option Nat

def InboundDrain.start (lane : Lane) (budget : Nat) : InboundDrain :=
  { lane, budget, offset := 0, delivered := 0, lastDeliveredIndex := none }

/-- Where a worker is in its loop. `earlier` is what the pass has delivered before. -/
inductive Phase (P : Payload) where
  | overflow (delivered : Nat)
  | inbound (drain : InboundDrain) (earlier : Nat)
  /-- An envelope was harvested, and its answer is still to be routed. -/
  | outbound (envelope : QueuedRemoteEnvelope P) (drain : InboundDrain) (earlier : Nat)
  | poll (remoteDelivered : Nat)
  | step (remoteDelivered : Nat)
  | park
  | shutdown
  /-- The worker has left its loop and cancels what is in flight. -/
  | closing
  /-- The thread is over: its overflow and its receivers are dropped. -/
  | gone

def Phase.isGone : Phase P → Bool
  | .gone => true
  | _ => false

structure Worker (P : Payload) where
  terminalOverflow : List (QueuedRemoteEnvelope P)
  /-- The two rotating starts, `terminal_remote_drain_start` and `ordinary_remote_drain_start`. -/
  drainStart : Lane → Nat
  drainTerminalFirst : Bool
  phase : Phase P

/-- What is routed and received, in that order. -/
inductive Event (P : Payload) where
  | routed (source : ShardId) (envelope : QueuedRemoteEnvelope P)
  | received (source target : ShardId) (envelope : QueuedRemoteEnvelope P)

structure System (P : Payload) where
  shards : List ShardId
  config : ThreadedRuntimeConfig
  workers : ShardId → Worker P
  /-- The bounded channels, by lane, source and target. -/
  channels : Lane → ShardId → ShardId → List (QueuedRemoteEnvelope P)
  states : ShardId → LiveShardState
  history : List (Event P)

/-- What a worker finds in its command queue. A `Run`, `RunObserved` or `HostCall` acts on the
runtime and routes nothing. -/
inductive Command where
  | nothing
  | run
  | shutdown
  | disconnected

inductive Move (P : Payload) where
  /-- One round of `drain_terminal_overflow`. -/
  | drainOverflow (shard : ShardId)
  /-- One round of `drain_remote_inbound`; `outbound` is what harvesting yields. -/
  | drainInbound (shard : ShardId) (outbound : Option (QueuedRemoteEnvelope P))
  | routeOutbound (shard : ShardId)
  | poll (shard : ShardId) (command : Command)
  /-- The runtime routes an envelope while it steps. -/
  | route (shard : ShardId) (envelope : QueuedRemoteEnvelope P)
  | stepped (shard : ShardId) (delivered : Nat)
  | wake (shard : ShardId) (command : Command)
  /-- The drain after a shutdown signal is over. -/
  | drained (shard : ShardId)
  | finish (shard : ShardId)
  | panic (shard : ShardId)
  /-- A host thread finds the shard unreachable. -/
  | markFailed (shard : ShardId)
  /-- The worker thread was joined. -/
  | markStopped (shard : ShardId)

namespace System

def initial (shards : List ShardId) (config : ThreadedRuntimeConfig) : System P where
  shards
  config
  workers shard :=
    { terminalOverflow := []
      drainStart := fun _ => 0
      drainTerminalFirst := true
      phase := if shard ∈ shards then .overflow 0 else .gone }
  channels _ _ _ := []
  states _ := .running
  history := []

def setWorker (w : System P) (shard : ShardId) (worker : Worker P) : System P :=
  { w with workers := Function.update w.workers shard worker }

def setPhase (w : System P) (shard : ShardId) (phase : Phase P) : System P :=
  w.setWorker shard { w.workers shard with phase }

def setOverflow (w : System P) (shard : ShardId)
    (terminalOverflow : List (QueuedRemoteEnvelope P)) : System P :=
  w.setWorker shard { w.workers shard with terminalOverflow }

def setChannel (w : System P) (lane : Lane) (source target : ShardId)
    (envelopes : List (QueuedRemoteEnvelope P)) : System P :=
  { w with
    channels := fun lane' source' target' =>
      if lane' = lane ∧ source' = source ∧ target' = target then envelopes
      else w.channels lane' source' target' }

def note (w : System P) (event : Event P) : System P :=
  { w with history := w.history ++ [event] }

/-- The thread ends, by returning or by unwinding. -/
def leave (w : System P) (shard : ShardId) : System P :=
  w.setWorker shard { w.workers shard with terminalOverflow := [], phase := .gone }

/-- Try to send at once. `none` is the panic about an unknown destination. -/
def routeRemoteLossless (w : System P) (source : ShardId) (envelope : QueuedRemoteEnvelope P) :
    Option (Except SendRejectedReason (System P)) :=
  let target := envelope.targetShard
  let lane := laneOf envelope
  if w.states target = .failed then some (.error .closed)
  else if target ∉ w.shards ∨ target = source then none
  else if (w.workers target).phase.isGone then some (.error .closed)
  else if (w.channels lane source target).length < w.config.shardPairCapacity then
    some (.ok (w.setChannel lane source target (w.channels lane source target ++ [envelope])))
  else some (.error .full)

/-- Try to send, and keep a terminal envelope that finds its channel full. -/
def routeRemotePreservingTerminal (w : System P) (source : ShardId)
    (envelope : QueuedRemoteEnvelope P) : Option (System P × Except SendRejectedReason Unit) :=
  match w.routeRemoteLossless source envelope with
  | none => none
  | some (.ok w') => some (w'.note (.routed source envelope), .ok ())
  | some (.error reason) =>
    if reason = .full ∧ isTerminalRemoteEnvelope envelope = true then
      some ((w.setOverflow source ((w.workers source).terminalOverflow ++ [envelope])).note
        (.routed source envelope), .ok ())
    else some (w.note (.routed source envelope), .error reason)

/-- Route and go on; a panic ends the thread. -/
def routed (w : System P) (source : ShardId) (envelope : QueuedRemoteEnvelope P) : System P :=
  match w.routeRemotePreservingTerminal source envelope with
  | some (w', _) => w'
  | none => w.leave source

/-- The top of the loop. -/
def again (w : System P) (shard : ShardId) : System P :=
  w.setPhase shard (.overflow 0)

/-- The overflow is drained as far as it goes: the inbound drains are next. -/
def enterInbound (w : System P) (shard : ShardId) (delivered : Nat) : System P :=
  w.setPhase shard (.inbound
    (.start (if (w.workers shard).drainTerminalFirst then .terminal else .ordinary)
      w.config.remoteInboundDrainBudget) delivered)

def drainTerminalOverflow (w : System P) (shard : ShardId) (delivered : Nat) : System P :=
  match (w.workers shard).terminalOverflow with
  | [] => w.enterInbound shard delivered
  | envelope :: rest =>
    match w.routeRemoteLossless shard envelope with
    | none => w.leave shard
    | some (.ok w') => (w'.setOverflow shard rest).setPhase shard (.overflow (delivered + 1))
    | some (.error reason) =>
      if reason = .full ∧ isTerminalRemoteEnvelope envelope =
        true then w.enterInbound shard delivered
      else (w.setOverflow shard rest).setPhase shard (.overflow (delivered + 1))

/-- The sources a worker receives from, in the order of its receivers. -/
def sources (w : System P) (shard : ShardId) : List ShardId :=
  w.shards.filter (· ≠ shard)

/-- An inbound drain is over. After the first of a pass comes the other lane with what is left of
the budget, after the second the command queue. -/
def endDrain (w : System P) (shard : ShardId) (drain : InboundDrain) (earlier nextStart : Nat) :
    System P :=
  let worker := w.workers shard
  let drainStart := Function.update worker.drainStart drain.lane nextStart
  if decide (drain.lane = .terminal) = worker.drainTerminalFirst then
    w.setWorker shard { worker with
      drainStart
      phase := .inbound (.start (if worker.drainTerminalFirst then .ordinary else .terminal)
          (w.config.remoteInboundDrainBudget - drain.delivered)) (earlier + drain.delivered) }
  else
    w.setWorker shard { worker with
      drainStart
      drainTerminalFirst := !worker.drainTerminalFirst
      phase := .poll (earlier + drain.delivered) }

/-- After an envelope was harvested: route the answer, if there is one. -/
def afterHarvest (outbound : Option (QueuedRemoteEnvelope P)) (drain : InboundDrain)
    (earlier : Nat) : Phase P :=
  match outbound with
  | some envelope => .outbound envelope drain earlier
  | none => .inbound drain earlier

def drainRemoteInbound (w : System P) (shard : ShardId)
    (outbound : Option (QueuedRemoteEnvelope P)) (drain : InboundDrain) (earlier : Nat) :
    Option (System P) :=
  let sources := w.sources shard
  let start := (w.workers shard).drainStart drain.lane
  if drain.budget = 0 ∨ sources = [] then some (w.endDrain shard drain earlier start)
  else
    let nextStart := start % sources.length
    if drain.offset < sources.length then
      let index := (nextStart + drain.offset) % sources.length
      if drain.budget ≤ drain.delivered then
        some (w.endDrain shard drain earlier ((index + 1) % sources.length))
      else do
        let source ← sources[index]?
        match w.channels drain.lane source shard with
        | envelope :: rest =>
          let drain' :=
            { drain with delivered := drain.delivered + 1, lastDeliveredIndex := some index }
          some (((w.setChannel drain.lane source shard rest).note
            (.received source shard envelope)).setPhase shard
              (afterHarvest outbound drain' earlier))
        | [] => some (w.setPhase shard (.inbound { drain with offset := drain.offset + 1 } earlier))
    else
      let nextStart := match drain.lastDeliveredIndex with
        | some index => (index + 1) % sources.length
        | none => (nextStart + 1) % sources.length
      some (w.endDrain shard drain earlier nextStart)

/-- Act on what the command queue held; `otherwise` is where the worker goes when it held
nothing. -/
def obey (w : System P) (shard : ShardId) (command : Command) (otherwise : Phase P) : System P :=
  match command with
  | .nothing => w.setPhase shard otherwise
  | .run => w.again shard
  | .shutdown => w.setPhase shard .shutdown
  | .disconnected => w.setPhase shard .closing

def step (w : System P) : Move P → Option (System P)
  | .drainOverflow shard =>
    match (w.workers shard).phase with
    | .overflow delivered => some (w.drainTerminalOverflow shard delivered)
    | _ => none
  | .drainInbound shard outbound =>
    match (w.workers shard).phase with
    | .inbound drain earlier => w.drainRemoteInbound shard outbound drain earlier
    | _ => none
  | .routeOutbound shard =>
    match (w.workers shard).phase with
    | .outbound envelope drain earlier =>
      some ((w.setPhase shard (.inbound drain earlier)).routed shard envelope)
    | _ => none
  | .poll shard command =>
    match (w.workers shard).phase with
    | .poll remoteDelivered => some (w.obey shard command (.step remoteDelivered))
    | _ => none
  | .route shard envelope =>
    match (w.workers shard).phase with
    | .step _ | .shutdown => some (w.routed shard envelope)
    | _ => none
  | .stepped shard delivered =>
    match (w.workers shard).phase with
    | .step remoteDelivered =>
      some (if 0 < delivered ∨ 0 < remoteDelivered then w.again shard else w.setPhase shard .park)
    | _ => none
  | .wake shard command =>
    match (w.workers shard).phase with
    | .park => some (w.obey shard command (.overflow 0))
    | _ => none
  | .drained shard =>
    match (w.workers shard).phase with
    | .shutdown => some (w.setPhase shard .closing)
    | _ => none
  | .finish shard =>
    match (w.workers shard).phase with
    | .closing => some (w.leave shard)
    | _ => none
  | .panic shard => if (w.workers shard).phase.isGone then none else some (w.leave shard)
  | .markFailed shard =>
    if w.states shard = .stopped then none
    else some { w with states := Function.update w.states shard .failed }
  | .markStopped shard =>
    if (w.workers shard).phase.isGone then
      some { w with states := Function.update w.states shard .stopped }
    else none

end System

end Tina.Threaded
