import Tina.Http2.Client.Books

/-!
The stream ids of a client connection. The allocator counts in 32 bits and hands out every odd
number once; a frame keeps 31 of them.
-/

namespace Tina.Http2.Client

open List Link Effect
open Http (Bytes)
open Lib

variable {l m : Ledger} {n : Nat} {link : Link}

/-- The id of a queued HEADERS frame. -/
def Effect.headersId : Effect → Option Nat
  | .queued frame _ => if frame.ty = frameHeaders then some frame.streamId else none
  | _ => none

/-- The ids of the HEADERS frames of a history, as the frame writer puts them on the wire. -/
def wireIds (history : List Effect) : List Nat :=
  (history.filterMap Effect.headersId).map wireId

/-- The odd numbers below a limit. -/
def oddsBelow (limit : Nat) : List Nat :=
  (List.range (limit / 2)).map (2 * · + 1)

/-- Every id below the limit has been given out, in order. -/
def Ledger.Ids (l : Ledger) : Prop :=
  l.limit % 2 = 1 ∧ l.effects.filterMap Effect.headersId = oddsBelow l.limit

theorem oddsBelow_succ {limit : Nat} (hodd : limit % 2 = 1) :
    oddsBelow (limit + 2) = oddsBelow limit ++ [limit] := by
  have hhalf : (limit + 2) / 2 = limit / 2 + 1 := by omega
  have hlast : 2 * (limit / 2) + 1 = limit := by omega
  rw [oddsBelow, hhalf, range_succ, map_append, map_singleton, hlast]
  rfl

/-- Only the opening of a stream queues a HEADERS frame, and it takes the next id. -/
theorem Act.ids (hact : Act n l m) (h : l.Ids) : m.Ids := by
  have hother : ∀ effect : Effect, effect.headersId = none →
      Ledger.Ids { l with effects := l.effects ++ [effect] } := by
    intro effect hnone
    have hids : (l.effects ++ [effect]).filterMap headersId = oddsBelow l.limit := by
      simpa [filterMap_append, hnone] using h.2
    exact ⟨h.1, hids⟩
  cases hact with
  | note effect hquiet => exact hother effect (by cases effect <;> first | rfl | cases hquiet)
  | control frame place hcontrol => exact hother _ (if_neg hcontrol.1)
  | data frame place hty =>
    have hdata : (Effect.queued frame place).headersId = none := by
      simp [headersId, hty, frameData, frameHeaders]
    exact hother _ hdata
  | credit increment => exact hother _ rfl
  | opened _ _ _ _ _ hfresh =>
    have hlimit : l.limit = l.nextId := by simp [Ledger.limit, hfresh]
    unfold Ledger.Ids at h ⊢
    rw [hlimit] at h
    simp only [Ledger.limit, limit_of_open]
    refine ⟨by omega, ?_⟩
    rw [filterMap_append, h.2, oddsBelow_succ h.1]
    rfl
  | _ => exact h

/-- All ids below the limit have been put into HEADERS frames, one after the other. -/
theorem ids_of_run {crates : Crates} {target : Http2Target} {limits : Http2ClientLimits}
    {p : Link → Move → Prop} (hrun : Run (step crates) p (.initial target limits) link) :
    link.history.filterMap headersId = oddsBelow link.ledger.limit := by
  have hlaw := law_of_run (P := Ledger.Ids) (fun _ _ _ h => h) Act.ids
    ⟨rfl, (by decide : [] = oddsBelow 1)⟩ hrun
  simpa [Ledger.Ids, ledger, Turn.ledger] using hlaw.2

section

/-- The ids are exhausted only at the end of the 32 bits. -/
theorem Act.exhausted (hact : Act n l m) (h : l.exhausted = true → 2 ^ 32 ≤ l.nextId + 2) :
    m.exhausted = true → 2 ^ 32 ≤ m.nextId + 2 := by
  cases hact with
  | opened =>
    intro hlast
    have hroom : 2 ^ 32 ≤ l.nextId + 2 := of_decide_eq_true hlast
    rwa [if_neg (by omega)]
  | _ => exact h

/-- A request comes in while an id of 31 bits is left for it and for all that wait. -/
def LeavesRoom (link : Link) : Move → Prop
  | .call (.submit _) | .call (.submitGrpcUnary _) | .call (.submitStreaming _)
  | .call (.openStream _) =>
    link.conn.nextStreamId + 2 * (queuedWaiters link.conn).length ≤ 2 ^ 31 - 1
  | _ => True

/-- What is given out and what is still asked for fits into 31 bits. -/
structure Roomy (link : Link) : Prop where
  framed : Framed link.conn
  reach : link.ledger.reach ≤ 2 ^ 31 + 1
  exhausted : link.ledger.exhausted = true → 2 ^ 32 ≤ link.ledger.nextId + 2

variable {crates : Crates} {link link' : Link} {move : Move}

/-- A request that leaves room for its id finds the ids not exhausted. -/
theorem Roomy.reach_le (h : Roomy link)
    (hroom : link.conn.nextStreamId + 2 * (queuedWaiters link.conn).length ≤ 2 ^ 31 - 1) :
    link.ledger.reach + 2 ≤ 2 ^ 31 + 1 := by
  have hfresh : link.conn.streamIdExhausted = false := by
    cases hlast : link.conn.streamIdExhausted with
    | false => rfl
    | true =>
      have hbig : 2 ^ 32 ≤ link.conn.nextStreamId + 2 := h.exhausted hlast
      omega
  simp only [Ledger.reach, Ledger.limit, ledger, Turn.ledger, hfresh, Bool.false_eq_true, if_false]
  omega

theorem Roomy.step (h : Roomy link) (hroom : LeavesRoom link move)
    (hstep : step crates link move = some link') : Roomy link' := by
  refine ⟨framed_of_step h.framed hstep, (reach_of_step h.framed hstep).trans ?_,
    law_of_step (P := fun l => l.exhausted = true → 2 ^ 32 ≤ l.nextId + 2) h.framed hstep
      (fun _ _ _ hlast => hlast) Act.exhausted h.exhausted⟩
  cases move with
  | call call =>
    cases call with
    | submit | submitGrpcUnary | submitStreaming | openStream => exact h.reach_le hroom
    | responseNext | report | unsupported => exact h.reach
  | _ => exact h.reach

theorem oddsBelow_mem {limit id : Nat} (h : id ∈ oddsBelow limit) : id % 2 = 1 ∧ id < limit := by
  obtain ⟨i, hi, rfl⟩ := mem_map.1 h
  have hlt := mem_range.1 hi
  omega

theorem oddsBelow_pairwise (limit : Nat) : (oddsBelow limit).Pairwise (· < ·) := by
  rw [oddsBelow, pairwise_map]
  exact pairwise_lt_range.imp fun hlt => by omega

/-- In a run whose requests all come while an id of 31 bits is left for them, the ids on the wire
are odd, strictly increasing and at most 2^31 - 1. The server may send what it likes, and streams
may end and be refused in any order; the connection itself counts up to 32 bits. -/
theorem wire_ids_increase {target : Http2Target} {limits : Http2ClientLimits}
    (hrun : Run (Link.step crates) LeavesRoom (.initial target limits) link) :
    (wireIds link.history).Pairwise (· < ·) ∧
      ∀ id ∈ wireIds link.history, id % 2 = 1 ∧ id ≤ 2 ^ 31 - 1 := by
  have hstart : Roomy (.initial target limits) :=
    ⟨initial_framed target limits, (by decide : 1 + 2 * (0 + 0) ≤ 2 ^ 31 + 1), Bool.noConfusion⟩
  have hroomy : Roomy link := hrun.invariant hstart fun _ _ _ h hroom hstep => h.step hroom hstep
  have hlimit : link.ledger.limit ≤ 2 ^ 31 + 1 := (Nat.le_add_right _ _).trans hroomy.reach
  have hsame : wireIds link.history = oddsBelow link.ledger.limit := by
    rw [wireIds, ids_of_run hrun]
    refine (map_congr_left fun id hid => ?_).trans (map_id _)
    obtain ⟨hodd, hlt⟩ := oddsBelow_mem hid
    exact Nat.mod_eq_of_lt (by omega)
  rw [hsame]
  refine ⟨oddsBelow_pairwise _, fun id hid => ?_⟩
  obtain ⟨hodd, hlt⟩ := oddsBelow_mem hid
  exact ⟨hodd, by omega⟩

end

section

variable {turn : Turn}

/-- Streams that have nothing to send and have said so. -/
def Idle (turn : Turn) : Prop :=
  ∀ stream ∈ turn.conn.streams, stream.hasOutbound = false ∧ stream.requestEndSent = true

theorem flushOutboundData_idle (h : Idle turn) : flushOutboundData turn = turn := by
  have hends : pendingEnd turn.conn = [] := by
    rw [pendingEnd, map_eq_nil_iff, filter_eq_nil_iff]
    intro stream hmem
    simp [(h stream hmem).2]
  have hdrained : Drained turn := fun stream hmem => (h stream hmem).1
  simp [flushOutboundData, flushRounds_drained hdrained, hends]

/-- With a read and a write outstanding there is nothing to pump. -/
theorem pumpIo_busy (hread : turn.conn.readInFlight = true)
    (hwrite : turn.conn.writeInFlight = true)
    (hopen : turn.conn.closingAfterWrite = false) : pumpIo turn = turn := by
  simp [pumpIo, armRead, hread, hwrite, hopen]

/-- Limits that are valid, and wide enough for more streams than 31 bits have odd numbers. -/
def wideLimits : Http2ClientLimits :=
  { Http2ClientLimits.default with
    maxConcurrentStreams := 2 ^ 32 - 1
    connectionOutboundQueueCapacity := 2 ^ 32 }

def plainTarget : Http2Target :=
  .h2c "a".toList

def plainGet : Http2ClientRequest :=
  ⟨"GET".toList, "/".toList, [], []⟩

/-- A link on which `k` requests without a body have been submitted and nothing else has happened
since it came up. -/
structure Submitted (k : Nat) (link : Link) : Prop where
  limits : link.conn.limits = wideLimits
  target : link.conn.target = plainTarget
  stream : link.conn.stream = some (.tcp 0)
  read : link.conn.readInFlight = true
  write : link.conn.writeInFlight = true
  goaway : link.conn.goawayReceived = false
  closing : link.conn.closingAfterWrite = false
  exhausted : link.conn.streamIdExhausted = false
  peerStreams : link.conn.peerMaxConcurrentStreams = none
  peerFrame : link.conn.peerMaxFrameSize = minMaxFrameSize
  nextId : link.conn.nextStreamId = 2 * k + 1
  streams : link.conn.streams.length = k
  queue : link.conn.writeQueue.length = k
  idle : Idle { conn := link.conn }
  running : link.stopped = false

theorem Submitted.start :
    ∃ link, Run (step asciiCrates) (fun _ _ => True) (.initial plainTarget wideLimits) link ∧
      Submitted 0 link := by
  refine ⟨_, .step (.connected (some 0)) (.step .start .start trivial rfl) trivial rfl, ?_⟩
  refine ⟨rfl, rfl, rfl, rfl, rfl, rfl, rfl, rfl, rfl, rfl, rfl, rfl, rfl,
    fun stream hmem => ?_, rfl⟩
  exact absurd hmem not_mem_nil

/-- The stream that a request without a body opens. -/
def emptyStream (conn : Http2ClientConnection) (waiter : Waiter) : ActiveClientStream :=
  { ActiveClientStream.new conn.nextStreamId conn.limits.initialStreamWindow
      conn.peerInitialStreamWindow waiter (.owned [] 0) with
    requestEndSent := true }

/-- With a write outstanding, a new stream puts one frame into the queue. -/
theorem openStream_inFlight (conn : Http2ClientConnection) (block : Bytes)
    (stream : ActiveClientStream) (hwrite : conn.writeInFlight = true)
    (hroom : conn.nextStreamId + 2 < 2 ^ 32) :
    openStream { conn := conn } block stream = {
      conn := { conn with
        nextStreamId := conn.nextStreamId + 2
        writeQueue :=
          conn.writeQueue ++ [(headersFrame stream.id stream.requestEndSent block).encode]
        report := { conn.report with openedStreams := conn.report.openedStreams + 1 }
        streams := conn.streams ++ [stream] }
      effects := openingNotes stream ++
        [.queued (headersFrame stream.id stream.requestEndSent block)
          (some conn.writeQueue.length)] ++
        [.fact (.http2StreamOpened stream.id)] } := by
  have htake : takeStreamId conn = { conn with nextStreamId := conn.nextStreamId + 2 } :=
    if_pos hroom
  unfold openStream
  dsimp only
  rw [htake, enqueueFrame, if_pos hwrite]
  rfl

theorem Submitted.next {k : Nat} (h : Submitted k link) (hk : k < 2 ^ 31 - 1) :
    ∃ link', step asciiCrates link (.call (.submit plainGet)) = some link' ∧
      Submitted (k + 1) link' := by
  have hblock : (encodeRequestHeaders asciiCrates plainTarget plainGet).length ≤
      minMaxFrameSize := by
    decide +kernel
  have hrefusal : refusal link.conn true
      (encodeRequestHeaders asciiCrates link.conn.target plainGet) = none := by
    have hstreams : ¬ wideLimits.maxConcurrentStreams ≤ k := by
      rw [show wideLimits.maxConcurrentStreams = 2 ^ 32 - 1 from rfl]
      omega
    have hqueue : ¬ wideLimits.connectionOutboundQueueCapacity ≤ k := by
      rw [show wideLimits.connectionOutboundQueueCapacity = 2 ^ 32 from rfl]
      omega
    simp [refusal, h.goaway, h.closing, h.exhausted, h.limits, h.target, h.streams, h.peerStreams,
      h.queue, h.peerFrame, hstreams, hqueue, hblock]
  obtain ⟨block, hblock⟩ : ∃ block, block =
    encodeRequestHeaders asciiCrates link.conn.target plainGet := ⟨_, rfl⟩
  rw [← hblock] at hrefusal
  have hopened := openStream_inFlight link.conn block (emptyStream link.conn link.nextWaiter)
    h.write (by rw [h.nextId]; omega)
  have hidle : Idle (openStream { conn := link.conn } block
      (emptyStream link.conn link.nextWaiter)) := by
    rw [hopened]
    exact forall_mem_concat h.idle ⟨rfl, rfl⟩
  have haccept : admitStream asciiCrates { conn := link.conn } plainGet link.nextWaiter =
      openStream { conn := link.conn } block (emptyStream link.conn link.nextWaiter) := by
    simp only [admitStream, admission, ← hblock, hrefusal]
    exact flushOutboundData_idle hidle
  have hturn : handleSubmit asciiCrates { conn := link.conn } plainGet link.nextWaiter =
      openStream { conn := link.conn } block (emptyStream link.conn link.nextWaiter) := by
    rw [handleSubmit, queueOrAdmit, if_neg (by simp [h.stream]), haccept, hopened]
    exact pumpIo_busy h.read h.write h.closing
  have hstep : step asciiCrates link (.call (.submit plainGet)) =
      some ({ link with nextWaiter := link.nextWaiter + 1 }.finish
        (openStream { conn := link.conn } block (emptyStream link.conn link.nextWaiter))) := by
    rw [← hturn]
    simp [step, h.running, handleCall]
  refine ⟨_, hstep, ?_⟩
  rw [hopened] at hidle ⊢
  exact { h with
    nextId := by
      have hnext : link.conn.nextStreamId + 2 = 2 * (k + 1) + 1 := by rw [h.nextId]; omega
      exact hnext
    streams := by simp [finish, h.streams]
    queue := by simp [finish, h.queue]
    idle := hidle
    running := by simp [finish, openingNotes, emptyStream, ActiveClientStream.new, perform,
      h.running] }

theorem Submitted.reached (k : Nat) (hk : k ≤ 2 ^ 31 - 1) :
    ∃ link, Run (step asciiCrates) (fun _ _ => True) (.initial plainTarget wideLimits) link ∧
      Submitted k link := by
  induction k with
  | zero => exact Submitted.start
  | succ _ ih =>
  obtain ⟨link, hrun, h⟩ := ih (by omega)
  obtain ⟨link', hstep, h'⟩ := h.next (by omega)
  exact ⟨link', .step _ hrun trivial hstep, h'⟩

/-- With one request more than there are odd numbers of 31 bits, the first id is on the wire
again. -/
theorem wire_ids_repeat : wideLimits.validate = .ok () ∧
      ∃ link, Run (Link.step asciiCrates) (fun _ _ => True) (.initial plainTarget wideLimits) link ∧
        ¬ (wireIds link.history).Pairwise (· < ·) := by
  refine ⟨by decide, ?_⟩
  obtain ⟨link, hrun, h⟩ := Submitted.reached (2 ^ 30 + 1) (by omega)
  refine ⟨link, hrun, fun hincreasing => ?_⟩
  have hlimit : link.ledger.limit = 2 ^ 31 + 3 := by
    have hnext : link.ledger.nextId = 2 * (2 ^ 30 + 1) + 1 := h.nextId
    have hfresh : link.ledger.exhausted = false := h.exhausted
    simp [Ledger.limit, hnext, hfresh]
  rw [wireIds, ids_of_run hrun, hlimit, oddsBelow, map_map, pairwise_map] at hincreasing
  have hlength : (range ((2 ^ 31 + 3) / 2)).length = 2 ^ 30 + 1 := length_range
  have hlt := pairwise_iff_getElem.1 hincreasing 0 (2 ^ 30) (by omega) (by omega) (by omega)
  rw [getElem_range, getElem_range] at hlt
  exact absurd hlt (by decide)

/-- Of two requests on one connection, the first takes the id 1 and the second the id 3. -/
theorem wire_ids_of_two_requests :
    ∃ link : Link, wireIds link.history = [1, 3] ∧ (wireIds link.history).Pairwise (· < ·) ∧
      ∀ id ∈ wireIds link.history, id % 2 = 1 ∧ id ≤ 2 ^ 31 - 1 := by
  have hinit : Run (step asciiCrates) LeavesRoom (.initial plainTarget .default) _ := .start
  have hbegun := Run.step Move.start hinit trivial rfl
  have hup := Run.step (Move.connected (some 0)) hbegun trivial rfl
  have hfirst := Run.step (Move.call (.submit plainGet)) hup (Nat.le_of_ble_eq_true rfl) rfl
  have hsecond := Run.step (Move.call (.submit plainGet)) hfirst (Nat.le_of_ble_eq_true rfl) rfl
  exact ⟨_, rfl, wire_ids_increase hsecond⟩

end

end Tina.Http2.Client
