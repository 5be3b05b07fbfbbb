import Tina.Http2.Client.Handlers

/-!
Whole messages in the books. Requests are admitted or wait for the connection, and every message of
a run is handled within its demand: the frames that it can cause are known before it is handled.
-/

namespace Tina.Http2.Client

open ActiveClientStream List Turn OutboundBody Demand
open Http (Bytes ResponseChunkReply)

variable {a : Allowance} {counted : Bool} {turn : Turn} {stream : ActiveClientStream} {u : Nat}

section

theorem Acts.notes {l : Ledger} {notes : List Effect} (h : ∀ effect ∈ notes, effect.quiet = true) :
    Acts 0 l { l with effects := l.effects ++ notes } := by
  induction notes generalizing l with
  | nil => simpa using Acts.refl
  | cons effect rest ih =>
    obtain ⟨hfirst, hrest⟩ := forall_mem_cons.1 h
    have hacts := (Acts.single (.note (l := l) effect hfirst)).trans (ih hrest)
    simpa using hacts

theorem openingNotes_quiet (stream : ActiveClientStream) :
    ∀ effect ∈ openingNotes stream, effect.quiet = true := by
  unfold openingNotes
  split <;> simp [Effect.quiet]

theorem takeStreamId_eq {conn : Http2ClientConnection} (hfresh : conn.streamIdExhausted = false) :
    takeStreamId conn = { conn with
      nextStreamId := if conn.nextStreamId + 2 < 2 ^ 32 then conn.nextStreamId + 2
        else conn.nextStreamId
      streamIdExhausted := decide (2 ^ 32 ≤ conn.nextStreamId + 2) } := by
  unfold takeStreamId
  by_cases hroom : conn.nextStreamId + 2 < 2 ^ 32
  · rw [if_pos hroom, if_pos hroom, decide_eq_false (by omega), ← hfresh]
  · rw [if_neg hroom, if_neg hroom, decide_eq_true (by omega)]

/-- HEADERS take the next id. -/
theorem headers_led {ended : Bool} {block : Bytes} (hsteady : Steady a turn.conn)
    (hfresh : turn.conn.streamIdExhausted = false) (hid : stream.id = turn.conn.nextStreamId) :
    Led a counted 1 1 turn (enqueueFrame
      { conn := takeStreamId turn.conn, effects := turn.effects ++ openingNotes stream }
      (headersFrame stream.id ended block)) := by
  obtain ⟨_, queue, place, hlength, heq⟩ := enqueueFrame_eq
    { conn := takeStreamId turn.conn, effects := turn.effects ++ openingNotes stream }
    (headersFrame stream.id ended block)
  rw [heq]
  rw [takeStreamId_eq hfresh] at hlength ⊢
  refine ⟨rfl, hsteady, fun past hand => ?_⟩
  have hacts :=
    ((Acts.notes (l := turn.ledger counted past (hand + 1)) (openingNotes_quiet stream)).tail
    (.opened (hand + (queuedWaiters turn.conn).length) ended block place ?_ hfresh)).tail
    (.carry 1 (queue.length + if counted then turn.conn.sendable else 0) ?_)
  · rw [List.append_assoc, ledger_effects, ← List.append_assoc, hid]
    exact hacts
  · simp only [ledger]
    omega
  · have hqueue : queue.length ≤ turn.conn.writeQueue.length + 1 := hlength
    simp only [ledger]
    omega

/-- A stream that a demand has accounted for. -/
structure Foreseen (d : Demand) (conn : Http2ClientConnection) (stream : ActiveClientStream) :
    Prop where
  id : stream.id = conn.nextStreamId
  body : stream.unsentFrames conn.limits.unit ≤ d.body
  fresh : stream.sendable conn.limits.unit ≤ d.fresh
  endPending : stream.endPending = false
  replies : d.replies = 1

/-- The body of a new stream joins what is to be sent. -/
theorem addStream_led {f g : Nat} (hsteady : Steady { a with unsent := u } turn.conn)
    (hbody : stream.unsentFrames turn.conn.limits.unit ≤ f)
    (hfresh : stream.sendable turn.conn.limits.unit ≤ g) (hend : stream.endPending = false) :
    Led { a with unsent := u + f } counted g 0 turn
      { turn with conn := { turn.conn with streams := turn.conn.streams ++ [stream] } } := by
  have htotal : ∀ f, ((turn.conn.streams ++ [stream]).map f).sum =
      turn.conn.total f + f stream := by
    intro f
    simp [Http2ClientConnection.total]
  refine ⟨rfl, ⟨⟨?_, ?_⟩, hsteady.2⟩, fun past hand => .single (.carry g _ ?_)⟩
  · exact (htotal _).trans_le (Nat.add_le_add hsteady.1.1 hbody)
  · refine (htotal _).trans_le ?_
    rw [hend]
    exact hsteady.1.2
  · have hready := htotal (·.sendable turn.conn.limits.unit)
    cases counted with
    | false => exact Nat.le_add_right _ _
    | true =>
      refine (Nat.add_le_add_left (hready.trans_le (Nat.add_le_add_left hfresh _)) _).trans_eq ?_
      exact (Nat.add_assoc _ _ _).symm

theorem openStream_led {d : Demand} {block : Bytes}
    (hsteady : Steady { a with unsent := u } turn.conn)
    (hforeseen : Foreseen d turn.conn stream) (hfresh : turn.conn.streamIdExhausted = false) :
    Led { a with unsent := u + d.body } counted (1 + d.fresh) 1 turn
      (openStream turn block stream) := by
  obtain ⟨headed, hheaded⟩ : ∃ headed, headed = enqueueFrame
      { conn := takeStreamId turn.conn, effects := turn.effects ++ openingNotes stream }
      (headersFrame stream.id stream.requestEndSent block) := ⟨_, rfl⟩
  have hheaders : Led { a with unsent := u } counted 1 1 turn headed :=
    hheaded ▸ headers_led hsteady hfresh hforeseen.id
  have hfact : Moves { a with unsent := u } counted 0 headed ((headed.count fun report =>
      { report with openedStreams := report.openedStreams + 1 }).push
        (.fact (.http2StreamOpened stream.id))) := (Moves.push rfl).after .count
  have hopened := hheaders.trans (hfact hheaders.steady).toLed
  unfold openStream
  dsimp only
  rw [← hheaded]
  exact hopened.trans (addStream_led hopened.steady (hopened.limits ▸ hforeseen.body)
    (hopened.limits ▸ hforeseen.fresh) hforeseen.endPending)

variable {queueCounted : Bool} {block : Bytes} {waiter : Waiter} {start : Turn → Turn} {d : Demand}

/-- A refused request is answered. -/
theorem refused_led {update : Http2ClientReport → Http2ClientReport} {reply : Http2ClientReply}
    (hsteady : Steady a turn.conn) :
    Led a counted 0 1 turn ((turn.count update).push (.reply waiter reply)) := by
  refine ⟨rfl, hsteady, fun past hand => ?_⟩
  have hacts := (Acts.single (.note (l := turn.ledger counted past (hand + 1))
    (.reply waiter reply) rfl)).tail
      (.dismiss (hand + (queuedWaiters turn.conn).length) (by simp only [ledger]; omega))
  rw [push, ledger_effects]
  exact hacts

/-- A request is refused, or its stream is opened and started. -/
theorem admission_led (hsteady : Steady { a with unsent := u } turn.conn)
    (hforeseen : Foreseen d turn.conn stream)
    (hstart : ∀ turn', Moves { a with unsent := u + d.body } counted (d.flushes * a.flush) turn'
      (start turn')) :
    Led { a with unsent := u + d.body } counted (d.price a) 1 turn
      (admission queueCounted block turn waiter stream start) := by
  unfold admission
  split
  · refine (refused_led ?_).mono (Nat.zero_le _)
    exact ⟨⟨hsteady.1.1.trans (Nat.le_add_right _ _), hsteady.1.2⟩, hsteady.2⟩
  next hadmitted =>
    have hfresh : turn.conn.streamIdExhausted = false := by
      cases hlast : turn.conn.streamIdExhausted with
      | false => rfl
      | true =>
        simp only [refusal, hlast, if_true] at hadmitted
        split_ifs at hadmitted
    have hopened : Led { a with unsent := u + d.body } counted (1 + d.fresh) 1 turn
        (openStream turn block stream) := openStream_led hsteady hforeseen hfresh
    refine (hopened.trans (hstart _ hopened.steady).toLed).mono ?_
    rw [price, hforeseen.replies]

/-- A full queue refuses every request. -/
theorem admission_full (hsteady : Steady a turn.conn)
    (hfull : turn.conn.limits.connectionOutboundQueueCapacity ≤ turn.conn.writeQueue.length) :
    Led a counted 0 1 turn (admission queueCounted block turn waiter stream start) := by
  unfold admission
  split
  · exact refused_led hsteady
  next hadmitted =>
    simp only [refusal, hfull, if_true] at hadmitted
    split_ifs at hadmitted

end

section

/-- A handler that places `k` requests within a demand, on any connection with the limits of `conn`
and room in the allowance for the bodies. If it flushes, the frames that are ready are counted. -/
def Admits (a : Allowance) (counted : Bool) (conn : Http2ClientConnection) (d : Demand) (k : Nat)
    (f : Turn → Turn) : Prop :=
  ∀ u turn, Steady { a with unsent := u } turn.conn → turn.conn.limits = conn.limits →
    u + d.body ≤ a.unsent → (d.flushes ≠ 0 → counted = true) →
      Led { a with unsent := u + d.body } counted (d.price a) k turn (f turn)

variable {conn : Http2ClientConnection} {crates : Crates} {waiter : Waiter} {d e : Demand}
  {k j : Nat}

theorem Admits.none : Admits a counted conn {} 0 id := by
  intro u turn hsteady _ _ _
  exact ((Moves.refl (n := 0) hsteady).toLed).mono (Nat.zero_le _)

theorem Admits.trans {f g : Turn → Turn} (hf : Admits a counted conn d k f)
    (hg : Admits a counted conn e j g) :
    Admits a counted conn (d + e) (j + k) fun turn => g (f turn) := by
  intro u turn hsteady hlimits hroom hcounted
  rw [body_add, ← Nat.add_assoc] at hroom
  rw [flushes_add] at hcounted
  have hfirst := hf u turn hsteady hlimits (by omega) fun h => hcounted (by omega)
  have hsecond := hg _ _ hfirst.steady (hfirst.limits.trans hlimits) hroom fun h =>
    hcounted (by omega)
  rw [price_add, body_add, ← Nat.add_assoc]
  exact hfirst.trans hsecond

/-- The requests of a queue, one after the other. -/
theorem Admits.foldl {α : Type} {entries : List α} {f : Turn → α → Turn} {demand : α → Demand}
    (h : ∀ entry ∈ entries, Admits a counted conn (demand entry) 1 (f · entry)) :
    Admits a counted conn (.sum (entries.map demand)) entries.length
      fun turn => entries.foldl f turn := by
  induction entries with
  | nil => exact .none
  | cons entry rest ih =>
    obtain ⟨hfirst, hrest⟩ := forall_mem_cons.1 h
    exact hfirst.trans (ih hrest)

variable (hwindow : a.initialWindow ≤ conn.peerInitialStreamWindow)

include hwindow

/-- A stream with a body that is known from the start. -/
theorem foreseen_of_body {length : Nat} (hsteady : Steady { a with unsent := u } turn.conn)
    (hlimits : turn.conn.limits = conn.limits) (hid : stream.id = turn.conn.nextStreamId)
    (hlength : stream.outboundRemaining = length)
    (hsend : stream.sendWindow = turn.conn.peerInitialStreamWindow)
    (hend : stream.endPending = false) : Foreseen (bodyDemand conn length) turn.conn stream := by
  refine ⟨hid, ?_, ?_, hend, rfl⟩
  · rw [unsentFrames, hlength, hlimits]
    exact le_rfl
  · rw [sendable, hlength, hsend, hlimits]
    exact ceilDiv_mono (min_le_min_left _ (Int.toNat_le_toNat (hsteady.2.1.trans hwindow)))

omit hwindow in
theorem flush_start {v : Nat} (hle : v ≤ a.unsent) (turn : Turn) :
    Moves { a with unsent := v } true (1 * a.flush) turn (flushOutboundData turn) := by
  refine flushOutboundData_moves.mono ?_
  simp only [Allowance.flush]
  omega

omit hwindow in
/-- A body that is ended with its HEADERS if it is empty leaves no end pending. -/
theorem endPending_of_isEmpty (h : stream.requestEndSent = stream.outboundBody.isEmpty) :
    stream.endPending = false := by
  rw [endPending, hasOutbound, h]
  cases stream.outboundBody.isEmpty <;> simp

omit hwindow in
theorem owned_isEmpty (bytes : Bytes) : (owned bytes 0).isEmpty = bytes.isEmpty := by
  rw [isEmpty_eq]
  rfl

theorem admitStream_admits (req : Http2ClientRequest) :
    Admits a counted conn (submitDemand conn req) 1 (admitStream crates · req waiter) := by
  intro u turn hsteady hlimits hroom hcounted
  obtain rfl := hcounted Nat.one_ne_zero
  exact admission_led hsteady (foreseen_of_body hwindow hsteady hlimits rfl rfl rfl
    (endPending_of_isEmpty (owned_isEmpty req.body).symm)) (flush_start hroom)

theorem admitGrpcUnaryStream_admits (req : Http2ClientGrpcUnaryRequest) :
    Admits a counted conn (grpcUnaryDemand conn req) 1 (admitGrpcUnaryStream · req waiter) := by
  intro u turn hsteady hlimits hroom hcounted
  obtain rfl := hcounted Nat.one_ne_zero
  have hempty : req.body.isEmpty = req.body.intoOutbound.isEmpty := by
    rw [isEmpty_eq]
    cases req.body <;> rfl
  exact admission_led hsteady (foreseen_of_body hwindow hsteady hlimits rfl rfl rfl
    (endPending_of_isEmpty hempty)) (flush_start hroom)

omit hwindow in
/-- Nothing of a body that is still to be pulled can be sent. -/
theorem admitStreamingStream_admits (req : Http2ClientStreamingRequest) :
    Admits a counted conn streamingDemand 1 (admitStreamingStream crates · req waiter) := by
  intro u turn hsteady _ _ _
  refine admission_led hsteady ⟨rfl, ?_, ?_, rfl, rfl⟩ fun turn' => ?_
  · exact (zero_ceilDiv _).le
  · simp [sendable, newStreaming, new, outboundRemaining, remaining]
  · exact pumpRequestPulls_moves.mono (Nat.zero_le _)

theorem admitOpenStream_admits (req : Http2ClientStreamCall) :
    Admits a counted conn (openStreamDemand conn req) 1 (admitOpenStream crates · req waiter) := by
  have hstart : ∀ {v} turn, v ≤ a.unsent → Moves { a with unsent := v } true (1 * a.flush) turn
      (pumpRequestPulls (flushOutboundData turn)) :=
    fun turn hle => pumpRequestPulls_moves.closing (flush_start hle turn)
  intro u turn hsteady hlimits hroom hcounted
  unfold openStreamDemand at hroom hcounted ⊢
  unfold admitOpenStream
  cases hbody : req.body with
  | buffered bytes =>
    simp only [hbody] at hroom hcounted ⊢
    obtain rfl := hcounted Nat.one_ne_zero
    exact admission_led hsteady (foreseen_of_body hwindow hsteady hlimits rfl rfl rfl
      (endPending_of_isEmpty (owned_isEmpty bytes).symm)) (hstart · hroom)
  | stream source =>
    simp only [hbody] at hroom hcounted ⊢
    obtain rfl := hcounted Nat.one_ne_zero
    exact admission_led hsteady (foreseen_of_body hwindow hsteady hlimits rfl rfl rfl rfl)
      (hstart · hroom)

/-- All queues, in the order in which they are emptied. -/
theorem admitQueued_admits : Admits a counted conn (queuedDemand conn) (queuedWaiters conn).length
      (admitQueued crates conn) := by
  have hsubmits : Admits a counted conn _ _ fun turn => conn.queuedSubmits.foldl
      (fun turn entry => admitStream crates turn entry.1 entry.2) turn :=
    .foldl fun entry _ => admitStream_admits hwindow entry.1
  have hunaries : Admits a counted conn _ _ fun turn => conn.queuedGrpcUnary.foldl
      (fun turn entry => admitGrpcUnaryStream turn entry.1 entry.2) turn :=
    .foldl fun entry _ => admitGrpcUnaryStream_admits hwindow entry.1
  have hstreaming : Admits a counted conn _ _ fun turn => conn.queuedStreaming.foldl
      (fun turn entry => admitStreamingStream crates turn entry.1 entry.2) turn :=
    .foldl fun entry _ => admitStreamingStream_admits entry.1
  have hopens : Admits a counted conn _ _ fun turn => conn.queuedOpen.foldl
      (fun turn entry => admitOpenStream crates turn entry.1 entry.2) turn :=
    .foldl fun entry _ => admitOpenStream_admits hwindow entry.1
  have hlength : (queuedWaiters conn).length = conn.queuedOpen.length +
      (conn.queuedStreaming.length +
        (conn.queuedGrpcUnary.length + conn.queuedSubmits.length)) := by
    simp only [queuedWaiters, length_append, length_map]
    omega
  rw [hlength]
  exact ((hsubmits.trans hunaries).trans hstreaming).trans hopens

end

section

/-- The server has settled on a frame size and an initial window in their ranges. -/
def Framed (conn : Http2ClientConnection) : Prop :=
  conn.peerInitialStreamWindow ≤ maxI32 ∧
    minMaxFrameSize ≤ conn.peerMaxFrameSize ∧ conn.peerMaxFrameSize ≤ maxMaxFrameSize

/-- A message is handled within a demand, and places `k` requests. -/
def Within (conn : Http2ClientConnection) (d : Demand) (k : Nat) (turn : Turn) : Prop :=
  ∃ a counted n, Led a counted n k { conn := conn } turn ∧ a.initialWindow ≤ maxI32 ∧
    n + (if counted then conn.sendable else 0) ≤ d.frames conn

/-- The allowance of a message that brings `body` more frames of request bodies. -/
def allowance (conn : Http2ClientConnection) (body : Nat) (initialWindow : Int) : Allowance where
  unsent := conn.unsentFrames + body
  ends := conn.pendingEnds
  initialWindow

variable {conn : Http2ClientConnection} {d : Demand} {k n : Nat}

theorem Framed.steady (h : Framed conn) (body : Nat) {window : Int}
    (hwindow : conn.peerInitialStreamWindow ≤ window) : Steady (allowance conn body window) conn :=
  ⟨⟨Nat.le_add_right _ _, le_rfl⟩, hwindow, h.2⟩

/-- A handler that flushes nothing is within a demand that allows for its frames. -/
theorem within_of_led_of_replies {a : Allowance} (hwindow : a.initialWindow ≤ maxI32)
    (h : Led a false n k { conn := conn } turn) (hle : n ≤ d.replies) : Within conn d k turn := by
  refine ⟨a, false, n, h, hwindow, ?_⟩
  simp only [frames, Bool.false_eq_true, if_false]
  omega

theorem within_of_moves (hframed : Framed conn)
    (h : ∀ a, Moves a false n { conn := conn } turn) (hle : n ≤ d.replies) : Within conn d 0 turn :=
  within_of_led_of_replies le_rfl (h _ (hframed.steady 0 hframed.1)).toLed hle

/-- A handler that costs the price of its demand is within it. -/
theorem within_of_led {body : Nat} {window : Int} (hwindow : window ≤ maxI32)
    (hbody : body ≤ d.body) (h : ∀ counted, (d.flushes ≠ 0 → counted = true) →
      Led (allowance conn body window) counted (d.price (allowance conn body window)) k
        { conn := conn } turn) : Within conn d k turn := by
  have hflush : (allowance conn body window).flush ≤
      min (conn.unsentFrames + d.body) 1 + conn.pendingEnds := by
    simp only [Allowance.flush, allowance]
    omega
  have hprice := Nat.mul_le_mul_left d.flushes hflush
  by_cases hnone : d.flushes = 0
  · refine ⟨_, false, _, h false fun hne => absurd hnone hne, hwindow, ?_⟩
    simp [frames, price, hnone]
  · refine ⟨_, true, _, h true fun _ => rfl, hwindow, ?_⟩
    simp only [frames, price, hnone, if_true, if_false]
    omega

variable (crates : Crates) (hframed : Framed conn) {streamId : Nat} {waiter : Waiter}

include hframed

theorem handleResponseIdleTimeout_within : Within conn { replies := 1 } 0
    (handleResponseIdleTimeout crates { conn := conn } streamId) := by
  refine within_of_moves hframed (fun a => ?_) le_rfl
  unfold handleResponseIdleTimeout
  split
  · exact .refl
  next hfound =>
    split_ifs
    · exact .refl
    · exact pumpIo_moves.closing (completeStreamingStream_moves crates)
    · exact pumpIo_moves.closing (resetLocally_moves (findStream_some hfound) streamId)

theorem handleCancel_within : Within conn { replies := 1 } 0
    (handleCancel { conn := conn } streamId) := by
  refine within_of_moves hframed (fun a => ?_) le_rfl
  unfold handleCancel
  split
  · exact .refl
  next hfound => exact pumpIo_moves.closing (resetLocally_moves (findStream_some hfound) streamId)

theorem handleResponseNext_within : Within conn { replies := 1 } 0
    (handleResponseNext crates { conn := conn } streamId waiter) := by
  refine within_of_moves hframed (fun a => ?_) le_rfl
  unfold handleResponseNext
  split
  · exact (Moves.push rfl).mono (Nat.zero_le 1)
  next hfound =>
    split_ifs
    · exact (Moves.push rfl).mono (Nat.zero_le 1)
    · exact pumpIo_moves.closing ((deliverToParkedPull_moves crates).after
        (.setStream_same (findStream_some hfound) rfl))

theorem handleWrote_within {bytes : Bytes} {written : Nat} : Within conn {} 0
    (handleWrote { conn := conn } bytes written) := by
  refine within_of_moves hframed (fun a => ?_) le_rfl
  obtain ⟨wrote, hwrote⟩ : ∃ wrote, wrote = { conn with
    writeInFlight := false, pendingWrite := bytes.drop (min written bytes.length) } := ⟨_, rfl⟩
  have hdone : Moves a false 0 { conn := conn } { conn := wrote } := by
    subst hwrote
    exact .unseen rfl rfl rfl fun _ _ => rfl
  have hnext : Moves a false 0 { conn := wrote } { conn := promoteQueuedWrite wrote } :=
    promoteQueuedWrite_moves
  unfold handleWrote
  dsimp only
  rw [← hwrote]
  split_ifs
  · exact pumpIo_moves.after (hnext.after hdone)
  · exact pumpIo_moves.after hdone

theorem handleRead_within {bytes : Bytes} : Within conn (Move.demand conn (.read (some bytes))) 0
    (handleRead crates { conn := conn } bytes) :=
  within_of_led le_rfl (Nat.zero_le _) fun _ hcounted =>
    handleRead_led crates le_rfl (hframed.steady 0 hframed.1) rfl hcounted

/-- The connection comes up: what waited for it is placed at once. -/
theorem handleConnected_within {stream : ClientStream} : Within conn (queuedDemand conn) 0
    (handleConnected crates { conn := conn } stream) := by
  refine within_of_led hframed.1 le_rfl fun counted hcounted => ?_
  have hadmits :
      Admits (allowance conn (queuedDemand conn).body conn.peerInitialStreamWindow) counted
      conn _ _ (admitQueued crates conn) := admitQueued_admits le_rfl
  have hadmitted := hadmits conn.unsentFrames { conn := raise conn stream }
    (hframed.steady 0 le_rfl) rfl le_rfl hcounted
  have hup := hadmitted.trans (pumpIo_moves hadmitted.steady).toLed
  refine ⟨hup.limits, hup.steady, fun past hand => ?_⟩
  -- the requests leave the queues for the hand of the handler
  have hledger : ({ conn := raise conn stream } : Turn).ledger counted past
      (hand + (0 + (queuedWaiters conn).length)) =
        ({ conn := conn } : Turn).ledger counted past hand := by
    rw [Nat.zero_add]
    rfl
  exact hledger ▸ hup.acts past hand

/-- Before the connection is up a request waits and stays asked for; on a connection it is
admitted. -/
theorem queueOrAdmit_within {queue : Http2ClientConnection → Http2ClientConnection}
    {start : Turn → Turn} (hlimits : (queue conn).limits = conn.limits)
    (hsteady : Steady (allowance conn 0 maxI32) (queue conn))
    (hwaiters : (queuedWaiters (queue conn)).length = (queuedWaiters conn).length + 1)
    (hledger : ∀ past hand, ({ conn := queue conn } : Turn).ledger false past hand =
      { ({ conn := conn } : Turn).ledger false past (hand + 1) with
        asked := hand + (queuedWaiters (queue conn)).length })
    (hstart : ∀ a counted, a.initialWindow ≤ conn.peerInitialStreamWindow →
      Admits a counted conn d 1 start)
    (hfull : conn.limits.connectionOutboundQueueCapacity ≤ conn.writeQueue.length →
      ∀ a, Steady a conn → Led a false 0 1 { conn := conn } (start { conn := conn })) :
    Within conn (admittedDemand conn d) 1 (queueOrAdmit { conn := conn } waiter queue start) := by
  have hbefore := hframed.steady 0 hframed.1
  unfold queueOrAdmit admittedDemand
  by_cases hdown : conn.stream.isNone = true
  · simp only [hdown, if_true, Bool.true_or]
    split_ifs
    · exact within_of_led_of_replies le_rfl (refused_led hbefore) le_rfl
    refine within_of_led_of_replies le_rfl ⟨hlimits, hsteady, fun past hand => ?_⟩ le_rfl
    rw [hledger, hwaiters]
    refine .single (.dismiss _ ?_)
    simp only [ledger]
    omega
  simp only [hdown, Bool.false_or, decide_eq_true_eq, Bool.false_eq_true, if_false]
  split_ifs with hqueueFull
  · have hrefused := hfull hqueueFull _ hbefore
    exact within_of_led_of_replies le_rfl
      (hrefused.trans (pumpIo_moves hrefused.steady).toLed) le_rfl
  · refine within_of_led hframed.1 le_rfl fun counted hcounted => ?_
    have hadmitted := hstart (allowance conn d.body conn.peerInitialStreamWindow) counted le_rfl
      conn.unsentFrames { conn := conn } (hframed.steady 0 le_rfl) rfl le_rfl hcounted
    exact hadmitted.trans (pumpIo_moves hadmitted.steady).toLed

def ClientCall.requests : ClientCall → Nat
  | .submit _ | .submitGrpcUnary _ | .submitStreaming _ | .openStream _ => 1
  | .responseNext _ | .report | .unsupported => 0

theorem handleCall_within (call : ClientCall) : Within conn (call.demand conn) call.requests
    (handleCall crates { conn := conn } waiter call) := by
  have hsteady := hframed.steady 0 hframed.1
  cases call with
  | submit req =>
    unfold handleCall handleSubmit
    exact queueOrAdmit_within hframed rfl hsteady (by simp [queuedWaiters]; omega) (fun _ _ => rfl)
      (fun _ _ hwindow => admitStream_admits hwindow req) fun hfull _ h => admission_full h hfull
  | submitGrpcUnary req =>
    unfold handleCall handleSubmitGrpcUnary
    exact queueOrAdmit_within hframed rfl hsteady (by simp [queuedWaiters]; omega) (fun _ _ => rfl)
      (fun _ _ hwindow => admitGrpcUnaryStream_admits hwindow req) fun hfull _ h =>
        admission_full h hfull
  | submitStreaming req =>
    unfold handleCall handleSubmitStreaming
    exact queueOrAdmit_within hframed rfl hsteady (by simp [queuedWaiters]; omega) (fun _ _ => rfl)
      (fun _ _ _ => admitStreamingStream_admits req) fun hfull _ h => admission_full h hfull
  | openStream req =>
    unfold handleCall handleOpenStream
    exact queueOrAdmit_within hframed rfl hsteady (by simp [queuedWaiters]; omega) (fun _ _ => rfl)
      (fun _ _ hwindow => admitOpenStream_admits hwindow req) fun hfull _ h => by
        unfold admitOpenStream
        exact admission_full h hfull
  | responseNext => exact handleResponseNext_within crates hframed
  | report => exact within_of_moves hframed (fun a => .push rfl) le_rfl
  | unsupported => exact within_of_moves hframed (fun a => .push rfl) le_rfl

omit hframed in
/-- After a body has grown or ended, it is flushed and the next chunk is asked for. -/
theorem resumeUpload_moves {turn' : Turn} {n : Nat} (h : Moves a true n turn turn')
    (effect : Effect) (hquiet : effect.quiet = true) :
    Moves a true (n + a.flush) turn (resumeUpload (turn'.push effect)) :=
  pumpIo_moves.closing (pumpRequestPulls_moves.closing
    (((Moves.push hquiet).closing h).trans flushOutboundData_moves))

section

variable {idx : Nat} (hstream : ({ conn := conn } : Turn).conn.streams[idx]? = some stream)

include hstream

/-- A chunk of a body costs at most its own frames. -/
theorem chunk_moves (bytes : Bytes) :
    Moves (allowance conn (bytes.length ⌈/⌉ conn.limits.unit) maxI32) true
      (bytes.length ⌈/⌉ conn.limits.unit) { conn := conn }
      (({ conn := conn } : Turn).setStream idx { answeredStream stream with
        outboundBody := stream.outboundBody.append bytes }) := by
  obtain ⟨changed, hchanged⟩ : ∃ changed, changed = { answeredStream stream with
    outboundBody := stream.outboundBody.append bytes } := ⟨_, rfl⟩
  have hremaining : changed.outboundRemaining = stream.outboundRemaining + bytes.length := by
    rw [hchanged]
    simp [outboundRemaining, remaining_eq, unsent_append]
  have hpending : changed.endPending = true → stream.endPending = true := by
    rw [hchanged]
    simp only [endPending, hasOutbound, answeredStream, isEmpty_eq, unsent_append]
    cases stream.outboundBody.unsent <;> simp +contextual
  rw [← hchanged]
  refine .setStream hstream ((ceilDiv_mono ?_).trans ceilDiv_add_le) fun hsteady =>
    ⟨⟨?_, ?_⟩, hframed.1, hframed.2⟩
  · have hwindow : changed.sendWindow = stream.sendWindow := by rw [hchanged]; rfl
    rw [hremaining, hwindow]
    omega
  · refine total_setStream_le_add hstream ?_
    simp only [unsentFrames, hremaining]
    exact ceilDiv_add_le
  · refine total_setStream_le hstream ?_
    cases hend : changed.endPending with
    | false => exact Nat.zero_le _
    | true => rw [hpending hend]

omit hframed in
/-- The end of a body waits for the flush that follows. -/
theorem bodyEnd_moves : Moves { allowance conn 0 maxI32 with ends := conn.pendingEnds + 1 } true 0
    { conn := conn } (({ conn := conn } : Turn).setStream idx { answeredStream stream with
      requestComplete := true }) := by
  refine .setStream hstream le_rfl fun hsteady =>
    ⟨⟨total_setStream_le hstream le_rfl, total_setStream_le_add hstream ?_⟩, hsteady.2⟩
  exact (Bool.toNat_le _).trans (Nat.le_add_left _ _)

end

/-- More of a body has been pulled, its end is known, or its source has failed. -/
theorem handleRequestChunk_within {outcome : CallOutcome ResponseChunkReply} :
    Within conn (Move.demand conn (.requestChunk streamId outcome)) 0
      (handleRequestChunk { conn := conn } streamId outcome) := by
  unfold handleRequestChunk
  cases hfound : findStream conn streamId with
  | none => exact within_of_moves hframed (fun a => Moves.refl (n := 0)) (Nat.zero_le _)
  | some found =>
  obtain ⟨idx, stream⟩ := found
  have hstream : ({ conn := conn } : Turn).conn.streams[idx]? = some stream :=
    findStream_some hfound
  have hfailed : Within conn { replies := 1 } 0 (pumpIo (failStream (enqueueFrame
      (({ conn := conn } : Turn).setStream idx (answeredStream stream))
        (rstStreamFrame streamId errCancel)) idx .localCancel .localCloseOnly)) := by
    refine within_of_moves hframed (fun a => ?_) le_rfl
    exact pumpIo_moves.closing (failStream_moves.closing
      ((Moves.control (rstStreamFrame_control _ _)).after (.setStream_same hstream rfl)))
  cases outcome with
  | replied reply =>
    cases reply with
    | chunk bytes =>
      refine within_of_led le_rfl le_rfl fun counted hcounted => ?_
      obtain rfl := hcounted Nat.one_ne_zero
      have hmoves := resumeUpload_moves (chunk_moves hframed hstream bytes)
        (.body streamId bytes) rfl
      refine (hmoves (hframed.steady _ hframed.1)).toLed.mono ?_
      simp only [price, Move.demand]
      omega
    | eof | grpcStatus =>
      have hsteady : Steady { allowance conn 0 maxI32 with ends := conn.pendingEnds + 1 } conn :=
        ⟨⟨le_rfl, Nat.le_succ _⟩, hframed⟩
      refine ⟨_, true, _, (resumeUpload_moves (bodyEnd_moves hstream) (.bodyEnd streamId) rfl
        hsteady).toLed, le_rfl, ?_⟩
      simp only [frames, Move.demand, Allowance.flush, allowance, Nat.one_ne_zero, if_false,
        if_true]
      omega
  | _ => exact hfailed

end

section

/-- How many requests a message brings. -/
def Move.requests : Move → Nat
  | .call message => message.requests
  | _ => 0

variable {crates : Crates} {link link' : Link} {move : Move}

/-- Every message is handled within its demand. -/
theorem step_within (hframed : Framed link.conn) (hstep : Link.step crates link move = some link') :
    ∃ turn, Within link.conn (move.demand link.conn) move.requests turn ∧
      link'.conn = turn.conn ∧ link'.history = link.history ++ turn.effects := by
  have hclosed : ∀ {d : Demand} outcome,
      Within link.conn d 0 (closeWith { conn := link.conn } outcome) :=
    fun _ => within_of_moves hframed (fun a => closeWith_moves) (Nat.zero_le _)
  have hfinish : ∀ {base : Link} {turn : Turn} {d : Demand} {k : Nat},
      some (base.finish turn) = some link' → base.history = link.history →
        Within link.conn d k turn → ∃ turn, Within link.conn d k turn ∧ link'.conn = turn.conn ∧
          link'.history = link.history ++ turn.effects := by
    intro base turn d k heq hhistory hwithin
    obtain rfl := Option.some.inj heq
    exact ⟨turn, hwithin, rfl, congrArg (· ++ turn.effects) hhistory⟩
  have hrunning : link.stopped = false := by
    cases hstopped : link.stopped with
    | false => rfl
    | true => simp [Link.step, hstopped] at hstep
  simp only [Link.step, hrunning, Bool.false_eq_true, if_false] at hstep
  cases move with (try dsimp only at hstep; try split_ifs at hstep)
  | start =>
    refine hfinish hstep rfl (within_of_moves hframed (n := 0) (fun a => ?_) le_rfl)
    unfold beginConnect
    split_ifs
    · exact .refl
    · exact .push rfl
  | stop =>
    exact hfinish hstep rfl (within_of_moves hframed (fun a => beginGoawayShutdown_moves) le_rfl)
  | cancel => exact hfinish hstep rfl (handleCancel_within hframed)
  | wrongLane => exact hfinish hstep rfl (within_of_moves hframed (fun a => .count) le_rfl)
  | call message =>
    exact hfinish hstep rfl (handleCall_within crates hframed message)
  | connected stream =>
    cases stream with
    | none => exact hfinish hstep rfl (hclosed _)
    | some => exact hfinish hstep rfl (handleConnected_within crates hframed)
  | tlsConnected result =>
    cases result with
    | error => exact hfinish hstep rfl (hclosed _)
    | ok found =>
      refine hfinish hstep rfl (?_ : Within link.conn (queuedDemand link.conn) 0
        (handleTlsConnected crates _ found.1 found.2))
      unfold handleTlsConnected
      dsimp only
      split_ifs
      · exact hclosed _
      · exact handleConnected_within crates hframed
  | read bytes =>
    cases bytes with
    | none => exact hfinish hstep rfl (hclosed _)
    | some => exact hfinish hstep rfl (handleRead_within crates hframed)
  | wrote written =>
    cases hwrites : link.writes with
    | nil => simp [hwrites] at hstep
    | cons =>
    simp only [hwrites] at hstep
    cases written with
    | none => exact hfinish hstep rfl (hclosed _)
    | some => exact hfinish hstep rfl (handleWrote_within hframed)
  | closed =>
    exact hfinish hstep rfl (within_of_moves hframed (fun a => .push rfl) le_rfl)
  | requestChunk =>
    exact hfinish hstep rfl (handleRequestChunk_within hframed)
  | responseIdleTimeout =>
    exact hfinish hstep rfl (handleResponseIdleTimeout_within crates hframed)

/-- The books between two messages. -/
def Link.ledger (link : Link) : Ledger :=
  ({ conn := link.conn } : Turn).ledger false link.history 0

section

variable (hframed : Framed link.conn) (hstep : Link.step crates link move = some link')

include hframed hstep

theorem framed_of_step : Framed link'.conn := by
  obtain ⟨_, ⟨_, _, _, hled, hwindow, -⟩, hconn, -⟩ := step_within hframed hstep
  rw [hconn]
  exact ⟨hled.steady.2.1.trans hwindow, hled.steady.2.2⟩

theorem limits_of_step : link'.conn.limits = link.conn.limits := by
  obtain ⟨_, ⟨_, _, _, hled, -⟩, hconn, -⟩ := step_within hframed hstep
  rw [hconn]
  exact hled.limits

/-- A message puts no more into the queue than the frames of its demand. -/
theorem queue_of_step : link'.conn.writeQueue.length ≤
    link.conn.writeQueue.length + (move.demand link.conn).frames link.conn := by
  obtain ⟨turn, ⟨_, counted, n, hled, -, hframes⟩, hconn, -⟩ := step_within hframed hstep
  have hload := (hled.acts [] 0).load_le
  simp only [ledger] at hload
  rw [hconn]
  omega

/-- A message takes no more ids than the requests that it brings and those that waited. -/
theorem reach_of_step : link'.ledger.reach ≤ link.ledger.reach + 2 * move.requests := by
  obtain ⟨turn, ⟨_, counted, n, hled, -⟩, hconn, -⟩ := step_within hframed hstep
  have hafter : link'.ledger.reach = (turn.ledger counted [] 0).reach := by
    rw [Link.ledger, hconn]
    rfl
  have hbefore : (({ conn := link.conn } : Turn).ledger counted [] (0 + move.requests)).reach =
      link.ledger.limit + 2 * (0 + move.requests + (queuedWaiters link.conn).length) := rfl
  have hreach := (hled.acts [] 0).reach_le
  rw [hbefore, ← hafter] at hreach
  refine hreach.trans_eq ?_
  simp only [Ledger.reach, Link.ledger, ledger]
  omega

/-- What every act keeps, whatever is asked for or in the queue, is kept by every message. -/
theorem law_of_step {P : Ledger → Prop} (hsame : ∀ l asked load, P l → P { l with asked, load })
    (hkeep : ∀ {i l m}, Act i l m → P l → P m) (h : P link.ledger) : P link'.ledger := by
  obtain ⟨turn, ⟨_, counted, n, hled, -⟩, hconn, hhistory⟩ := step_within hframed hstep
  have hturn := (hled.acts link.history 0).keeps hkeep (hsame link.ledger _ _ h)
  have hledger : link'.ledger = { turn.ledger counted link.history 0 with
      load := link'.conn.writeQueue.length } := by
    simp [Link.ledger, ledger, hconn, hhistory]
  rw [hledger]
  exact hsame _ _ _ hturn

end

variable {target : Http2Target} {limits : Http2ClientLimits} {p : Link → Move → Prop}

theorem initial_framed (target : Http2Target) (limits : Http2ClientLimits) :
    Framed (Link.initial target limits).conn :=
  ⟨(by decide : defaultWindow ≤ maxI32), le_rfl, (by decide : minMaxFrameSize ≤ maxMaxFrameSize)⟩

open Lib

/-- What holds at the start and is kept by every act holds along every run. -/
theorem law_of_run {P : Ledger → Prop} (hsame : ∀ l asked load, P l → P { l with asked, load })
    (hkeep : ∀ {i l m}, Act i l m → P l → P m) (hstart : P (Link.initial target limits).ledger)
    (hrun : Run (Link.step crates) p (.initial target limits) link) : P link.ledger := by
  refine (hrun.invariant (I := fun link => Framed link.conn ∧ P link.ledger)
    ⟨initial_framed target limits, hstart⟩ ?_).2
  rintro link move link' ⟨hframed, hlaw⟩ - hstep
  exact ⟨framed_of_step hframed hstep, law_of_step hframed hstep hsame hkeep hlaw⟩

end

end Tina.Http2.Client
