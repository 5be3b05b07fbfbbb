import Tina.Http.Link
import Tina.Http.Messages
import Tina.Http.Turns

/-!
Where a connection stands in its stream: reading a request, waiting for the byte its monitor has
asked for, with a request in flight, or past its last request. In every phase the bytes received
are whole messages, then bytes whose place is known.
-/

namespace Tina.Http

open List Crates

def ServiceWork.jobs : ServiceWork → Nat
  | .idle => 0
  | .spawning | .called | .admitting => 1

namespace Link

/-- The bytes of replies that are on their way. -/
def inTransit (link : Link) : Bytes :=
  link.arrived.flatMap (·.2.bytes)

/-- A read of a streamed body is in the lane, or its reply is on the way. -/
def bodyReads (link : Link) : Bool :=
  link.reading.any (·.1 = .body) || link.arrived.any (·.1 = .body)

/-- How many of the link's jobs can move a request or its response on. -/
def work (link : Link) : Nat :=
  link.service.jobs + link.writing.isSome.toNat +
    link.writingClose.isSome.toNat + link.pulling.toNat

/-- The link without what only responses change. -/
def inbound (link : Link) : Link :=
  { link with
    conn := link.conn.eraseResponse
    writing := none
    writingClose := none
    pulling := false
    closing := false
    stopped := false }

theorem perform_responds {effect : Effect} (link : Link) (heffect : effect.responds = true) :
    (link.perform effect).inbound = link.inbound ∧ (link.perform effect).conn = link.conn ∧
      (link.perform effect).work ≤ link.work + effect.work ∧
      ((∀ source, effect ≠ .pullChunk source) → (link.perform effect).pulling = link.pulling) := by
  cases effect with
  | write | writeClose =>
    refine ⟨rfl, rfl, ?_, fun _ => rfl⟩
    simp only [perform, work, Effect.work, Option.isSome_some, Bool.toNat_true]
    omega
  | pullChunk source =>
    refine ⟨rfl, rfl, ?_, fun hpull => absurd rfl (hpull source)⟩
    simp only [perform, work, Effect.work, Bool.toNat_true]
    omega
  | cancelSource | close | stop | webSocket => exact ⟨rfl, rfl, le_rfl, fun _ => rfl⟩
  | _ => cases heffect

theorem foldl_perform_responds {effects : List Effect} (link : Link)
    (heffects : ∀ effect ∈ effects, effect.responds = true) :
    (effects.foldl perform link).inbound = link.inbound ∧
      (effects.foldl perform link).conn = link.conn ∧
      (effects.foldl perform link).work ≤ link.work + (effects.map Effect.work).sum ∧
      ((∀ source, .pullChunk source ∉ effects) →
        (effects.foldl perform link).pulling = link.pulling) := by
  induction effects generalizing link with
  | nil => exact ⟨rfl, rfl, le_rfl, fun _ => rfl⟩
  | cons effect _ ih =>
  obtain ⟨hinbound, hconn, hwork, hpulling⟩ :=
    ih (link.perform effect) fun effect hmem => heffects effect (mem_cons_of_mem _ hmem)
  obtain ⟨hinbound', hconn', _, hpulling'⟩ :=
    link.perform_responds (heffects effect mem_cons_self)
  refine ⟨hinbound.trans hinbound', hconn.trans hconn', ?_, fun hpull => ?_⟩
  · rw [map_cons, sum_cons, foldl_cons]
    exact hwork.trans (by omega)
  · rw [foldl_cons, hpulling fun source hmem => hpull source (mem_cons_of_mem _ hmem),
      hpulling' fun source heq => hpull source (heq ▸ mem_cons_self)]

/-- A turn that works on a response leaves the inbound side of the link as it is. -/
theorem after_responds (link : Link) {turn : Turn} (hturn : link.conn.Responds turn) :
    (link.after turn).inbound = link.inbound ∧ (link.after turn).conn = turn.1 ∧
      (link.after turn).work ≤ link.work + 1 ∧
      (turn.1.websocket = true → (link.after turn).pulling = link.pulling) := by
  obtain ⟨hinbound, hconn, hwork, hpulling⟩ :=
    foldl_perform_responds { link with conn := turn.1 } hturn.effects
  refine ⟨hinbound.trans ?_, hconn, hwork.trans (Nat.add_le_add_left hturn.work _),
    fun hsocket => hpulling (hturn.pulls hsocket)⟩
  simp only [inbound, hturn.inbound]

theorem inbound_inj {link t : Link} (hinbound : t.inbound = link.inbound) :
    t.reading = link.reading ∧ t.arrived = link.arrived ∧ t.received = link.received ∧
      t.dispatched = link.dispatched ∧ t.conn.eraseResponse = link.conn.eraseResponse := by
  simp only [inbound, mk.injEq] at hinbound
  tauto

section

variable {link : Link} {reply : ReadReply} {reader : Reader} {arrival : Reader × ReadReply}
  {link t : Link} {index : Nat} {bound : Nat}

/-- The lane of the stream serves `reader`, for at most `bound` bytes: a read is in it, or its
reply is on the way. -/
def Lane (link : Link) (reader : Reader) (bound : Nat) : Prop :=
  (∃ want, link.reading = some (reader, want) ∧ link.arrived = [] ∧ want ≤ bound) ∨
    ∃ reply, link.reading = none ∧ link.arrived = [(reader, reply)] ∧ reply.bytes.length ≤ bound

def LaneFree (link : Link) : Prop :=
  link.reading = none ∧ link.arrived = []

theorem LaneFree.inTransit (hfree : link.LaneFree) : link.inTransit = [] := by
  simp [Link.inTransit, hfree.2]

/-- The read in the lane has been answered. -/
def Answers (link : Link) (reply : ReadReply) (t : Link) : Prop :=
  ∃ reader want, link.reading = some (reader, want) ∧ reply.bytes.length ≤ want ∧ t = { link with
    reading := none
    arrived := link.arrived ++ [(reader, reply)]
    received := link.received ++ reply.bytes }

theorem LaneFree.not_answers (hfree : link.LaneFree) : ¬link.Answers reply t := by
  rintro ⟨_, _, hreading, -⟩
  rw [hfree.1] at hreading
  cases hreading

/-- An answer is the one that the lane was waiting for. -/
theorem Lane.answers (hlane : link.Lane reader bound) (hanswers : link.Answers reply t) :
    t.Lane reader bound ∧ link.inTransit = [] ∧ t.inTransit = reply.bytes := by
  obtain ⟨_, _, hreading', hlength, rfl⟩ := hanswers
  rcases hlane with ⟨_, hreading, harrived, hwant⟩ | ⟨_, hreading, -⟩
  · rw [hreading] at hreading'
    cases hreading'
    refine ⟨.inr ⟨reply, rfl, ?_, hlength.trans hwant⟩, ?_, ?_⟩
    · simp [harrived]
    · simp [inTransit, harrived]
    · simp [inTransit, harrived]
  · rw [hreading] at hreading'
    cases hreading'

/-- The link without the reply that is being handled. -/
abbrev handling (link : Link) (index : Nat) : Link :=
  { link with arrived := link.arrived.eraseIdx index }

/-- The reply that is handled is the only one, and the lane is free behind it. -/
theorem Lane.handled (hlane : link.Lane reader bound)
    (harrival : link.arrived[index]? = some arrival) :
    arrival.1 = reader ∧ arrival.2.bytes.length ≤ bound ∧ link.inTransit = arrival.2.bytes ∧
      LaneFree (link.handling index) := by
  rcases hlane with ⟨_, hreading, harrived, -⟩ | ⟨_, hreading, harrived, hlength⟩
  · simp [harrived] at harrival
  rw [harrived] at harrival
  cases index with
  | zero =>
    cases harrival
    exact ⟨rfl, hlength, by simp [inTransit, harrived], hreading, by simp [harrived]⟩
  | succ => simp at harrival

theorem LaneFree.eq (hfree : LaneFree (link.handling index)) :
    link.handling index = { link with reading := none, arrived := [] } := by
  obtain ⟨hreading, harrived⟩ := hfree
  dsimp only at hreading harrived
  rw [handling, hreading, harrived]

theorem LaneFree.not_handled (hfree : link.LaneFree) : link.arrived[index]? ≠ some arrival := by
  simp [hfree.2]

theorem read_eq (link : Link) (reader : Reader) (want : Nat) :
    (link.read reader want).dispatched = link.dispatched ∧
      (link.read reader want).received = link.received := by
  unfold read
  split <;> exact ⟨rfl, rfl⟩

theorem LaneFree.read (link : Link) (hfree : link.LaneFree) (reader : Reader) (want : Nat) :
    link.read reader want = { link with reading := some (reader, want) } := by
  simp [Link.read, hfree.1]

end

theorem work_eq_zero {link : Link} :
    link.work = 0 ↔ link.service = .idle ∧ link.writing = none ∧ link.writingClose = none ∧
      link.pulling = false := by
  unfold work
  cases link.service <;> cases link.writing <;> cases link.writingClose <;> cases link.pulling <;>
    simp [ServiceWork.jobs]

end Link

/-- No body is being streamed to the service. -/
structure HttpConnection.NoBody (conn : HttpConnection) : Prop where
  total : conn.inboundTotal = 0
  received : conn.inboundReceived = 0
  delivered : conn.inboundDelivered = 0
  buffer : conn.inboundBuffer = []
  chunked : conn.inboundChunked = false

/-- The body of the request in flight has come whole, and nothing behind it. -/
def HttpConnection.bodyReceived (conn : HttpConnection) : Bool :=
  if conn.inboundChunked then
    conn.chunkedDecoder.any (·.isComplete) && conn.chunkedRawBuffer = []
  else conn.inboundReceived = conn.inboundTotal

open HttpConnection

section

variable (crates : Crates) (limits : HttpLimits) (parsed : Bytes) (link : Link)

/-- Between requests: all that was parsed was dispatched, and nothing is under way. -/
structure Fresh : Prop where
  limited : link.conn.limits = limits
  messages : crates.Messages limits parsed link.dispatched
  work : link.work = 0
  spawned : link.spawned = none
  noBody : link.conn.NoBody
  readAhead : link.conn.serviceReadAhead = []
  pending : link.conn.pendingServiceMessage = none
  websocket : link.conn.websocket = false

/-- A head that was parsed and whose body is not complete. -/
def HeadParsed (conn : HttpConnection) : Prop :=
  ∀ head, conn.parsedHead = some head →
    crates.parseRequestHead limits conn.readBuf = .complete head conn.headLen ∧
      HttpConnection.streams limits head = false

/-- Reading a head, or a body that is buffered. -/
structure Reading : Prop extends Fresh crates limits parsed link where
  received : link.received = parsed ++ (link.conn.readBuf ++ link.inTransit)
  lane : link.Lane .head READ_CHUNK
  monitorBegins : link.monitorBegins = false
  waiting : link.conn.waitingForMonitorAfterResponse = false
  headParsed : HeadParsed crates limits link.conn

/-- Waiting for the monitor of the last request. -/
structure Waiting : Prop extends Fresh crates limits parsed link where
  received : link.received = parsed ++ link.inTransit
  lane : link.LaneFree ∨ link.monitorBegins = false ∧ link.Lane .monitor 1
  waiting : link.conn.waitingForMonitorAfterResponse = true
  readBuf : link.conn.readBuf = []
  parsedHead : link.conn.parsedHead = none
  drained : link.conn.hasPendingBody = false

/-- A request in flight whose message was received whole; its monitor may hold the lane. -/
structure Whole : Prop where
  limited : link.conn.limits = limits
  messages : crates.Messages limits parsed
    (link.dispatched ++ link.conn.pendingServiceMessage.toList)
  received : link.received = parsed ++ (link.conn.serviceReadAhead ++ link.inTransit)
  waiting : link.conn.waitingForMonitorAfterResponse = false
  pending : link.conn.pendingServiceMessage ≠ none → link.service = .spawning
  lane : link.LaneFree ∨ link.monitorBegins = false ∧ link.Lane .monitor 1
  spawning : link.service = .spawning → link.spawned = none →
    link.LaneFree ∧ link.monitorBegins = false ∧ link.conn.serviceReadAhead = [] ∧
      link.conn.serviceMonitorTerminalSeen = false
  spawned : link.spawned ≠ none → link.service = .spawning
  live : ¬link.LaneFree ∨ link.monitorBegins = true → link.conn.serviceReadAhead = [] ∧
    link.conn.serviceMonitorTerminalSeen = false ∧
      (link.service = .spawning ∨ link.conn.serviceMonitor = true)

/-- A request in flight whose body was buffered. -/
structure Buffered : Prop extends Whole crates limits parsed link where
  noBody : link.conn.NoBody

/-- A request in flight whose body is streamed: `part` is what has been consumed of its message,
`rest` what has been received behind that. -/
structure Streamed (part rest : Bytes) (head : HttpRequestHead) (headLen : Nat) : Prop where
  limited : link.conn.limits = limits
  messages : ∃ requests, crates.Messages limits parsed requests ∧
    link.dispatched = requests ++ [requestOf limits head []]
  parse : crates.parseRequestHead limits part = .complete head headLen
  streams : HttpConnection.streams limits head = true
  received : link.received = parsed ++ (part ++ rest)
  waiting : link.conn.waitingForMonitorAfterResponse = false
  pending : link.conn.pendingServiceMessage = none
  service : link.service ≠ .spawning
  spawned : link.spawned = none
  monitorBegins : link.monitorBegins = false
  readAhead : link.conn.serviceReadAhead = []
  pulls : link.LaneFree ∨ link.bodyReads = true ∧ link.conn.pendingRequestBodyReply = true

/-- A streamed body of known length. -/
structure Sized (part : Bytes) (head : HttpRequestHead) (headLen : Nat) : Prop extends
    Streamed crates limits parsed link part link.inTransit head headLen where
  sized : head.chunked = false
  chunked : link.conn.inboundChunked = false
  total : link.conn.inboundTotal = head.contentLength
  part_length : part.length = headLen + link.conn.inboundReceived
  le : link.conn.inboundReceived ≤ link.conn.inboundTotal
  lane : link.LaneFree ∨ link.conn.inboundReceived < link.conn.inboundTotal ∧
    link.Lane .body (link.conn.inboundTotal - link.conn.inboundReceived)

/-- A chunked body that the decoder follows. -/
structure Decoding (headBytes wire out : Bytes) (head : HttpRequestHead)
    (decoder : ChunkedDecoder) : Prop extends Streamed crates limits parsed link (headBytes ++ wire)
      (link.conn.chunkedRawBuffer ++ link.inTransit) head headBytes.length where
  isChunked : head.chunked = true
  chunked : link.conn.inboundChunked = true
  decodes : link.conn.chunkedDecoder = some decoder
  fed : decoder.Fed wire out
  waits : decoder.state = .done ∨ decoder.Waits link.conn.chunkedRawBuffer
  lane : link.LaneFree ∨ decoder.state ≠ .done ∧
    link.Lane .body (decoder.preferredReadSize link.conn.bodyReadMax)

/-- A chunked body that failed: it is never pulled again, and never complete. -/
structure Broken (part rest : Bytes) (head : HttpRequestHead) (headLen : Nat)
    (decoder : ChunkedDecoder) : Prop extends
      Streamed crates limits parsed link part rest head headLen where
  chunked : link.conn.inboundChunked = true
  decodes : link.conn.chunkedDecoder = some decoder
  state : decoder.state ≠ .done
  ended : link.conn.bodyEofReplied = true
  lane : link.LaneFree

/-- A request is in flight. -/
inductive InFlight : Prop where
  | buffered (parsed : Bytes) (h : Buffered crates limits parsed link)
  | sized (parsed part : Bytes) (head : HttpRequestHead) (headLen : Nat)
      (h : Sized crates limits parsed link part head headLen)
  | decoding (parsed headBytes wire out : Bytes) (head : HttpRequestHead) (decoder : ChunkedDecoder)
      (h : Decoding crates limits parsed link headBytes wire out head decoder)
  | broken (parsed part rest : Bytes) (head : HttpRequestHead) (headLen : Nat)
      (decoder : ChunkedDecoder)
      (h : Broken crates limits parsed link part rest head headLen decoder)

/-- No request will be dispatched any more. -/
structure Ended : Prop where
  reading : ∀ want, link.reading ≠ some (.head, want)
  arrived : ∀ reply, (.head, reply) ∉ link.arrived
  waiting : link.conn.waitingForMonitorAfterResponse = false
  pending : link.conn.pendingServiceMessage = none
  closes : link.conn.willClose = true ∨ link.work = 0

/-- The phases of a connection. -/
inductive Framed : Prop where
  | reading {parsed : Bytes} (h : Reading crates limits parsed link)
  | waiting {parsed : Bytes} (h : Waiting crates limits parsed link)
  | inFlight (h : InFlight crates limits link) (hwork : link.work ≤ 1)
      (hpulling : link.conn.websocket = true → link.pulling = false)
  | ended (hpre : link.dispatched <+: crates.requests limits link.received) (h : Ended link)
  | stopped (hpre : link.dispatched <+: crates.requests limits link.received)
      (h : link.stopped = true)

end

variable {crates : Crates} {limits : HttpLimits} {parsed part rest : Bytes} {link t : Link}
  {head : HttpRequestHead} {headLen : Nat}

section

variable {conn : HttpConnection}

theorem HttpConnection.NoBody.of_eraseResponse (h : conn.eraseResponse.NoBody) : conn.NoBody :=
  { h with }

theorem HttpConnection.NoBody.eraseResponse (h : conn.NoBody) : conn.eraseResponse.NoBody :=
  { h with }

/-- Whether a request is in flight does not depend on its response. -/
theorem InFlight.of_inbound (h : InFlight crates limits link.inbound) :
    InFlight crates limits link := by
  cases h with
  | buffered parsed h => exact .buffered parsed { h with noBody := h.noBody.of_eraseResponse }
  | sized _ _ _ _ h => exact .sized _ _ _ _ { h with }
  | decoding _ _ _ _ _ _ h => exact .decoding _ _ _ _ _ _ { h with }
  | broken _ _ _ _ _ _ h => exact .broken _ _ _ _ _ _ { h with }

theorem InFlight.inbound (h : InFlight crates limits link) :
    InFlight crates limits link.inbound := by
  cases h with
  | buffered parsed h => exact .buffered parsed { h with noBody := h.noBody.eraseResponse }
  | sized _ _ _ _ h => exact .sized _ _ _ _ { h with }
  | decoding _ _ _ _ _ _ h => exact .decoding _ _ _ _ _ _ { h with }
  | broken _ _ _ _ _ _ h => exact .broken _ _ _ _ _ _ { h with }

theorem InFlight.congr (h : InFlight crates limits link) (hinbound : t.inbound = link.inbound) :
    InFlight crates limits t :=
  .of_inbound (hinbound ▸ h.inbound)

end

/-- A streamed request is there with its head. -/
theorem Crates.requests_streamed {stream : Bytes}
    (hparse : crates.parseRequestHead limits stream = .complete head headLen)
    (hstreams : streams limits head = true) :
    [requestOf limits head []] <+: crates.requests limits stream := by
  rw [requests, readRequests, hparse]
  dsimp only
  rw [requestOf_streams (stream.drop headLen) [] hstreams]
  split
  · exact cons_prefix_cons.2 ⟨rfl, nil_prefix⟩
  · exact ⟨[], by simp [hstreams]⟩

theorem Crates.Messages.prefix_append {requests : List HttpRequest}
    (hmessages : crates.Messages limits parsed requests) (rest : Bytes) :
    requests <+: crates.requests limits (parsed ++ rest) := by
  rw [hmessages.requests_append]
  exact List.prefix_append _ _

theorem Streamed.dispatched_prefix (h : Streamed crates limits parsed link part rest head headLen) :
    link.dispatched <+: crates.requests limits link.received := by
  obtain ⟨_, hmessages, hdispatched⟩ := h.messages
  rw [hdispatched, h.received, hmessages.requests_append]
  exact (prefix_append_right_inj _).2
    (requests_streamed (parseRequestHead_append rest h.parse) h.streams)

theorem InFlight.dispatched_prefix (h : InFlight crates limits link) :
    link.dispatched <+: crates.requests limits link.received := by
  cases h with
  | buffered _ h =>
    rw [h.received]
    exact (prefix_append _ _).trans (h.messages.prefix_append _)
  | sized _ _ _ _ h | decoding _ _ _ _ _ _ h | broken _ _ _ _ _ _ h => exact h.dispatched_prefix

theorem Framed.dispatched_prefix (h : Framed crates limits link) :
    link.dispatched <+: crates.requests limits link.received := by
  cases h with
  | reading h | waiting h => exact h.received ▸ h.messages.prefix_append _
  | inFlight h => exact h.dispatched_prefix
  | ended hpre | stopped hpre => exact hpre

/-- A streamed request whose message has come whole, with nothing behind it. -/
theorem Streamed.whole (h : Streamed crates limits parsed link part rest head headLen)
    (hfree : link.LaneFree) (hrest : rest = [])
    (hlength : bodyLength head (part.drop headLen) = some (part.length - headLen)) :
    Whole crates limits (parsed ++ part) link := by
  have hmessage : crates.Message limits part (requestOf limits head []) :=
    ⟨head, headLen, h.parse, hlength, requestOf_streams _ _ h.streams⟩
  obtain ⟨_, hmessages, hdispatched⟩ := h.messages
  exact { h with
    messages := by simpa [hdispatched, h.pending] using hmessages.concat hmessage
    received := by simp [h.received, h.readAhead, hrest, hfree.inTransit]
    pending := fun hne => absurd h.pending hne
    lane := .inl hfree
    spawning := fun hservice => absurd hservice h.service
    spawned := fun hne => absurd h.spawned hne
    live := by simp [hfree, h.monitorBegins] }

/-- A streamed body of known length that has come whole. -/
theorem Sized.whole (h : Sized crates limits parsed link part head headLen)
    (hreceived : link.conn.inboundReceived = link.conn.inboundTotal) :
    Whole crates limits (parsed ++ part) link := by
  have hfree : link.LaneFree := h.lane.resolve_right fun hlane => by omega
  refine h.toStreamed.whole hfree hfree.inTransit ?_
  have hlength : (part.drop headLen).length = head.contentLength := by
    rw [length_drop, h.part_length, hreceived, h.total]
    omega
  rw [bodyLength, if_neg (by simp [h.sized]), if_neg (by omega), ← hlength, length_drop]

/-- A chunked body that the decoder has read to its end, with nothing behind it. -/
theorem Decoding.whole {headBytes wire out : Bytes} {decoder : ChunkedDecoder}
    (h : Decoding crates limits parsed link headBytes wire out head decoder)
    (hdone : decoder.state = .done) (hraw : link.conn.chunkedRawBuffer = []) :
    Whole crates limits (parsed ++ (headBytes ++ wire)) link := by
  have hfree : link.LaneFree := h.lane.resolve_right (·.1 hdone)
  refine h.toStreamed.whole hfree (by simp [hraw, hfree.inTransit]) ?_
  have hread := (h.fed.chunkedBody hdone).read
  rw [drop_left, bodyLength, if_pos h.isChunked, hread, Option.map_some]
  simp

theorem InFlight.whole (h : InFlight crates limits link)
    (hreceived : link.conn.bodyReceived = true) : ∃ parsed, Whole crates limits parsed link := by
  have hdone {decoder : ChunkedDecoder} (hchunked : link.conn.inboundChunked = true)
      (hdecodes : link.conn.chunkedDecoder = some decoder) :
      decoder.state = .done ∧ link.conn.chunkedRawBuffer = [] := by
    simpa [bodyReceived, hchunked, hdecodes, ChunkedDecoder.isComplete] using hreceived
  cases h with
  | buffered parsed h => exact ⟨parsed, h.toWhole⟩
  | sized _ _ _ _ h => exact ⟨_, h.whole (by simpa [bodyReceived, h.chunked] using hreceived)⟩
  | decoding _ _ _ _ _ _ h =>
    obtain ⟨hstate, hraw⟩ := hdone h.chunked h.decodes
    exact ⟨_, h.whole hstate hraw⟩
  | broken _ _ _ _ _ _ h => exact absurd (hdone h.chunked h.decodes).1 h.state

end Tina.Http
