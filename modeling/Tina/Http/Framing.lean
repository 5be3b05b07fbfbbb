import Tina.Http.Phases

/-!
Each turn of a connection leads from one of its phases to another, as long as no body is cut short:
a streamed body of known length comes with nothing behind it, and no response ends before the body
of its request has come whole.
-/

namespace Tina.Http

open List Link HttpConnection Crates ChunkedDecoder

variable {crates : Crates} {charges : Charges} {limits : HttpLimits} {parsed rest : Bytes}
  {link t : Link} {head : HttpRequestHead} {headLen : Nat} {bytes : Bytes} {conn : HttpConnection}

/-- The bytes behind a streamed head do not go beyond its body. -/
def FitsBody (crates : Crates) (limits : HttpLimits) (buffer : Bytes) : Prop :=
  match crates.parseRequestHead limits buffer with
  | .complete head headLen => HttpConnection.streams limits head = true → head.chunked = false →
      buffer.length ≤ headLen + head.contentLength
  | .needMore | .failed _ => True

theorem Link.after_deliver_streamed (link : Link) (conn : HttpConnection) (request : HttpRequest) :
    ∃ service, service ≠ .spawning ∧ service.jobs = 1 ∧ link.after (conn.deliver request true) =
        { link with conn, service, dispatched := link.dispatched ++ [request] } := by
  unfold deliver
  split
  · rw [if_pos (by simp)]
    exact ⟨.called, by simp, rfl, rfl⟩
  · exact ⟨.admitting, by simp, rfl, rfl⟩

theorem Link.after_deliver_buffered (link : Link) (conn : HttpConnection) (request : HttpRequest) :
    (∃ service, service ≠ .spawning ∧ service.jobs = 1 ∧ link.after (conn.deliver request false) =
        { link with conn, service, dispatched := link.dispatched ++ [request] }) ∨
    conn.serviceReadAhead = [] ∧ link.after (conn.deliver request false) = { link with
      conn := { conn with
        pendingServiceMessage := some request
        serviceMonitorTerminalSeen := false }
      service := .spawning } := by
  unfold deliver
  split
  · split
    · exact .inl ⟨.called, by simp, rfl, rfl⟩
    rename_i hmonitor
    simp only [Bool.or_eq_true, not_or, decide_eq_true_eq, not_not] at hmonitor
    exact .inr ⟨hmonitor.1.2, rfl⟩
  · exact .inl ⟨.admitting, by simp, rfl, rfl⟩

section

/-- Between requests, with bytes in the buffer that have to be looked at. -/
structure Ready (crates : Crates) (limits : HttpLimits) (parsed : Bytes) (link : Link) : Prop
    extends Fresh crates limits parsed link where
  received : link.received = parsed ++ link.conn.readBuf
  lane : link.LaneFree
  monitorBegins : link.monitorBegins = false
  waiting : link.conn.waitingForMonitorAfterResponse = false

variable (h : Ready crates limits parsed link)

include h

theorem Ready.dispatched_prefix : link.dispatched <+: crates.requests limits link.received :=
  h.received ▸ h.messages.prefix_append _

/-- The request is refused; only what concerns its head and body has changed before. -/
theorem Ready.refuses {turn : Turn} (hturn : conn.Responds turn) (hclose : turn.1.willClose = true)
    (hwaiting : conn.waitingForMonitorAfterResponse = link.conn.waitingForMonitorAfterResponse)
    (hpending : conn.pendingServiceMessage = link.conn.pendingServiceMessage) :
    Framed crates limits (link.after turn) := by
  obtain ⟨hinbound, hconn, -⟩ := after_responds { link with conn } hturn
  obtain ⟨hreading, harrived, hreceived, hdispatched, herase⟩ := inbound_inj hinbound
  change Framed crates limits (({ link with conn } : Link).after turn)
  refine .ended ?_ ⟨by rw [hreading]; simp [h.lane.1], by rw [harrived]; simp [h.lane.2], ?_, ?_,
    .inl (hconn ▸ hclose)⟩
  · rw [hdispatched, hreceived]
    exact h.dispatched_prefix
  · exact (congrArg waitingForMonitorAfterResponse herase).trans (hwaiting.trans h.waiting)
  · exact (congrArg pendingServiceMessage herase).trans (hpending.trans h.pending)

/-- The next read of a head, or of a body that is buffered. -/
theorem Ready.readMore (hhead : HeadParsed crates limits link.conn) :
    Framed crates limits (link.after (link.conn, [.readMore])) := by
  have hafter : link.after (link.conn, [.readMore]) =
      { link with reading := some (.head, READ_CHUNK) } := h.lane.read _ .head READ_CHUNK
  have hreceived : link.received = parsed ++ (link.conn.readBuf ++ link.inTransit) := by
    rw [h.lane.inTransit, append_nil]
    exact h.received
  rw [hafter]
  exact .reading { h with
    received := hreceived
    lane := .inl ⟨_, rfl, h.lane.2, le_rfl⟩
    headParsed := hhead }

end

section

/-- The first message of the buffer, when its body is buffered and there. -/
theorem message_of_buffered {buffer : Bytes}
    (hparse : crates.parseRequestHead limits buffer = .complete head headLen)
    (hstreams : streams limits head = false)
    (hlength : headLen + head.contentLength ≤ buffer.length) :
    crates.Message limits (buffer.take (headLen + head.contentLength))
      (head.intoRequest ((buffer.take (headLen + head.contentLength)).drop headLen)) := by
  have hchunked : head.chunked = false := by
    by_contra hne
    simp [streams_of_chunked hparse (by simpa using hne)] at hstreams
  have htake : (buffer.take (headLen + head.contentLength)).take headLen = buffer.take headLen := by
    rw [take_take, min_eq_left (Nat.le_add_right _ _)]
  have hdrop : ((buffer.take (headLen + head.contentLength)).drop headLen).length =
      head.contentLength := by
    rw [length_drop, length_take_of_le hlength]
    omega
  refine ⟨head, headLen, ?_, ?_, ?_⟩
  · have hall := parseRequestHead_append ((buffer.take (headLen + head.contentLength)).drop headLen)
      (parseRequestHead_take hparse)
    rwa [← htake, take_append_drop] at hall
  · rw [bodyLength, if_neg (by simp [hchunked]), if_neg (by omega), length_take_of_le hlength]
    congr 1
    omega
  · rw [requestOf, if_neg (by simp [hstreams]), take_of_length_le hdrop.le]

theorem requestOf_eq_streaming (hstreams : streams limits head = true) :
    head.intoStreamingRequest ⟨if head.chunked then 0 else head.contentLength, head.chunked⟩ =
      requestOf limits head [] := by
  rw [requestOf, if_pos hstreams]

/-- A streamed request that was handed over: nothing else is under way. -/
theorem Ready.delivered (h : Ready crates limits parsed link)
    {request : HttpRequest} (hinFlight : ∀ service, service ≠ .spawning → InFlight crates limits
      { link with conn, service, dispatched := link.dispatched ++ [request] }) :
    Framed crates limits (link.after (conn.deliver request true)) := by
  obtain ⟨-, hwriting, hwritingClose, hpulling⟩ := work_eq_zero.1 h.work
  obtain ⟨service, hspawning, hjobs, hafter⟩ := link.after_deliver_streamed conn request
  rw [hafter]
  refine .inFlight (hinFlight service hspawning) ?_ fun _ => hpulling
  simp [work, hjobs, hwriting, hwritingClose, hpulling]

variable (h : Ready crates limits parsed link)
  (hparse : crates.parseRequestHead limits link.conn.readBuf = .complete head link.conn.headLen)

include h hparse

theorem Ready.dispatchBuffered (hstreams : streams limits head = false)
    (hlength : link.conn.headLen + head.contentLength ≤ link.conn.readBuf.length) :
    Framed crates limits (link.after (link.conn.dispatchBuffered head)) := by
  obtain ⟨_, hwriting, hwritingClose, hpulling⟩ := work_eq_zero.1 h.work
  set wire := link.conn.readBuf.take (link.conn.headLen + head.contentLength) with hwire
  have hmessages := h.messages.concat (message_of_buffered hparse hstreams hlength)
  have hreceived : link.received = parsed ++ wire ++ (link.conn.serviceReadAhead ++
        link.conn.readBuf.drop (link.conn.headLen + head.contentLength)) := by
    rw [h.received, h.readAhead, nil_append, append_assoc, hwire, take_append_drop]
  have hnoBody := h.noBody
  have hquiet : ¬(¬link.LaneFree ∨ link.monitorBegins = true) := by
    simp [h.lane, h.monitorBegins]
  unfold HttpConnection.dispatchBuffered
  rcases link.after_deliver_buffered _ (head.intoRequest (wire.drop link.conn.headLen))
    with ⟨service, hspawning, hjobs, hafter⟩ | ⟨hempty, hafter⟩
  · rw [hafter]
    refine .inFlight (.buffered (parsed ++ wire) ⟨⟨h.limited, ?_, ?_, h.waiting,
      fun hne => absurd h.pending hne, .inl h.lane, fun heq => absurd heq hspawning,
      fun hne => absurd h.spawned hne, ?_⟩, { hnoBody with }⟩) ?_ ?_
    · simpa [h.pending] using hmessages
    · simpa [inTransit, h.lane.2] using hreceived
    · exact fun hlive => absurd hlive hquiet
    · simp [work, hjobs, hwriting, hwritingClose, hpulling]
    · exact fun _ => hpulling
  · rw [hafter]
    refine .inFlight (.buffered (parsed ++ wire) ⟨⟨h.limited, ?_, ?_, h.waiting, fun _ => rfl,
      .inl h.lane, fun _ _ => ⟨h.lane, h.monitorBegins, hempty, rfl⟩,
        fun hne => absurd h.spawned hne, ?_⟩,
      { hnoBody with }⟩) ?_ ?_
    · exact hmessages
    · simpa [inTransit, h.lane.2] using hreceived
    · exact fun hlive => absurd hlive hquiet
    · simp [work, ServiceWork.jobs, hwriting, hwritingClose, hpulling]
    · exact fun _ => hpulling

theorem Ready.dispatchSized (chunkSize : Nat) (hstreams : streams limits head = true)
    (hchunked : head.chunked = false)
    (hlength : link.conn.readBuf.length ≤ link.conn.headLen + head.contentLength) :
    Framed crates limits (link.after (link.conn.dispatchSized crates charges head chunkSize)) := by
  have hle := parseRequestHead_le hparse
  unfold HttpConnection.dispatchSized
  dsimp only
  rw [take_of_length_le hlength]
  split
  · exact h.refuses (sendParseError_responds _) (sendParseError_willClose _) rfl rfl
  rename_i conn' hcharge
  obtain ⟨_, rfl⟩ := chargeRequest_eq hcharge
  refine h.delivered fun service hspawning => .sized parsed link.conn.readBuf
    head link.conn.headLen { h with
    messages := ⟨_, h.messages, by
      rw [← requestOf_eq_streaming hstreams, if_neg (by simp [hchunked])]⟩
    parse := hparse
    streams := hstreams
    received := ?_
    service := hspawning
    pulls := .inl h.lane
    sized := hchunked
    chunked := h.noBody.chunked
    total := rfl
    part_length := ?_
    le := ?_
    lane := .inl h.lane }
  · simpa [inTransit, h.lane.2] using h.received
  · simp only [length_drop]
    omega
  · simp only [length_drop]
    omega

theorem Ready.dispatchChunked (chunkSize : Nat) (hstreams : streams limits head = true)
    (hchunked : head.chunked = true) :
    Framed crates limits
      (link.after (link.conn.dispatchChunked crates charges head chunkSize)) := by
  have hle := parseRequestHead_le hparse
  set raw := link.conn.readBuf.drop link.conn.headLen with hraw
  obtain ⟨new, hnew, hconsumed, hresult⟩ :=
    feedAll_sound (fed_new link.conn.limits.maxBodyBytes) raw []
  unfold HttpConnection.dispatchChunked
  rcases hfeed : (ChunkedDecoder.new link.conn.limits.maxBodyBytes).feedAll raw [] with
    ⟨progress, consumed, decoded, decoder⟩
  rw [hfeed] at hnew hconsumed hresult
  simp only [← hraw, hfeed]
  split
  · exact h.refuses (sendParseError_responds _) (sendParseError_willClose _) rfl rfl
  rename_i conn' hcharge
  obtain ⟨_, rfl⟩ := chargeRequest_eq hcharge
  set headBytes := link.conn.readBuf.take link.conn.headLen with hheadBytes
  have hheadLen : headBytes.length = link.conn.headLen := length_take_of_le hle
  have hparse' : crates.parseRequestHead limits (headBytes ++ raw.take consumed) =
      .complete head headBytes.length := by
    rw [hheadLen]
    exact parseRequestHead_append _ (parseRequestHead_take hparse)
  have hreceived : link.received =
      parsed ++ ((headBytes ++ raw.take consumed) ++ (raw.drop consumed ++ link.inTransit)) := by
    rw [h.lane.inTransit, append_nil, append_assoc, take_append_drop, take_append_drop]
    exact h.received
  cases progress with
  | failed =>
    exact h.refuses (startWriting_responds _) ((startWriting_responds _).willClose rfl) rfl rfl
  | complete | needMore =>
  obtain ⟨hfed, hwaits⟩ := hresult
  exact h.delivered fun service hspawning =>
    .decoding parsed headBytes (raw.take consumed) new head decoder { h with
      messages := ⟨_, h.messages, by rw [← requestOf_eq_streaming hstreams, if_pos hchunked]⟩
      parse := hparse'
      streams := hstreams
      received := hreceived
      service := hspawning
      pulls := .inl h.lane
      isChunked := hchunked
      chunked := rfl
      decodes := rfl
      fed := hfed
      waits := by first | exact .inl hwaits | exact .inr hwaits
      lane := .inl h.lane }

theorem Ready.dispatchToService (hfits : streams limits head = true → head.chunked = false →
      link.conn.readBuf.length ≤ link.conn.headLen + head.contentLength)
    (hlength : streams limits head = false →
      link.conn.headLen + head.contentLength ≤ link.conn.readBuf.length) :
    Framed crates limits (link.after (link.conn.dispatchToService crates charges head)) := by
  -- the flags that dispatch sets concern the response only
  have h' : Ready crates limits parsed { link with conn := { link.conn with
    parsedHead := none
    willClose := link.conn.limits.keepaliveIdleTimeout.isNone || head.connectionClose
    metricsRequestCharge := 0 } } :=
    { h with noBody := { h.noBody with } }
  have hlimits := h.limited
  unfold HttpConnection.dispatchToService
  dsimp only
  cases hsize : link.conn.limits.inboundStreamChunkSize with
  | none =>
    have hstreams : streams limits head = false := by
      rw [← hlimits, streams, hsize]
      rfl
    exact h'.dispatchBuffered hparse hstreams (hlength hstreams)
  | some chunkSize =>
  dsimp only
  have hstreams : streams limits head = (decide (0 < head.contentLength) || head.chunked) := by
    rw [← hlimits, streams, hsize]
    rfl
  split
  · rename_i hchunked
    exact h'.dispatchChunked hparse chunkSize (by simp [hstreams, hchunked]) hchunked
  rename_i hchunked
  have hchunked' : head.chunked = false := by simpa using hchunked
  split
  · rename_i hpos
    have hstreams' : streams limits head = true := by simp [hstreams, hpos]
    exact h'.dispatchSized hparse chunkSize hstreams' hchunked' (hfits hstreams' hchunked')
  rename_i hpos
  have hstreams' : streams limits head = false := by
    simp [hstreams, hpos, hchunked']
  exact h'.dispatchBuffered hparse hstreams' (hlength hstreams')

theorem Ready.maybeDispatchOrReadMore (hhead : link.conn.parsedHead = some head)
    (hfits : streams limits head = true → head.chunked = false →
      link.conn.readBuf.length ≤ link.conn.headLen + head.contentLength) :
    Framed crates limits (link.after (link.conn.maybeDispatchOrReadMore crates charges head)) := by
  unfold HttpConnection.maybeDispatchOrReadMore
  by_cases hstreams : streams limits head = true
  · rw [if_pos (by rwa [h.limited])]
    exact h.dispatchToService hparse hfits fun hfalse => by simp [hstreams] at hfalse
  rw [if_neg (by rwa [h.limited])]
  split
  · refine h.readMore fun head' hsome => ?_
    rw [hhead] at hsome
    cases hsome
    exact ⟨hparse, by simpa using hstreams⟩
  · rename_i hlength
    exact h.dispatchToService hparse hfits fun _ => Nat.le_of_not_lt hlength

end

theorem Ready.charged (h : Ready crates limits parsed link) (charge : Nat) :
    Ready crates limits parsed
      { link with conn := { link.conn with metricsRequestCharge := charge } } :=
  { h with noBody := { h.noBody with } }

theorem Ready.parseBuffer (h : Ready crates limits parsed link)
    (hnone : link.conn.parsedHead = none) (hfits : FitsBody crates limits link.conn.readBuf) :
    Framed crates limits (link.after (link.conn.parseBuffer crates charges)) := by
  obtain rfl := h.limited
  unfold parseBuffer
  unfold FitsBody at hfits
  cases hparse : crates.parseRequestHead link.conn.limits link.conn.readBuf with
  | needMore => exact h.readMore fun head hsome => by simp [hnone] at hsome
  | failed =>
    exact h.refuses (sendParseError_responds _) (sendParseError_willClose _) rfl rfl
  | complete head headLen =>
  simp only [hparse] at hfits ⊢
  have h' : Ready crates link.conn.limits parsed { link with conn := { link.conn with
    parsedHead := some head
    headLen
    headDeadlineArmed := false } } :=
    { h with noBody := { h.noBody with } }
  split
  · exact h'.maybeDispatchOrReadMore hparse rfl hfits
  split
  · exact h'.refuses (sendParseError_responds _) (sendParseError_willClose _) rfl rfl
  rename_i conn' hcharge
  obtain ⟨charge, rfl⟩ := chargeRequest_eq hcharge
  exact (h'.charged charge).maybeDispatchOrReadMore hparse rfl hfits

/-- Between requests, with a reply to a read of the head that is handled now. -/
structure Arrives (crates : Crates) (limits : HttpLimits) (parsed bytes : Bytes) (link : Link) :
    Prop extends Fresh crates limits parsed link where
  received : link.received = parsed ++ (link.conn.readBuf ++ bytes)
  lane : link.LaneFree
  monitorBegins : link.monitorBegins = false
  waiting : link.conn.waitingForMonitorAfterResponse = false
  headParsed : HeadParsed crates limits link.conn

/-- The end of the stream, or a failed read, ends the connection. -/
theorem Arrives.abandon (h : Arrives crates limits parsed bytes link) :
    Framed crates limits (link.after link.conn.abandon) := by
  obtain ⟨-, -, hwork, -⟩ := foldl_perform_responds { link with conn := link.conn.abandon.1 }
    abandon_responds.effects
  obtain ⟨hinbound, -⟩ := after_responds _ abandon_responds
  obtain ⟨hreading, harrived, hreceived, hdispatched, herase⟩ := inbound_inj hinbound
  have hwaiting := congrArg waitingForMonitorAfterResponse herase
  have hpending := congrArg pendingServiceMessage herase
  have hzero : (link.after link.conn.abandon).work = 0 := by
    rw [abandon_work, Nat.add_zero] at hwork
    exact Nat.le_zero.1 (hwork.trans h.work.le)
  refine .ended ?_ ⟨?_, ?_, hwaiting.trans h.waiting, hpending.trans h.pending, .inr hzero⟩
  · rw [hdispatched, hreceived, h.received]
    exact h.messages.prefix_append _
  · simp [hreading, h.lane.1]
  · simp [harrived, h.lane.2]

theorem Arrives.handleBytesRead (h : Arrives crates limits parsed bytes link)
    (hfits : link.conn.parsedHead = none → FitsBody crates limits (link.conn.readBuf ++ bytes)) :
    Framed crates limits (link.after (link.conn.handleBytesRead crates charges bytes)) := by
  unfold HttpConnection.handleBytesRead
  rw [if_neg (by simp [h.websocket])]
  split
  · exact h.abandon
  have h' : Ready crates limits parsed { link with conn := { link.conn with
    readBuf := link.conn.readBuf ++ bytes } } :=
    { h with noBody := { h.noBody with } }
  dsimp only
  split
  · rename_i hhead
    exact h'.parseBuffer hhead (hfits hhead)
  rename_i head hhead
  obtain ⟨hparse, hstreams⟩ := h.headParsed head hhead
  have hparse' := parseRequestHead_append bytes hparse
  split
  · exact h'.refuses (sendParseError_responds _) (sendParseError_willClose _) rfl rfl
  rename_i conn' hcharge
  obtain ⟨charge, rfl⟩ := chargeRequest_eq hcharge
  refine (h'.charged charge).maybeDispatchOrReadMore hparse' hhead fun htrue => ?_
  simp [hstreams] at htrue

/-- A turn that also sets a timer. -/
theorem Link.after_sleep (link : Link) (conn : HttpConnection) (effects : List Effect)
    (deadline : Duration) (generation : Nat) :
    link.after (conn, effects ++ [.sleep deadline generation]) = link.after (conn, effects) := by
  simp only [after, foldl_append, foldl_cons, foldl_nil]
  rfl

/-- The request after one whose message came whole begins where that message ends. -/
theorem Whole.nextRequest {idle : Duration} (h : Whole crates limits parsed link)
    (hwork : link.work = 0) (hconn : conn.eraseResponse = link.conn.eraseResponse)
    (hsocket : conn.websocket = false) (hfits : FitsBody crates limits link.conn.serviceReadAhead) :
    Framed crates limits (link.after (conn.nextRequest crates charges idle)) := by
  obtain ⟨hservice, -⟩ := work_eq_zero.1 hwork
  have hlimits : conn.limits = limits := (congrArg (·.limits) hconn).trans h.limited
  have hmonitor : conn.serviceMonitor = link.conn.serviceMonitor :=
    congrArg (·.serviceMonitor) hconn
  have hreadAhead : conn.serviceReadAhead = link.conn.serviceReadAhead :=
    congrArg (·.serviceReadAhead) hconn
  have hspawned : link.spawned = none := by
    by_contra hne
    simp [h.spawned hne] at hservice
  have hmessages : crates.Messages limits parsed link.dispatched := by
    have hpending : link.conn.pendingServiceMessage = none := by
      by_contra hne
      simp [h.pending hne] at hservice
    simpa [hpending] using h.messages
  -- what the three ways to go on have in common
  have hfresh : ∀ conn' : HttpConnection, conn'.eraseResponse = { conn.resetForNextRequest with
    serviceReadAhead := []
    requestGeneration := conn'.requestGeneration
    waitingForMonitorAfterResponse := conn'.waitingForMonitorAfterResponse :
      HttpConnection }.eraseResponse → conn'.websocket = conn.websocket →
      Fresh crates limits parsed { link with conn := conn' } := by
    intro conn' herase hsocket'
    refine ⟨(congrArg (·.limits) herase).trans hlimits, hmessages, hwork, hspawned,
      .of_eraseResponse (herase ▸ ⟨rfl, rfl, rfl, rfl, rfl⟩),
      congrArg (·.serviceReadAhead) herase,
      congrArg (·.pendingServiceMessage) herase, hsocket'.trans hsocket⟩
  have hlive : link.conn.serviceReadAhead ≠ [] ∨ link.conn.serviceMonitor = false →
      link.LaneFree ∧ link.monitorBegins = false := by
    intro hnot
    have hdead : ¬(¬link.LaneFree ∨ link.monitorBegins = true) := by
      intro hbusy
      obtain ⟨hempty, -, hspawning | htrue⟩ := h.live hbusy
      · simp [hspawning] at hservice
      rcases hnot with hne | hfalse
      · exact hne hempty
      · simp [htrue] at hfalse
    simpa [not_or] using hdead
  unfold HttpConnection.nextRequest
  dsimp only
  rw [hreadAhead]
  split
  · rename_i hidle
    simp only [Bool.and_eq_true, decide_eq_true_eq, Bool.not_eq_true'] at hidle
    obtain ⟨hempty, hnoMonitor⟩ := hidle
    obtain ⟨hlane, hbegins⟩ := hlive (.inr (hmonitor ▸ hnoMonitor))
    have hreceived : link.received = parsed ++ [] := by
      simpa [hempty, hlane.inTransit] using h.received
    change Framed crates limits (({ link with conn := ?c } : Link).after (?c, _))
    exact Ready.readMore
      ⟨hfresh _ rfl rfl, hreceived, hlane, hbegins, rfl⟩ fun head hsome => nomatch hsome
  rename_i hidle
  split
  · rename_i hempty
    have hreceived : link.received = parsed ++ link.inTransit := by
      simpa [hempty] using h.received
    exact .waiting ⟨hfresh _ rfl rfl, hreceived, h.lane, rfl, rfl, rfl, rfl⟩
  rename_i hne
  obtain ⟨hlane, hbegins⟩ := hlive (.inl hne)
  have hreceived : link.received = parsed ++ ([] ++ link.conn.serviceReadAhead) := by
    simpa [hlane.inTransit] using h.received
  rw [after_sleep]
  change Framed crates limits (({ link with conn := ?c } : Link).after
    (HttpConnection.handleBytesRead ?c _ _ _))
  exact Arrives.handleBytesRead
    ⟨hfresh _ rfl rfl, hreceived, hlane, hbegins, rfl, fun head hsome => nomatch hsome⟩
    fun _ => hfits

end Tina.Http
