import Tina.Http.Pulls

/-!
Every move of a link keeps its phases, under the condition that no body is cut short.
-/

namespace Tina.Http

open List Option HttpConnection Link Bool ServiceWork And Move

variable {crates : Crates} {charges : Charges} {limits : HttpLimits} {parsed part rest : Bytes}
  {link t : Link} {head : HttpRequestHead} {headLen : Nat} {conn : HttpConnection} {turn : Turn}
  {reply : ReadReply} {bytes : Bytes} {bound : Nat} {spawned : Bool}

theorem Link.Lane.bodyReads (hlane : link.Lane .body bound) : link.bodyReads = true := by
  rcases hlane with ⟨_, hreading, -⟩ | ⟨_, -, harrived, -⟩
  · simp [Link.bodyReads, hreading]
  · simp [Link.bodyReads, harrived]

section

variable (hanswers : link.Answers reply t)

include hanswers

theorem Link.Answers.received :
    t.received = link.received ++ reply.bytes ∧ t.conn = link.conn ∧
      t.dispatched = link.dispatched ∧ t.service = link.service ∧ t.spawned = link.spawned ∧
      t.monitorBegins = link.monitorBegins ∧ t.pulling = link.pulling ∧ t.work = link.work := by
  obtain ⟨_, _, -, -, rfl⟩ := hanswers
  exact ⟨rfl, rfl, rfl, rfl, rfl, rfl, rfl, rfl⟩

/-- The bytes of an answer stand behind all that was in transit. -/
theorem Link.Lane.answers_received {reader : Reader} (hlane : link.Lane reader bound)
    (buffered : Bytes)
    (hreceived : link.received = parsed ++ (buffered ++ link.inTransit)) :
    t.received = parsed ++ (buffered ++ t.inTransit) := by
  obtain ⟨-, hempty, htransit⟩ := hlane.answers hanswers
  rw [hanswers.received.1, hreceived, hempty, htransit]
  simp

theorem Whole.answers (h : Whole crates limits parsed link) :
    Whole crates limits parsed t := by
  rcases h.lane with hfree | ⟨hbegins, hlane⟩
  · exact absurd hanswers hfree.not_answers
  have hbusy : ¬link.LaneFree := (·.not_answers hanswers)
  have hlane' := (hlane.answers hanswers).1
  have hreceived := hlane.answers_received hanswers _ h.received
  obtain ⟨_, _, -, -, rfl⟩ := hanswers
  exact { h with
    received := hreceived
    lane := .inr ⟨hbegins, hlane'⟩
    spawning := fun hservice hspawned => absurd (h.spawning hservice hspawned).1 hbusy
    live := fun _ => h.live (.inl hbusy) }

/-- An answer to the read of a streamed body: its pull still waits. -/
theorem Streamed.answers_pulls (h : Streamed crates limits parsed link part rest head headLen)
    (hlane : t.Lane .body bound) :
    t.LaneFree ∨ t.bodyReads = true ∧ t.conn.pendingRequestBodyReply = true := by
  have hpending : link.conn.pendingRequestBodyReply = true :=
    (h.pulls.resolve_left (·.not_answers hanswers)).2
  exact .inr ⟨hlane.bodyReads, hanswers.received.2.1 ▸ hpending⟩

theorem InFlight.answers (h : InFlight crates limits link) :
    InFlight crates limits t := by
  cases h with
  | buffered parsed h =>
    exact .buffered parsed ⟨h.toWhole.answers hanswers, hanswers.received.2.1 ▸ h.noBody⟩
  | sized _ _ _ _ h =>
    rcases h.lane with hfree | ⟨hlt, hlane⟩
    · exact absurd hanswers hfree.not_answers
    have hlane' := (hlane.answers hanswers).1
    have hreceived := hlane.answers_received hanswers _ h.received
    have hpulls := h.answers_pulls hanswers hlane'
    obtain ⟨_, _, -, -, rfl⟩ := hanswers
    exact .sized _ _ _ _
      { h with received := hreceived, pulls := hpulls, lane := .inr ⟨hlt, hlane'⟩ }
  | decoding _ headBytes wire _ _ _ h =>
    rcases h.lane with hfree | ⟨hstate, hlane⟩
    · exact absurd hanswers hfree.not_answers
    have hlane' := (hlane.answers hanswers).1
    have hreceived := hlane.answers_received hanswers
      (headBytes ++ wire ++ link.conn.chunkedRawBuffer)
      (by simpa only [append_assoc] using h.received)
    have hpulls := h.answers_pulls hanswers hlane'
    obtain ⟨_, _, -, -, rfl⟩ := hanswers
    exact .decoding _ _ _ _ _ _ { h with
      received := by simpa only [append_assoc] using hreceived
      pulls := hpulls
      lane := .inr ⟨hstate, hlane'⟩ }
  | broken _ _ _ _ _ _ h =>
    exact absurd hanswers h.lane.not_answers

theorem Ended.answers (h : Ended link) : Ended t := by
  obtain ⟨_, want, hreading, -, rfl⟩ := hanswers
  refine { h with reading := by simp, arrived := fun reply' hmem => ?_ }
  rcases mem_append.1 hmem with hold | hnew
  · exact h.arrived _ hold
  · cases mem_singleton.1 hnew
    exact h.reading want hreading

theorem prefix_answers (hpre : link.dispatched <+: crates.requests limits link.received) :
    t.dispatched <+: crates.requests limits t.received := by
  obtain ⟨hreceived, -, hdispatched, -⟩ := hanswers.received
  rw [hreceived, hdispatched]
  exact hpre.trans (Crates.requests_prefix _ _)

/-- A read that is answered keeps the phase. -/
theorem Framed.answers (h : Framed crates limits link) : Framed crates limits t := by
  obtain ⟨-, hconn, -, -, -, -, hpulls, hwork'⟩ := hanswers.received
  cases h with
  | reading h =>
    have hreceived := h.lane.answers_received hanswers _ h.received
    have hlane := (h.lane.answers hanswers).1
    obtain ⟨reader, want, -, -, rfl⟩ := hanswers
    exact .reading { h with received := hreceived, lane := hlane }
  | waiting h =>
    rcases h.lane with hfree | ⟨hfalse, hlane⟩
    · exact absurd hanswers hfree.not_answers
    have hreceived := hlane.answers_received hanswers [] h.received
    have hlane' := (hlane.answers hanswers).1
    obtain ⟨reader, want, -, -, rfl⟩ := hanswers
    exact .waiting { h with received := hreceived, lane := .inr ⟨hfalse, hlane'⟩ }
  | inFlight h hwork hpulling =>
    exact .inFlight (h.answers hanswers) (hwork' ▸ hwork) (hconn ▸ hpulls ▸ hpulling)
  | ended hpre h => exact .ended (prefix_answers hanswers hpre) (h.answers hanswers)
  | stopped hpre h =>
  refine .stopped (prefix_answers hanswers hpre) ?_
  obtain ⟨_, _, -, -, rfl⟩ := hanswers
  exact h

end

section

variable (h : Framed crates limits link)

include h

/-- A turn that stops the isolate. -/
theorem Framed.stops (effects : List Effect)
    (hperform : ∀ t : Link, (effects.foldl perform t).dispatched = t.dispatched ∧
      (effects.foldl perform t).received = t.received) :
    Framed crates limits (link.after (conn, effects ++ [.stop])) := by
  obtain ⟨hdispatched, hreceived⟩ := hperform { link with conn }
  refine .stopped ?_ ?_
  · simp only [Link.after, foldl_append, foldl_cons, foldl_nil, perform]
    rw [hdispatched, hreceived]
    exact h.dispatched_prefix
  · simp only [Link.after, foldl_append, foldl_cons, foldl_nil, perform]

theorem Framed.stop : Framed crates limits (link.after (conn, [.stop])) :=
  h.stops [] fun _ => ⟨rfl, rfl⟩

theorem Framed.headerDeadline (generation : Nat) :
    Framed crates limits (link.after (link.conn.handleHeaderDeadline generation)) := by
  unfold handleHeaderDeadline
  split
  · exact h
  split
  · exact h
  · refine h.stops _ fun t => ?_
    cases link.conn.streamSource <;> exact ⟨rfl, rfl⟩

end

/-- The link with no job under way. -/
def Link.idle (link : Link) : Link :=
  { link with service := .idle, writing := none, writingClose := none, pulling := false }

theorem Link.idle_of_work (hwork : link.work = 0) : link.idle = link := by
  obtain ⟨_, _, _, _⟩ := work_eq_zero.1 hwork
  cases link
  simp_all [idle]

/-- A job of the service or of the response is done, which leaves `t`. -/
structure Link.Done (link t : Link) : Prop where
  work : t.work + 1 = link.work
  idle : t.idle = link.idle
  spawning : link.service = .spawning → t.service = .spawning

theorem Link.done_service (hservice : link.service = .called ∨ link.service = .admitting) :
    link.Done { link with service := .idle } where
  work := by
    rcases hservice with h | h <;> simp only [work, h, jobs] <;> omega
  idle := rfl
  spawning := fun h => by simp [h] at hservice

theorem Link.done_writing (hwriting : link.writing = some bytes) :
    link.Done { link with writing := none } where
  work := by simp only [work, hwriting, isSome, toNat_true, toNat_false]; omega
  idle := rfl
  spawning := id

theorem Link.done_writingClose (hwriting : link.writingClose = some bytes) :
    link.Done { link with writingClose := none } where
  work := by simp only [work, hwriting, isSome, toNat_true, toNat_false]; omega
  idle := rfl
  spawning := id

theorem Link.done_pulling (hpulling : link.pulling = true) :
    link.Done { link with pulling := false } where
  work := by simp only [work, hpulling, toNat_true, toNat_false, Nat.add_zero]
  idle := rfl
  spawning := id

/-- The only job is done. -/
theorem Link.Done.eq_idle (hdone : link.Done t) (hwork : link.work ≤ 1) :
    t.work = 0 ∧ t = link.idle ∧ link.service ≠ .spawning := by
  have hzero : t.work = 0 := by have := hdone.work; omega
  refine ⟨hzero, (idle_of_work hzero).symm.trans hdone.idle, fun hspawning => ?_⟩
  have hidle := (work_eq_zero.1 hzero).1
  simp [hdone.spawning hspawning] at hidle

theorem Whole.idle (h : Whole crates limits parsed link) (hservice : link.service ≠ .spawning) :
    Whole crates limits parsed link.idle where
  __ := h
  pending := fun hne => absurd (h.pending hne) hservice
  spawning := fun hidle => nomatch hidle
  spawned := fun hne => absurd (h.spawned hne) hservice
  live := fun hbusy =>
    have hlive := h.live hbusy
    ⟨hlive.1, hlive.2.1, .inr (hlive.2.2.resolve_left hservice)⟩

theorem InFlight.idle (h : InFlight crates limits link) (hservice : link.service ≠ .spawning) :
    InFlight crates limits link.idle := by
  cases h with
  | buffered _ h => exact .buffered _ ⟨h.toWhole.idle hservice, h.noBody⟩
  | sized _ _ _ _ h => exact .sized _ _ _ _ { h with service := nofun }
  | decoding _ _ _ _ _ _ h => exact .decoding _ _ _ _ _ _ { h with service := nofun }
  | broken _ _ _ _ _ _ h => exact .broken _ _ _ _ _ _ { h with service := nofun }

/-- A turn that works on the response of a request in flight, with nothing else under way. -/
theorem InFlight.responds (h : InFlight crates limits link) (hwork : link.work = 0)
    (hturn : link.conn.Responds turn) : Framed crates limits (link.after turn) := by
  obtain ⟨hinbound, hconn, _, hpulling⟩ := after_responds _ hturn
  refine .inFlight (h.congr hinbound) (by omega) fun hsocket => ?_
  rw [hpulling (hconn ▸ hsocket)]
  exact (work_eq_zero.1 hwork).2.2.2

/-- A response of a connection that closes behind it. -/
theorem Ended.responds (h : Ended link)
    (hpre : link.dispatched <+: crates.requests limits link.received)
    (hclose : link.conn.willClose = true) (hturn : link.conn.Responds turn) :
    Framed crates limits (link.after turn) := by
  obtain ⟨hinbound, hconn, -⟩ := after_responds _ hturn
  obtain ⟨hreading, harrived, hreceived, hdispatched, herase⟩ := inbound_inj hinbound
  refine .ended (by rwa [hreceived, hdispatched]) ⟨hreading ▸ h.reading, harrived ▸ h.arrived,
    (congrArg waitingForMonitorAfterResponse herase).trans h.waiting,
    (congrArg pendingServiceMessage herase).trans h.pending,
    .inl (hconn ▸ hturn.willClose hclose)⟩

theorem Ended.done (h : Ended link) (hdone : link.Done t) :
    t.conn = link.conn ∧ link.conn.willClose = true ∧ Ended t := by
  have hconn : t.conn = link.conn := congrArg (·.conn) hdone.idle
  have hreading : t.reading = link.reading := congrArg (·.reading) hdone.idle
  have harrived : t.arrived = link.arrived := congrArg (·.arrived) hdone.idle
  have hclose : link.conn.willClose = true :=
    h.closes.resolve_right fun hzero => by have := hdone.work; omega
  exact ⟨hconn, hclose, hreading ▸ h.reading, harrived ▸ h.arrived, hconn ▸ h.waiting,
    hconn ▸ h.pending, .inl (hconn ▸ hclose)⟩

/-- The request that waited for its monitor is handed over, or refused with it. -/
theorem Buffered.spawnHandled (h : Buffered crates limits parsed link) (hwork : link.work ≤ 1)
    (hspawned : link.spawned = some spawned) :
    Framed crates limits (({ link with spawned := none, service := .idle } : Link).after
      (link.conn.handleServiceMonitorSpawned crates spawned)) := by
  have hservice : link.service = .spawning := h.spawned (by simp [hspawned])
  have hzero : ({ link with spawned := none, service := .idle } : Link).work = 0 := by
    simp only [work, hservice, jobs] at hwork ⊢
    omega
  have hpre : link.dispatched <+: crates.requests limits link.received := by
    rw [h.received]
    exact (prefix_append _ _).trans (h.messages.prefix_append _)
  have hhead : (∀ want, link.reading ≠ some (.head, want)) ∧
      ∀ reply, (.head, reply) ∉ link.arrived := by
    rcases h.lane with hfree | ⟨-, ⟨_, hreading, harrived, -⟩ | ⟨_, hreading, harrived, -⟩⟩
    · simp [hfree.1, hfree.2]
    · simp [hreading, harrived]
    · simp [hreading, harrived]
  unfold handleServiceMonitorSpawned
  split
  · exact .stopped hpre rfl
  rename_i message hmessage
  split
  · -- no monitor, no service: the client gets the answer of a closed service
    set conn : HttpConnection := { link.conn with pendingServiceMessage := none, willClose := true }
    have hturn : conn.Responds (conn.handleServiceOutcome crates .closed) :=
      handleServiceOutcome_responds _
    have hended : Ended { link with spawned := none, service := .idle, conn } :=
      ⟨hhead.1, hhead.2, h.waiting, rfl, .inl rfl⟩
    exact hended.responds hpre rfl hturn
  dsimp only
  set conn : HttpConnection := { link.conn with pendingServiceMessage := none } with hconn
  set conn' := if conn.serviceMonitorTerminalSeen then conn
    else { conn with serviceMonitor := true } with hconn'
  have hsame : conn' = { conn with serviceMonitor := conn'.serviceMonitor } ∧
      (link.conn.serviceMonitorTerminalSeen = false → conn'.serviceMonitor = true) := by
    by_cases hterminal : link.conn.serviceMonitorTerminalSeen = true
    · have hterminal' : conn.serviceMonitorTerminalSeen = true := hterminal
      rw [hconn', if_pos hterminal']
      exact ⟨rfl, fun hfalse => by simp [hterminal] at hfalse⟩
    · have hterminal' : ¬conn.serviceMonitorTerminalSeen = true := hterminal
      rw [hconn', if_neg hterminal']
      exact ⟨rfl, fun _ => rfl⟩
  obtain ⟨hsame, hmonitor⟩ := hsame
  generalize conn'.serviceMonitor = monitor at hsame hmonitor
  rw [hsame]
  split
  · have hwhole : Whole crates limits parsed { link with
        spawned := none
        service := .called
        conn := { conn with serviceMonitor := monitor }
        dispatched := link.dispatched ++ [message] } := { h with
      messages := by simpa [hmessage, hconn] using h.messages
      pending := fun hne => absurd rfl hne
      spawning := fun hcalled => by cases hcalled
      spawned := fun hne => absurd rfl hne
      live := fun hbusy =>
        have hlive := h.live hbusy
        ⟨hlive.1, hlive.2.1, .inr (hmonitor hlive.2.1)⟩ }
    obtain ⟨-, hwriting, hclose, hpulling⟩ := work_eq_zero.1 hzero
    refine .inFlight (.buffered parsed ⟨hwhole, { h.noBody with }⟩) ?_ fun _ => hpulling
    simp [Link.after, perform, work, jobs, hwriting, hclose, hpulling]
  · exact .stopped hpre rfl

variable {index : Nat}

/-- The reply that is handled leaves the lane free; `link'` is the link behind it. -/
theorem Reading.arrives (h : Reading crates limits parsed link) {reader : Reader}
    (harrival : link.arrived[index]? = some (reader, reply)) :
    reader = .head ∧ link.handling index = { link with reading := none, arrived := [] } ∧
      Arrives crates limits parsed reply.bytes { link with reading := none, arrived := [] } := by
  obtain ⟨hreader, -, htransit, hfree⟩ := h.lane.handled harrival
  exact ⟨hreader, hfree.eq, { h with received := htransit ▸ h.received, lane := ⟨rfl, rfl⟩ }⟩

/-- A lane that serves `reader` at most, and a reply that comes from it. -/
theorem handled_of_lane {reader reader' : Reader} (hlane : link.LaneFree ∨ link.Lane reader bound)
    (harrival : link.arrived[index]? = some (reader', reply)) : reader' = reader := by
  rcases hlane with hfree | hlane
  · exact absurd harrival hfree.not_handled
  · exact (hlane.handled harrival).1

/-- Whose reply is handled while a request is in flight. -/
theorem InFlight.reader {reader : Reader} (h : InFlight crates limits link)
    (harrival : link.arrived[index]? = some (reader, reply)) : reader ≠ .head := by
  rintro rfl
  cases h with
  | buffered _ h | sized _ _ _ _ h | decoding _ _ _ _ _ _ h =>
    cases handled_of_lane (h.lane.imp_right right) harrival
  | broken _ _ _ _ _ _ h => exact absurd harrival h.lane.not_handled

/-- A turn that answers a pull or reads on, behind what the decoder has made of a read. -/
def HttpConnection.ReadsBody (conn : HttpConnection) (turn : Turn) : Prop :=
  ∃ received raw decoder, turn.1.erasePull = { conn with
    inboundReceived := received
    chunkedRawBuffer := raw
    chunkedDecoder := decoder : HttpConnection }.erasePull ∧
    ∃ effect, turn.2 = [effect] ∧ (effect.replies = true ∨ ∃ want, effect = .readBody want)

/-- A read of the body of a request, whatever its phase. -/
theorem HttpConnection.handleBodyChunkRead_cases (conn : HttpConnection) (charges : Charges)
    (reply : Except CallError Bytes) : conn.ReadsBody (conn.handleBodyChunkRead charges reply) := by
  have hanswered : ∀ received raw decoder {turn}, Answered { conn with
      inboundReceived := received
      chunkedRawBuffer := raw
      chunkedDecoder := decoder } turn → conn.ReadsBody turn := by
    intro received raw decoder turn hturn
    obtain ⟨effect, heffects, hreplies⟩ := hturn.effects
    exact ⟨_, _, _, hturn.pull, effect, heffects, .inl hreplies⟩
  by_cases hnothing : reply.toOption.getD [] = []
  · exact hanswered _ _ _ (handleBodyChunkRead_nothing hnothing)
  cases reply with
  | error => exact absurd rfl hnothing
  | ok bytes =>
  have hbytes : bytes ≠ [] := hnothing
  by_cases hchunked : conn.inboundChunked = true
  · cases hdecoder : conn.chunkedDecoder with
    | none =>
      refine hanswered (conn.inboundReceived + bytes.length) (conn.chunkedRawBuffer ++ bytes)
        conn.chunkedDecoder ?_
      unfold handleBodyChunkRead
      dsimp only
      rw [if_neg hbytes, if_pos hchunked, hdecoder]
      exact serveChunkFromBuffer_answered.of_eq (by rw [← hdecoder]) id
    | some decoder =>
    rcases hfeed : decoder.feedAll (conn.chunkedRawBuffer ++ bytes) conn.inboundBuffer with
      ⟨progress, consumed, buffer, decoder'⟩
    cases handleBodyChunkRead_chunked hchunked hdecoder hbytes hfeed with
    | served _ hturn | failed _ _ hturn | refused hturn => exact hanswered _ _ _ hturn
    | reads _ hpull _ heffects => exact ⟨_, _, _, hpull, _, heffects, .inr ⟨_, rfl⟩⟩
  · exact hanswered _ _ _ (handleBodyChunkRead_sized (by simpa using hchunked) hbytes)

theorem Ended.handled (h : Ended link) (index : Nat) : Ended (link.handling index) :=
  { h with arrived := fun reply hmem => h.arrived reply (mem_of_mem_eraseIdx hmem) }

theorem Ended.handleBodyChunkRead (h : Ended link)
    (hpre : link.dispatched <+: crates.requests limits link.received) :
    Framed crates limits (link.after (link.conn.handleBodyChunkRead charges reply)) := by
  obtain ⟨received, raw, decoder, hpull, _, heffects, hreplies⟩ :=
    link.conn.handleBodyChunkRead_cases charges reply
  set turn := link.conn.handleBodyChunkRead charges reply
  have hended : Ended { link with conn := { link.conn with
    inboundReceived := received
    chunkedRawBuffer := raw
    chunkedDecoder := decoder } } :=
    { h with }
  have hended' : Ended { link with conn := turn.1 } := (hended.of_pull hpull :)
  rw [Link.after, heffects, foldl_cons, foldl_nil]
  rcases hreplies with hreplies | ⟨want, rfl⟩
  · rw [perform_replies hreplies]
    exact .ended hpre hended'
  obtain ⟨hdispatched, hreceived⟩ := read_eq { link with conn := turn.1 } .body want
  refine .ended ?_ (hended'.read (by simp) want)
  rw [perform, hdispatched, hreceived]
  exact hpre

theorem Link.after_beginClose (link : Link) (conn : HttpConnection) :
    link.after conn.beginClose = { link with conn := conn.beginClose.1, closing := true } := by
  have hturn : conn.beginClose =
      (conn.beginClose.1, conn.streamSource.toList.map .cancelSource ++ [.close]) := rfl
  rw [hturn]
  cases conn.streamSource <;> rfl

/-- The byte a monitor had read, or its end, while the request it watches over is in flight. -/
theorem Whole.monitorHandled (h : Whole crates limits parsed link) (readAhead : Bytes)
    (harrival : link.arrived[index]? = some (.monitor, reply))
    (hreadAhead : readAhead = link.conn.serviceReadAhead ++ reply.bytes) :
    Whole crates limits parsed { link with
      reading := none
      arrived := []
      conn := { link.conn with
        serviceMonitor := false
        serviceMonitorTerminalSeen := true
        serviceReadAhead := readAhead } } := by
  rcases h.lane with hfree | ⟨hbegins, hlane⟩
  · exact absurd harrival hfree.not_handled
  obtain ⟨-, -, htransit, -⟩ := hlane.handled harrival
  have hbusy : ¬link.LaneFree := (·.not_handled harrival)
  have hreceived : link.received = parsed ++ (readAhead ++ []) := by
    rw [h.received, htransit, hreadAhead, append_nil]
  exact { h with
    received := hreceived
    lane := .inl ⟨rfl, rfl⟩
    spawning := fun hservice hspawned => absurd (h.spawning hservice hspawned).1 hbusy
    live := by simp [LaneFree, hbegins] }

theorem Whole.handled_eq (h : Whole crates limits parsed link)
    (harrival : link.arrived[index]? = some (.monitor, reply)) :
    link.handling index = { link with reading := none, arrived := [] } := by
  rcases h.lane with hfree | ⟨-, hlane⟩
  · exact absurd harrival hfree.not_handled
  · exact (hlane.handled harrival).2.2.2.eq

section

variable (h : Framed crates limits link)

include h

theorem Framed.monitorSpawns (hservice : link.service = .spawning) (hspawned : link.spawned = none)
    (spawned : Bool) :
    Framed crates limits { link with spawned := some spawned, monitorBegins := spawned } := by
  have hpos : link.work ≠ 0 := fun hzero => by
    have hidle := (work_eq_zero.1 hzero).1
    simp [hservice] at hidle
  cases h with
  | reading h | waiting h => exact absurd h.work hpos
  | inFlight h hwork hpulling =>
    cases h with
    | buffered parsed h =>
      obtain ⟨hfree, _, hreadAhead, hterminal⟩ := h.spawning hservice hspawned
      have hwhole : Whole crates limits parsed
          { link with spawned := some spawned, monitorBegins := spawned } :=
        { h with
          lane := .inl hfree
          spawning := fun _ hnone => nomatch hnone
          spawned := fun _ => hservice
          live := fun _ => ⟨hreadAhead, hterminal, .inl hservice⟩ }
      exact .inFlight (.buffered parsed ⟨hwhole, h.noBody⟩) hwork hpulling
    | sized _ _ _ _ h | decoding _ _ _ _ _ _ h | broken _ _ _ _ _ _ h =>
      exact absurd hservice h.service
  | ended hpre h =>
    exact .ended hpre { h with }
  | stopped hpre h => exact .stopped hpre h

theorem Framed.monitorReads (hbegins : link.monitorBegins = true) :
    Framed crates limits (({ link with monitorBegins := false } : Link).read .monitor 1) := by
  -- a lane that serves somebody else belongs to no monitor
  have hfree : link.LaneFree ∨ link.monitorBegins = false ∧ link.Lane .monitor 1 → link.LaneFree :=
    fun hlane => hlane.resolve_right fun hbusy => by simp [hbegins] at hbusy
  cases h with
  | reading h => simp [h.monitorBegins] at hbegins
  | waiting h =>
    have hlane := hfree h.lane
    rw [LaneFree.read { link with monitorBegins := false } hlane]
    exact .waiting { h with lane := .inr ⟨rfl, .inl ⟨_, rfl, hlane.2, le_rfl⟩⟩ }
  | inFlight h hwork hpulling =>
    cases h with
    | buffered parsed h =>
      have hlane := hfree h.lane
      rw [LaneFree.read { link with monitorBegins := false } hlane]
      have hwhole : Whole crates limits parsed
          { link with monitorBegins := false, reading := some (.monitor, 1) } := { h with
        lane := .inr ⟨rfl, .inl ⟨_, rfl, hlane.2, le_rfl⟩⟩
        spawning := fun hservice hspawned => by
          have hnot := (h.spawning hservice hspawned).2.1
          simp [hbegins] at hnot
        live := fun _ => h.live (.inr hbegins) }
      exact .inFlight (.buffered parsed ⟨hwhole, h.noBody⟩) hwork hpulling
    | sized _ _ _ _ h | decoding _ _ _ _ _ _ h | broken _ _ _ _ _ _ h =>
      simp [h.monitorBegins] at hbegins
  | ended _ h =>
    obtain ⟨hdispatched, hreceived⟩ := read_eq { link with monitorBegins := false } .monitor 1
    have h' : Ended { link with monitorBegins := false } := { h with }
    exact .ended (by rwa [hdispatched, hreceived]) (h'.read (by simp) 1)
  | stopped _ h =>
    obtain ⟨hdispatched, hreceived⟩ := read_eq { link with monitorBegins := false } .monitor 1
    refine .stopped (by rwa [hdispatched, hreceived]) ?_
    unfold Link.read
    split <;> exact h

variable (hstopped : link.stopped = false)

include hstopped

/-- A job is done and the turn works on the response. -/
theorem Framed.responds (hdone : link.Done t) (hturn : link.conn.Responds turn) :
    Framed crates limits (t.after turn) := by
  have hconn : t.conn = link.conn := congrArg (·.conn) hdone.idle
  have hpos := hdone.work
  cases h with
  | reading h | waiting h => exact absurd h.work (by omega)
  | inFlight h hwork =>
    obtain ⟨hzero, rfl, hservice⟩ := hdone.eq_idle hwork
    exact (h.idle hservice).responds hzero hturn
  | ended _ h =>
    obtain ⟨-, hclose, hended⟩ := h.done hdone
    have hreceived : t.received = link.received := congrArg (·.received) hdone.idle
    have hdispatched : t.dispatched = link.dispatched := congrArg (·.dispatched) hdone.idle
    exact hended.responds (by rwa [hreceived, hdispatched]) (hconn ▸ hclose) (hconn ▸ hturn)
  | stopped _ h => simp [hstopped] at h

/-- A response ends and the connection stays open. -/
theorem Framed.ends (hdone : link.Done t)
    (hends : link.conn.Ends crates charges turn) (hopen : link.conn.willClose = false)
    (hsocket : (link.conn.websocket = true → link.pulling = false) → link.conn.websocket = false)
    (hreceived : link.conn.bodyReceived = true)
    (hfits : FitsBody crates link.conn.limits link.conn.serviceReadAhead) :
    Framed crates limits (t.after turn) := by
  have hpos := hdone.work
  cases h with
  | reading h | waiting h => exact absurd h.work (by omega)
  | inFlight h hwork hpulling =>
    obtain ⟨hzero, rfl, hservice⟩ := hdone.eq_idle hwork
    obtain ⟨_, hwhole⟩ := (h.idle hservice).whole hreceived
    obtain ⟨_, _, hinbound, hsocket', rfl⟩ := hends
    exact hwhole.nextRequest hzero hinbound (hsocket'.trans (hsocket hpulling))
      (hwhole.limited ▸ hfits)
  | ended _ h =>
    obtain ⟨-, hclose, -⟩ := h.done hdone
    simp [hopen] at hclose
  | stopped _ h => simp [hstopped] at h

theorem Framed.spawnHandled (hspawned : link.spawned = some spawned) :
    Framed crates limits (({ link with spawned := none, service := .idle } : Link).after
      (link.conn.handleServiceMonitorSpawned crates spawned)) := by
  have hsome : link.spawned ≠ none := by simp [hspawned]
  cases h with
  | reading h | waiting h => exact absurd h.spawned hsome
  | inFlight h hwork =>
    cases h with
    | buffered _ h => exact h.spawnHandled hwork hspawned
    | sized _ _ _ _ h | decoding _ _ _ _ _ _ h | broken _ _ _ _ _ _ h =>
      exact absurd h.spawned hsome
  | ended hpre h =>
    rw [handleServiceMonitorSpawned, h.pending]
    exact .stopped hpre rfl
  | stopped _ h => simp [hstopped] at h

theorem Framed.headHandled (harrival : link.arrived[index]? = some (.head, reply))
    (hfits : ∀ bytes, reply = .ok bytes → link.conn.parsedHead = none →
      FitsBody crates link.conn.limits (link.conn.readBuf ++ bytes)) :
    Framed crates limits ((link.handling index).after
      (link.conn.handle crates charges (.read reply))) := by
  cases h with
  | reading h =>
    obtain ⟨-, hlink, harrives⟩ := h.arrives harrival
    rw [hlink]
    cases reply with
    | error => exact harrives.abandon
    | ok bytes => exact harrives.handleBytesRead fun hnone => h.limited ▸ hfits bytes rfl hnone
  | waiting h => cases handled_of_lane (h.lane.imp_right right) harrival
  | inFlight h => exact absurd rfl (h.reader harrival)
  | ended _ h => exact absurd (mem_of_getElem? harrival) (h.arrived reply)
  | stopped _ h => simp [hstopped] at h

theorem Framed.bodyHandled (harrival : link.arrived[index]? = some (.body, reply)) :
    Framed crates limits ((link.handling index).after
      (link.conn.handleBodyChunkRead charges reply)) := by
  cases h with
  | reading h => cases (h.arrives harrival).1
  | waiting h => cases handled_of_lane (h.lane.imp_right right) harrival
  | inFlight h hwork hpulling =>
    cases h with
    | buffered _ h => cases handled_of_lane (h.lane.imp_right right) harrival
    | sized _ _ _ _ h | decoding _ _ _ _ _ _ h => exact h.read hwork hpulling harrival
    | broken _ _ _ _ _ _ h => exact absurd harrival h.lane.not_handled
  | ended hpre h => exact (h.handled index).handleBodyChunkRead hpre
  | stopped _ h => simp [hstopped] at h

/-- The end of the peer, or of its monitor. -/
theorem Framed.disconnected (charges : Charges)
    (harrival : link.arrived[index]? = some (.monitor, reply)) (hreply : reply.bytes = []) :
    Framed crates limits ((link.handling index).after
      (link.conn.handleServicePeerMonitorEnded crates charges .disconnected)) := by
  have hpre := h.dispatched_prefix
  unfold handleServicePeerMonitorEnded
  dsimp only
  cases h with
  | reading h => cases (h.arrives harrival).1
  | waiting h =>
    have hdrained : hasPendingBody { link.conn with
        serviceMonitor := false, serviceMonitorTerminalSeen := true } = false := h.drained
    rw [if_neg (by simp [h.websocket]), if_neg (by simp [hdrained])]
    exact .stopped hpre rfl
  | inFlight h hwork hpulling =>
    cases h with
    | buffered parsed h =>
      have hwhole := h.toWhole.monitorHandled link.conn.serviceReadAhead harrival (by simp [hreply])
      have hinFlight : InFlight crates limits { link with
          reading := none
          arrived := []
          conn := { link.conn with
            serviceMonitor := false, serviceMonitorTerminalSeen := true } } :=
        .buffered parsed ⟨hwhole, { h.noBody with }⟩
      rw [h.handled_eq harrival]
      split
      · exact .inFlight hinFlight hwork hpulling
      split
      · rw [after_beginClose]
        exact .inFlight (hinFlight.congr rfl) hwork hpulling
      · exact .stopped hpre rfl
    | sized _ _ _ _ h | decoding _ _ _ _ _ _ h =>
      cases handled_of_lane (h.lane.imp_right right) harrival
    | broken _ _ _ _ _ _ h => exact absurd harrival h.lane.not_handled
  | ended _ h =>
    have hended := h.handled index
    split
    · exact .ended hpre { hended with }
    split
    · rw [after_beginClose]
      exact .ended hpre { hended with }
    · exact .stopped hpre rfl
  | stopped _ h => simp [hstopped] at h

/-- The byte a monitor had read: kept for the next request, which begins with it when it was
waited for. -/
theorem Framed.readAhead (harrival : link.arrived[index]? = some (.monitor, .ok bytes))
    (hfits : link.conn.waitingForMonitorAfterResponse = true →
      FitsBody crates link.conn.limits (link.conn.serviceReadAhead ++ bytes)) :
    Framed crates limits ((link.handling index).after
      (link.conn.handleServicePeerMonitorEnded crates charges (.readAhead bytes))) := by
  unfold handleServicePeerMonitorEnded
  dsimp only
  cases h with
  | reading h => cases (h.arrives harrival).1
  | @waiting parsed h =>
    rcases h.lane with hfree | ⟨hbegins, hlane⟩
    · exact absurd harrival hfree.not_handled
    obtain ⟨-, -, htransit, hfree⟩ := hlane.handled harrival
    have hreceived : link.received =
        parsed ++ (link.conn.readBuf ++ (link.conn.serviceReadAhead ++ bytes)) := by
      rw [h.received, htransit, h.readBuf, h.readAhead]
      rfl
    have harrives : Arrives crates limits parsed (link.conn.serviceReadAhead ++ bytes) { link with
        reading := none
        arrived := []
        conn := { link.conn with
          serviceMonitor := false
          serviceMonitorTerminalSeen := true
          waitingForMonitorAfterResponse := false
          serviceReadAhead := [] } } :=
      { h with
        noBody := { h.noBody with }
        readAhead := rfl
        received := hreceived
        lane := ⟨rfl, rfl⟩
        monitorBegins := hbegins
        waiting := rfl
        headParsed := fun head hsome => by
          have hnone : some head = none := hsome.symm.trans h.parsedHead
          cases hnone }
    rw [if_pos h.waiting, hfree.eq]
    refine harrives.handleBytesRead fun _ => ?_
    have hfits' :
        FitsBody crates limits (link.conn.readBuf ++ (link.conn.serviceReadAhead ++ bytes)) := by
      rw [h.readBuf, nil_append, ← h.limited]
      exact hfits h.waiting
    exact hfits'
  | inFlight h hwork hpulling =>
    cases h with
    | buffered parsed h =>
      have hwhole := h.toWhole.monitorHandled _ harrival rfl
      rw [if_neg (by simp [h.waiting]), h.handled_eq harrival]
      exact .inFlight (.buffered parsed ⟨hwhole, { h.noBody with }⟩) hwork hpulling
    | sized _ _ _ _ h | decoding _ _ _ _ _ _ h =>
      cases handled_of_lane (h.lane.imp_right right) harrival
    | broken _ _ _ _ _ _ h => exact absurd harrival h.lane.not_handled
  | ended hpre h =>
    have hended := h.handled index
    rw [if_neg (by simp [h.waiting])]
    exact .ended hpre { hended with }
  | stopped _ h => simp [hstopped] at h

instance (crates : Crates) (limits : HttpLimits) (buffer : Bytes) :
    Decidable (FitsBody crates limits buffer) :=
  match h : crates.parseRequestHead limits buffer with
  | .needMore => .isTrue (by simp [FitsBody, h])
  | .failed _ => .isTrue (by simp [FitsBody, h])
  | .complete head headLen =>
    decidable_of_iff (HttpConnection.streams limits head = true → head.chunked = false →
      buffer.length ≤ headLen + head.contentLength) (by simp [FitsBody, h])

/-- Nothing behind a message is lost when its response ends here. -/
def HttpConnection.EndsClean (crates : Crates) (conn : HttpConnection) : Prop :=
  conn.bodyReceived = true ∧ FitsBody crates conn.limits conn.serviceReadAhead

/-- No body is cut short by this move. -/
def Move.Clean (crates : Crates) (link : Link) : Move → Prop
  | .readHandled index =>
    match link.arrived[index]? with
    | some (.head, .ok bytes) =>
      link.conn.parsedHead = none → FitsBody crates link.conn.limits (link.conn.readBuf ++ bytes)
    | some (.monitor, .ok bytes) => link.conn.waitingForMonitorAfterResponse = true →
      FitsBody crates link.conn.limits (link.conn.serviceReadAhead ++ bytes)
    | _ => True
  | .wrote written => ∀ bytes ∈ link.writing,
    link.conn.endsAfterWrite bytes written = true → link.conn.EndsClean crates
  | .chunkReturns outcome => link.conn.endsAfterChunk outcome = true → link.conn.EndsClean crates
  | .bodyNextSent => link.bodyReads = false ∧ link.conn.startsBodyRead = false
  | _ => True

theorem Framed.readHandled {arrival : Reader × ReadReply}
    (harrival : link.arrived[index]? = some arrival)
    (hclean : Clean crates link (.readHandled index)) :
    Framed crates limits ((link.handling index).after
      (link.conn.handle crates charges (readMessage arrival))) := by
  obtain ⟨reader, reply⟩ := arrival
  simp only [Clean, harrival] at hclean
  cases reader with
  | head =>
    refine h.headHandled hstopped harrival fun bytes hreply hnone => ?_
    subst hreply
    exact hclean hnone
  | body => exact h.bodyHandled hstopped harrival
  | monitor =>
  match reply with
  | .error error | .ok [] => exact h.disconnected hstopped charges harrival rfl
  | .ok (byte :: bytes) => exact h.readAhead hstopped harrival hclean

theorem Framed.wrote {written : Nat} (hwriting : link.writing = some bytes)
    (hclean : Clean crates link (.wrote written)) :
    Framed crates limits (({ link with writing := none } : Link).after
      (link.conn.handleWrote crates charges bytes written)) := by
  rcases handleWrote_cases bytes written with hturn | ⟨hends, hturn⟩
  · exact h.responds hstopped (done_writing hwriting) hturn
  obtain ⟨hreceived, hfits⟩ := hclean bytes hwriting hends
  simp only [endsAfterWrite, and_eq_true, not_eq_true'] at hends
  exact h.ends hstopped (done_writing hwriting) hturn hends.2 (fun _ => hends.1.1.1.1.1)
    hreceived hfits

theorem Framed.chunkReturns {outcome : CallOutcome ResponseChunkReply}
    (hpulling : link.pulling = true) (hclean : Clean crates link (.chunkReturns outcome)) :
    Framed crates limits (({ link with pulling := false } : Link).after
      (link.conn.handleStreamChunk crates charges outcome)) := by
  rcases handleStreamChunk_cases outcome with hturn | ⟨hends, hturn⟩
  · exact h.responds hstopped (done_pulling hpulling) hturn
  obtain ⟨hreceived, hfits⟩ := hclean hends
  simp only [endsAfterChunk, and_eq_true, not_eq_true'] at hends
  refine h.ends hstopped (done_pulling hpulling) hturn hends.2 (fun hsocket => ?_) hreceived hfits
  by_contra htrue
  simp [hsocket (by simpa using htrue)] at hpulling

end

theorem Link.answer_answers (hanswer : link.answer reply = some t)
    (hlength : ∀ entry ∈ link.reading, reply.bytes.length ≤ entry.2) : link.Answers reply t := by
  obtain ⟨⟨reader, want⟩, hreading, rfl⟩ := map_eq_some_iff.1 hanswer
  exact ⟨reader, want, hreading, hlength (reader, want) hreading, rfl⟩

/-- Every clean move keeps the phases. -/
theorem Framed.step {charged : Charges × Move} (h : Framed crates limits link)
    (hclean : charged.2.Clean crates link) (hstep : link.step crates charged = some t) :
    Framed crates limits t := by
  obtain ⟨_, move⟩ := charged
  unfold Link.step at hstep
  split at hstep
  · cases hstep
  rename_i hstopped
  simp only [not_eq_true] at hstopped
  cases move with
    (dsimp only at hstep; try split at hstep <;> cases hstep
     try cases hstep)
  | bytesArrive bytes =>
    split at hstep
    · rename_i hbytes
      refine h.answers (answer_answers hstep fun entry hentry => ?_)
      have hlength : bytes.length ≤ entry.2 := by
        have hany := hbytes.2
        rw [hentry] at hany
        simpa using hany
      exact hlength
    · cases hstep
  | readEnds | readFails =>
    exact h.answers (answer_answers hstep fun _ _ => Nat.zero_le _)
  | monitorSpawns spawned =>
    rename_i hspawn
    exact h.monitorSpawns hspawn.1 hspawn.2 spawned
  | monitorReads =>
    rename_i hbegins
    exact h.monitorReads hbegins
  | spawnHandled =>
    obtain ⟨_, hspawned, rfl⟩ := map_eq_some_iff.1 hstep
    exact h.spawnHandled hstopped hspawned
  | readHandled =>
    obtain ⟨_, harrival, rfl⟩ := map_eq_some_iff.1 hstep
    exact h.readHandled hstopped harrival hclean
  | headerDeadline generation =>
    exact h.headerDeadline generation
  | serviceReturns =>
    rename_i hservice
    exact h.responds hstopped (done_service (.inl hservice)) (handleServiceOutcome_responds _)
  | eventAdmitted =>
    rename_i hservice
    exact h.responds hstopped (done_service (.inr hservice)) (handleEventAdmitted_responds _)
  | wrote =>
    obtain ⟨bytes, hwriting, hstep⟩ := bind_eq_some_iff.1 hstep
    split at hstep <;> cases hstep
    exact h.wrote hstopped hwriting hclean
  | writeFails =>
    obtain ⟨bytes, hwriting, rfl⟩ := map_eq_some_iff.1 hstep
    refine h.responds hstopped (done_writing hwriting) ?_
    unfold handle
    dsimp only
    split
    · exact beginClose_responds
    · exact abandon_responds
  | wroteClose =>
    obtain ⟨bytes, hwriting, hstep⟩ := bind_eq_some_iff.1 hstep
    split at hstep
    · split at hstep <;> cases hstep
      · exact .stopped h.dispatched_prefix rfl
      · exact h.responds hstopped (done_writingClose hwriting) (handleWroteClose_responds _ _ _)
    · cases hstep
  | writeCloseFails =>
    obtain ⟨_, hwriting, rfl⟩ := map_eq_some_iff.1 hstep
    exact h.responds hstopped (done_writingClose hwriting) abandon_responds
  | chunkReturns =>
    rename_i hpulling
    exact h.chunkReturns hstopped hpulling hclean
  | bodyNextCalled =>
    exact h.bodyNextCalled hstopped
  | bodyNextSent =>
    exact h.bodyNextSent hclean.1 hclean.2
  | closed =>
    exact h.stop

/-- A fresh connection reads its first request. -/
theorem Framed.start (hlimits : conn.limits = limits) (hnoBody : conn.NoBody)
    (hfresh : conn.readBuf = [] ∧ conn.parsedHead = none ∧ conn.serviceReadAhead = [] ∧
      conn.pendingServiceMessage = none ∧ conn.websocket = false ∧
      conn.waitingForMonitorAfterResponse = false) :
    Framed crates limits (Link.start conn) := by
  obtain ⟨hbuf, hhead, hreadAhead, hpending, hsocket, hwaiting⟩ := hfresh
  have hreceived : [] = [] ++ (conn.readBuf ++ []) := by simp [hbuf]
  refine Framed.reading ⟨⟨hlimits, .nil, rfl, rfl, { hnoBody with }, hreadAhead, hpending, hsocket⟩,
    hreceived, .inl ⟨_, rfl, rfl, le_rfl⟩, rfl, hwaiting, fun head hsome => ?_⟩
  have hnone : some head = none := hsome.symm.trans hhead
  cases hnone

end Tina.Http
