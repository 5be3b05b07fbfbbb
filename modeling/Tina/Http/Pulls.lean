import Tina.Http.Framing

/-!
Pulls of a streamed body: a pull is answered from the buffer or starts a read that does not go
beyond the body, and the reply to that read is accounted for.
-/

namespace Tina.Http

open HttpConnection Link ChunkedDecoder

def Effect.replies : Effect → Bool
  | .reply _ | .replyTo _ | .reject _ => true
  | _ => false

theorem Link.perform_replies {link : Link} {effect : Effect} (heffect : effect.replies = true) :
    link.perform effect = link := by
  cases effect <;> first | rfl | cases heffect

namespace HttpConnection

variable {conn conn' : HttpConnection} {charges : Charges} {turn : Turn}

/-- The connection without what an answer to a pull changes. -/
def erasePull (conn : HttpConnection) : HttpConnection :=
  { conn with
    metricsRequestCharge := 0
    inboundBuffer := []
    inboundDelivered := 0
    bodyEofReplied := false
    pendingRequestBodyReply := false }

theorem of_erasePull (hpull : conn.erasePull = conn'.erasePull) :
    ∃ charge buffer delivered ended pending, conn = { conn' with
      metricsRequestCharge := charge
      inboundBuffer := buffer
      inboundDelivered := delivered
      bodyEofReplied := ended
      pendingRequestBodyReply := pending } := by
  refine ⟨conn.metricsRequestCharge, conn.inboundBuffer, conn.inboundDelivered, conn.bodyEofReplied,
    conn.pendingRequestBodyReply, ?_⟩
  cases conn
  cases conn'
  simpa [erasePull] using hpull

/-- A turn that answers a pull. -/
structure Answered (conn : HttpConnection) (turn : Turn) : Prop where
  pull : turn.1.erasePull = conn.erasePull
  ended : conn.bodyEofReplied = true → turn.1.bodyEofReplied = true
  effects : ∃ effect, turn.2 = [effect] ∧ effect.replies = true

theorem Answered.of_eq (hturn : conn'.Answered turn) (hpull : conn'.erasePull = conn.erasePull)
    (hended : conn.bodyEofReplied = true → conn'.bodyEofReplied = true) : conn.Answered turn :=
  ⟨hturn.pull.trans hpull, fun h => hturn.ended (hended h), hturn.effects⟩

theorem replyRequestBodyChunk_answered (chunk : RequestChunkReply) :
    conn.Answered (conn.replyRequestBodyChunk chunk) := by
  unfold replyRequestBodyChunk
  split
  · exact ⟨rfl, id, _, rfl, rfl⟩
  · exact ⟨rfl, id, _, rfl, rfl⟩

theorem endRequestBody_answered (chunk : RequestChunkReply) :
    conn.Answered (conn.endRequestBody chunk) :=
  (replyRequestBodyChunk_answered chunk).of_eq rfl fun _ => rfl

theorem endRequestBody_ended (chunk : RequestChunkReply) :
    (conn.endRequestBody chunk).1.bodyEofReplied = true :=
  (replyRequestBodyChunk_answered chunk).ended rfl

theorem serveChunkFromBuffer_answered : conn.Answered conn.serveChunkFromBuffer :=
  (replyRequestBodyChunk_answered _).of_eq rfl id

theorem refuseBodyChunk_answered : conn.Answered conn.refuseBodyChunk :=
  ⟨rfl, fun _ => rfl, _, rfl, rfl⟩

/-- A pull finds nothing to answer with and reads. -/
def startsBodyRead (conn : HttpConnection) : Bool :=
  !conn.bodyEofReplied && conn.inboundBuffer = [] && !conn.bodyDrained && conn.bodyReadWant ≠ 0

theorem handleRequestBodyNext_cases :
    conn.Answered conn.handleRequestBodyNext ∧ conn.startsBodyRead = false ∨
      conn.startsBodyRead = true ∧
        conn.handleRequestBodyNext = (conn, [.readBody conn.bodyReadWant]) := by
  unfold handleRequestBodyNext startsBodyRead
  split
  · next hended => exact .inl ⟨replyRequestBodyChunk_answered _, by simp [hended]⟩
  split
  · next hbuffer => exact .inl ⟨serveChunkFromBuffer_answered, by simp [hbuffer]⟩
  split
  · next hdrained => exact .inl ⟨endRequestBody_answered _, by simp [hdrained]⟩
  split
  · next hwant => exact .inl ⟨endRequestBody_answered _, by simp [hwant]⟩
  · next hended hbuffer hdrained hwant =>
    exact .inr ⟨by simp [hended, not_not.1 hbuffer, hdrained, hwant], rfl⟩

/-- Without a body a pull gets the end of it. -/
theorem NoBody.handleRequestBodyNext (h : conn.NoBody) :
    conn.Answered conn.handleRequestBodyNext ∧ conn.handleRequestBodyNext.1.NoBody := by
  have hdrained : conn.bodyDrained = true := by simp [bodyDrained, h.chunked, h.total]
  have hreply : ∀ conn' : HttpConnection, conn'.NoBody → ∀ chunk,
      (conn'.replyRequestBodyChunk chunk).1.NoBody := by
    intro conn' h' chunk
    unfold replyRequestBodyChunk
    split
    · exact { h' with }
    · exact h'
  unfold HttpConnection.handleRequestBodyNext
  by_cases hended : conn.bodyEofReplied = true
  · rw [if_pos hended]
    exact ⟨replyRequestBodyChunk_answered _, hreply _ h _⟩
  rw [if_neg hended, if_neg (not_not.2 h.buffer), if_pos hdrained]
  exact ⟨endRequestBody_answered _, hreply { conn with bodyEofReplied := true } { h with } _⟩

/-- A body read of known length that brought bytes. -/
theorem handleBodyChunkRead_sized {bytes : Bytes} (hsized : conn.inboundChunked = false)
    (hbytes : bytes ≠ []) :
    Answered { conn with inboundReceived := conn.inboundReceived + bytes.length }
      (conn.handleBodyChunkRead charges (.ok bytes)) := by
  unfold handleBodyChunkRead
  dsimp only
  rw [if_neg hbytes, if_neg (by simp [hsized])]
  split
  · exact refuseBodyChunk_answered.of_eq rfl id
  rename_i hcharge
  obtain ⟨_, rfl⟩ := chargeRequest_eq hcharge
  exact serveChunkFromBuffer_answered.of_eq rfl id

/-- A body read that brought nothing. -/
theorem handleBodyChunkRead_nothing {reply : Except CallError Bytes}
    (hreply : reply.toOption.getD [] = []) :
    conn.Answered (conn.handleBodyChunkRead charges reply) := by
  unfold handleBodyChunkRead
  cases reply with
  | error => exact endRequestBody_answered _
  | ok bytes =>
  have hempty : bytes = [] := hreply
  dsimp only
  rw [if_pos hempty]
  exact endRequestBody_answered _

/-- The connection after the decoder has consumed some of its bytes. -/
def consume (conn : HttpConnection) (received consumed : Nat) (raw : Bytes)
    (decoder : ChunkedDecoder) : HttpConnection :=
  { conn with
    inboundReceived := conn.inboundReceived + received
    chunkedRawBuffer := raw.drop consumed
    chunkedDecoder := some decoder }

/-- A read of a chunked body that brought bytes: `base` is the state behind the decoder. -/
inductive ChunkRead (conn base : HttpConnection) (progress : FeedAllResult)
    (decoder : ChunkedDecoder) (turn : Turn) : Prop where
  | served (hprogress : progress = .complete ∨ progress = .needMore) (hturn : base.Answered turn)
  | failed (error : ChunkedError) (hprogress : progress = .failed error)
      (hturn : base.Answered turn) (hended : turn.1.bodyEofReplied = true)
  | refused (hturn : Answered { base with chunkedRawBuffer := [] } turn)
      (hended : turn.1.bodyEofReplied = true)
  | reads (hprogress : progress = .needMore) (hpull : turn.1.erasePull = base.erasePull)
      (hpending : turn.1.pendingRequestBodyReply = conn.pendingRequestBodyReply)
      (heffects : turn.2 = [.readBody (decoder.preferredReadSize conn.bodyReadMax)])

variable {bytes buffer : Bytes}

theorem handleBodyChunkRead_chunked {decoder decoder' : ChunkedDecoder}
    {progress : FeedAllResult} {consumed : Nat} (hchunked : conn.inboundChunked = true)
    (hdecoder : conn.chunkedDecoder = some decoder) (hbytes : bytes ≠ [])
    (hfeed : decoder.feedAll (conn.chunkedRawBuffer ++ bytes) conn.inboundBuffer =
      (progress, consumed, buffer, decoder')) :
    ChunkRead conn
      (conn.consume bytes.length consumed (conn.chunkedRawBuffer ++ bytes) decoder')
        progress decoder'
      (conn.handleBodyChunkRead charges (.ok bytes)) := by
  unfold handleBodyChunkRead
  dsimp only
  rw [if_neg hbytes, if_pos hchunked, hdecoder]
  unfold handleChunkedBytes
  dsimp only
  rw [hfeed]
  dsimp only
  split
  · exact .refused (refuseBodyChunk_answered.of_eq rfl id) rfl
  rename_i hcharge
  obtain ⟨_, rfl⟩ := chargeRequest_eq hcharge
  split
  · split
    · exact .served (.inl rfl) (serveChunkFromBuffer_answered.of_eq rfl id)
    · exact .served (.inl rfl) ((endRequestBody_answered _).of_eq rfl id)
  · exact .failed _ rfl ((endRequestBody_answered _).of_eq rfl id) (endRequestBody_ended _)
  · split
    · exact .served (.inr rfl) (serveChunkFromBuffer_answered.of_eq rfl id)
    · exact .reads rfl rfl rfl rfl

end HttpConnection

variable {crates : Crates} {limits : HttpLimits} {parsed part rest : Bytes}
  {link t : Link} {head : HttpRequestHead} {headLen : Nat} {conn conn' : HttpConnection}

theorem Link.after_answered (link : Link) (hturn : conn.Answered turn) :
    link.after turn = { link with conn := turn.1 } := by
  obtain ⟨_, heffects, hreplies⟩ := hturn.effects
  rw [after, heffects, List.foldl_cons, List.foldl_nil, perform_replies hreplies]

section

variable {decoder : ChunkedDecoder}

section

variable (hpull : conn.erasePull = link.conn.erasePull)

include hpull

theorem Whole.of_pull (h : Whole crates limits parsed link) :
    Whole crates limits parsed { link with conn } := by
  obtain ⟨_, _, _, _, _, rfl⟩ := of_erasePull hpull
  exact { h with }

theorem Ended.of_pull (h : Ended link) : Ended { link with conn } := by
  obtain ⟨_, _, _, _, _, rfl⟩ := of_erasePull hpull
  exact { h with }

theorem Broken.of_pull (h : Broken crates limits parsed link part rest head headLen decoder)
    (hended : link.conn.bodyEofReplied = true → conn.bodyEofReplied = true) :
    Broken crates limits parsed { link with conn } part rest head headLen decoder := by
  obtain ⟨_, _, _, _, _, rfl⟩ := of_erasePull hpull
  exact { h with pulls := .inl h.lane, ended := hended h.ended }

variable (hpulls : link.LaneFree ∨ link.bodyReads = true ∧ conn.pendingRequestBodyReply = true)

include hpulls

theorem Sized.of_pull (h : Sized crates limits parsed link part head headLen) :
    Sized crates limits parsed { link with conn } part head headLen := by
  obtain ⟨_, _, _, _, _, rfl⟩ := of_erasePull hpull
  exact { h with pulls := hpulls }

theorem Decoding.of_pull {headBytes wire out : Bytes}
    (h : Decoding crates limits parsed link headBytes wire out head decoder) :
    Decoding crates limits parsed { link with conn } headBytes wire out head decoder := by
  obtain ⟨_, _, _, _, _, rfl⟩ := of_erasePull hpull
  exact { h with pulls := hpulls }

end

theorem InFlight.of_pull (h : InFlight crates limits link)
    (hpull : conn.erasePull = link.conn.erasePull)
    (hended : link.conn.bodyEofReplied = true → conn.bodyEofReplied = true)
    (hnoBody : link.conn.NoBody → conn.NoBody)
    (hpulls : ∀ {parsed part rest head headLen},
      Streamed crates limits parsed link part rest head headLen →
        link.LaneFree ∨ link.bodyReads = true ∧ conn.pendingRequestBodyReply = true) :
    InFlight crates limits { link with conn } := by
  cases h with
  | buffered parsed h => exact .buffered parsed ⟨h.toWhole.of_pull hpull, hnoBody h.noBody⟩
  | sized _ _ _ _ h => exact .sized _ _ _ _ (h.of_pull hpull (hpulls h.toStreamed))
  | decoding _ _ _ _ _ _ h =>
    exact .decoding _ _ _ _ _ _ (h.of_pull hpull (hpulls h.toStreamed))
  | broken _ _ _ _ _ _ h => exact .broken _ _ _ _ _ _ (h.of_pull hpull hended)

/-- An answer to a pull keeps the phase. -/
theorem Framed.answered (h : Framed crates limits link) (hturn : link.conn.Answered turn)
    (hnoBody : link.conn.NoBody → turn.1.NoBody)
    (hpulls : ∀ {parsed part rest head headLen},
      Streamed crates limits parsed link part rest head headLen →
        link.LaneFree ∨ link.bodyReads = true ∧ turn.1.pendingRequestBodyReply = true) :
    Framed crates limits (link.after turn) := by
  rw [after_answered link hturn]
  obtain ⟨_, _⟩ := turn
  obtain ⟨_, _, _, _, _, rfl⟩ := of_erasePull hturn.pull
  cases h with
  | ended hpre h => exact .ended hpre { h with }
  | stopped hpre h => exact .stopped hpre h
  | inFlight h hwork hpulling =>
    exact .inFlight (h.of_pull hturn.pull hturn.ended hnoBody hpulls) hwork hpulling
  | reading h => exact .reading { h with noBody := hnoBody h.noBody }
  | waiting h => exact .waiting { h with noBody := hnoBody h.noBody }

end

theorem HttpConnection.NoBody.startsBodyRead (h : conn.NoBody) : conn.startsBodyRead = false := by
  simp [HttpConnection.startsBodyRead, bodyDrained, h.chunked, h.total]

/-- A pull that reads, with the lane free. -/
theorem InFlight.startsBodyRead (h : InFlight crates limits link) (hlane : link.LaneFree)
    (hstarts : link.conn.startsBodyRead = true)
    (hpending : link.conn.pendingRequestBodyReply = true) :
    InFlight crates limits { link with reading := some (.body, link.conn.bodyReadWant) } := by
  have hpulls : LaneFree { link with reading := some (.body, link.conn.bodyReadWant) } ∨
      bodyReads { link with reading := some (.body, link.conn.bodyReadWant) } = true ∧
        link.conn.pendingRequestBodyReply = true := .inr ⟨by simp [bodyReads], hpending⟩
  have hwant : 0 < link.conn.bodyReadWant := by
    simp only [HttpConnection.startsBodyRead, Bool.and_eq_true, decide_eq_true_eq] at hstarts
    exact Nat.pos_of_ne_zero hstarts.2
  cases h with
  | buffered _ h => simp [h.noBody.startsBodyRead] at hstarts
  | sized _ _ _ _ h =>
    have hsized : link.conn.bodyReadWant =
        Nat.min (link.conn.inboundTotal - link.conn.inboundReceived) link.conn.bodyReadMax := by
      simp [bodyReadWant, h.chunked]
    have hle : link.conn.bodyReadWant ≤ link.conn.inboundTotal - link.conn.inboundReceived :=
      hsized ▸ min_le_left _ _
    have hmore : link.conn.inboundReceived < link.conn.inboundTotal := by omega
    exact .sized _ _ _ _ { h with
      pulls := hpulls
      lane := .inr ⟨hmore, .inl ⟨_, rfl, hlane.2, hle⟩⟩ }
  | decoding _ _ _ _ _ decoder h =>
    have hstate : decoder.state ≠ .done := by
      intro hdone
      simp [HttpConnection.startsBodyRead, bodyDrained, h.chunked, h.decodes,
        isComplete, hdone] at hstarts
    have hle : link.conn.bodyReadWant ≤ decoder.preferredReadSize link.conn.bodyReadMax := by
      simp [bodyReadWant, h.chunked, h.decodes]
    exact .decoding _ _ _ _ _ _ { h with
      pulls := hpulls
      lane := .inr ⟨hstate, .inl ⟨_, rfl, hlane.2, hle⟩⟩ }
  | broken _ _ _ _ _ _ h => simp [HttpConnection.startsBodyRead, h.ended] at hstarts

/-- A read that is not for a head does not start a request. -/
theorem Ended.read {reader : Reader} (h : Ended link) (hreader : reader ≠ .head) (want : Nat) :
    Ended (link.read reader want) := by
  unfold Link.read
  split
  · exact ⟨by simp [hreader], h.arrived, h.waiting, h.pending, h.closes⟩
  · exact ⟨h.reading, by simp [h.arrived, hreader.symm], h.waiting, h.pending, h.closes⟩

theorem Framed.bodyNextCalled (h : Framed crates limits link) (hstopped : link.stopped = false) :
    Framed crates limits (link.after (link.conn.handleCall .requestBodyNext)) := by
  unfold handleCall
  dsimp only
  split
  · rename_i hpending
    exact h.answered ⟨rfl, id, _, rfl, rfl⟩ id (·.pulls)
  rename_i hpending
  set conn := { link.conn with pendingRequestBodyReply := true : HttpConnection } with hconn
  have hnoBody : link.conn.NoBody → conn.NoBody := fun h => { h with }
  have hfree : ∀ {parsed part rest head headLen},
      Streamed crates limits parsed link part rest head headLen → link.LaneFree :=
    fun hstreamed => hstreamed.pulls.resolve_right fun hbusy => hpending hbusy.2
  rcases handleRequestBodyNext_cases with ⟨hturn, -⟩ | ⟨hstarts, hturn⟩
  · exact h.answered (hturn.of_eq rfl id) (fun h => (hnoBody h).handleRequestBodyNext.2)
      fun hstreamed => .inl (hfree hstreamed)
  have hafter : link.after (conn, [.readBody conn.bodyReadWant]) =
      ({ link with conn } : Link).read .body conn.bodyReadWant := rfl
  have hbody : ¬link.conn.NoBody := fun h => by simp [(hnoBody h).startsBodyRead] at hstarts
  rw [hturn, hafter]
  cases h with
  | reading h | waiting h => exact absurd h.noBody hbody
  | inFlight h hwork hpulling =>
    have hlane : link.LaneFree := by
      cases h with
      | buffered _ h => exact absurd h.noBody hbody
      | sized _ _ _ _ h | decoding _ _ _ _ _ _ h => exact hfree h.toStreamed
      | broken _ _ _ _ _ _ h => exact h.lane
    have h' : InFlight crates limits { link with conn } :=
      h.of_pull rfl id hnoBody fun _ => .inl hlane
    rw [LaneFree.read { link with conn } hlane]
    exact .inFlight (h'.startsBodyRead hlane hstarts rfl) hwork hpulling
  | ended _ h =>
    obtain ⟨hdispatched, hreceived⟩ := read_eq { link with conn } .body conn.bodyReadWant
    have h' : Ended { link with conn } := h.of_pull rfl
    exact .ended (by rwa [hdispatched, hreceived]) (h'.read (by simp) conn.bodyReadWant)
  | stopped _ h => simp [hstopped] at h

theorem Framed.bodyNextSent (h : Framed crates limits link) (hreads : link.bodyReads = false)
    (hstarts : link.conn.startsBodyRead = false) :
    Framed crates limits (link.after link.conn.handleRequestBodyNext) := by
  rcases handleRequestBodyNext_cases with ⟨hturn, -⟩ | ⟨htrue, -⟩
  · refine h.answered hturn (·.handleRequestBodyNext.2) fun hstreamed => .inl ?_
    exact hstreamed.pulls.resolve_right fun hbusy => by simp [hreads] at hbusy
  · simp [hstarts] at htrue

section

variable {index : Nat} {reply : ReadReply} {rest' part' : Bytes} {decoder' : ChunkedDecoder}
  {headBytes wire out : Bytes} {decoder : ChunkedDecoder}

/-- The reply to a read of a body of known length. -/
theorem Sized.read (h : Sized crates limits parsed link part head headLen) (hwork : link.work ≤ 1)
    (hpulling : link.conn.websocket = true → link.pulling = false)
    (harrival : link.arrived[index]? = some (.body, reply)) :
    Framed crates limits ((link.handling index).after
      (link.conn.handleBodyChunkRead charges reply)) := by
  rcases h.lane with hfree | ⟨_, hlane⟩
  · exact absurd harrival hfree.not_handled
  obtain ⟨-, hlength, htransit, hfree⟩ := hlane.handled harrival
  dsimp only at hlength htransit
  rw [hfree.eq]
  -- the read is accounted for before its pull is answered
  set conn : HttpConnection :=
    { link.conn with inboundReceived := link.conn.inboundReceived + reply.bytes.length } with hconn
  have hreceived : link.received = parsed ++ (part ++ reply.bytes ++ []) := by
    rw [h.received, htransit, List.append_nil]
  have hsized : Sized crates limits parsed
      { link with reading := none, arrived := [], conn } (part ++ reply.bytes) head headLen :=
    { h with
      parse := Crates.parseRequestHead_append _ h.parse
      received := hreceived
      pulls := .inl ⟨rfl, rfl⟩
      part_length := by simp [hconn, h.part_length, Nat.add_assoc]
      le := by change link.conn.inboundReceived + reply.bytes.length ≤ link.conn.inboundTotal; omega
      lane := .inl ⟨rfl, rfl⟩ }
  have hturn : conn.Answered (link.conn.handleBodyChunkRead charges reply) := by
    cases reply with
    | error => exact handleBodyChunkRead_nothing rfl
    | ok bytes =>
    by_cases hbytes : bytes = []
    · subst hbytes
      exact handleBodyChunkRead_nothing rfl
    · exact handleBodyChunkRead_sized h.chunked hbytes
  have hframed : Framed crates limits { link with reading := none, arrived := [], conn } :=
    .inFlight (.sized _ _ _ _ hsized) hwork hpulling
  have hnoBody : ¬conn.NoBody := by
    intro hnone
    have htotal : link.conn.inboundTotal = 0 := hnone.total
    omega
  exact hframed.answered hturn (absurd · hnoBody) fun _ => .inl ⟨rfl, rfl⟩

section

variable (h : Decoding crates limits parsed link headBytes wire out head decoder)

include h

/-- What the decoder makes of a read of a chunked body. -/
theorem Decoding.consumes {progress : FeedAllResult} {consumed : Nat}
    (htransit : link.inTransit = bytes)
    (hfeed : decoder.feedAll (link.conn.chunkedRawBuffer ++ bytes) link.conn.inboundBuffer =
      (progress, consumed, buffer, decoder')) :
    (∀ error, progress ≠ .failed error) →
    ∃ wire' out', Decoding crates limits parsed { link with
      reading := none
      arrived := []
      conn := link.conn.consume bytes.length consumed (link.conn.chunkedRawBuffer ++ bytes)
        decoder' } headBytes wire' out' head decoder' := by
  intro hprogress
  obtain ⟨new, -, -, hresult⟩ := feedAll_sound h.fed
    (link.conn.chunkedRawBuffer ++ bytes) link.conn.inboundBuffer
  rw [hfeed] at hresult
  set raw := link.conn.chunkedRawBuffer ++ bytes with hraw
  have hfed : decoder'.Fed (wire ++ raw.take consumed) (out ++ new) ∧
      (decoder'.state = .done ∨ decoder'.Waits (raw.drop consumed)) := by
    cases progress with
    | complete => exact ⟨hresult.1, .inl hresult.2⟩
    | needMore => exact ⟨hresult.1, .inr hresult.2⟩
    | failed error => exact absurd rfl (hprogress error)
  have hreceived : link.received =
      parsed ++ ((headBytes ++ (wire ++ raw.take consumed)) ++ (raw.drop consumed ++ [])) := by
    rw [h.received, htransit, ← hraw]
    simp
  have hparse : crates.parseRequestHead limits (headBytes ++ (wire ++ raw.take consumed)) =
      .complete head headBytes.length := by
    rw [← List.append_assoc]
    exact Crates.parseRequestHead_append _ h.parse
  exact ⟨_, _, { h with
    parse := hparse
    received := hreceived
    pulls := .inl ⟨rfl, rfl⟩
    decodes := rfl
    fed := hfed.1
    waits := hfed.2
    lane := .inl ⟨rfl, rfl⟩ }⟩

/-- A chunked body that fails here, whatever is left of its bytes. -/
theorem Decoding.breaks {raw : Bytes} {received : Nat} (hbase : conn.erasePull = { link.conn with
      inboundReceived := received
      chunkedRawBuffer := raw
      chunkedDecoder := some decoder' : HttpConnection }.erasePull)
    (hstate : decoder'.state ≠ .done) (hended : conn.bodyEofReplied = true) :
    ∃ part rest head headLen, Broken crates limits parsed
      { link with reading := none, arrived := [], conn } part rest head headLen decoder' := by
  obtain ⟨_, _, _, _, _, rfl⟩ := of_erasePull hbase
  exact ⟨_, _, _, _, { h with
    decodes := rfl
    state := hstate
    ended := hended
    pulls := .inl ⟨rfl, rfl⟩
    lane := ⟨rfl, rfl⟩ }⟩

/-- A chunked body of which more is read at once. -/
theorem Decoding.reads (hlane : link.LaneFree)
    (hstate : decoder.state ≠ .done) (hpending : link.conn.pendingRequestBodyReply = true) :
    Decoding crates limits parsed
      { link with reading := some (.body, decoder.preferredReadSize link.conn.bodyReadMax) }
      headBytes wire out head decoder :=
  { h with
    pulls := .inr ⟨by simp [bodyReads], hpending⟩
    lane := .inr ⟨hstate, .inl ⟨_, rfl, hlane.2, le_rfl⟩⟩ }

/-- The reply to a read of a chunked body. -/
theorem Decoding.read (hwork : link.work ≤ 1)
    (hpulling : link.conn.websocket = true → link.pulling = false)
    (harrival : link.arrived[index]? = some (.body, reply)) :
    Framed crates limits ((link.handling index).after
      (link.conn.handleBodyChunkRead charges reply)) := by
  rcases h.lane with hfree | ⟨hstate, hlane⟩
  · exact absurd harrival hfree.not_handled
  obtain ⟨-, hlength, htransit, hfree⟩ := hlane.handled harrival
  rw [hfree.eq]
  set link' : Link := { link with reading := none, arrived := [] } with hlink'
  -- a pull that is answered leaves the body as it is
  have hanswered : ∀ {conn wire out decoder turn}, Decoding crates limits parsed
      { link' with conn } headBytes wire out head decoder →
      conn.websocket = link.conn.websocket → conn.Answered turn →
      Framed crates limits (link'.after turn) := by
    intro conn wire out decoder turn hdecoding hsocket hturn
    have hframed : Framed crates limits { link' with conn } :=
      .inFlight (.decoding _ _ _ _ _ _ hdecoding) hwork (hsocket ▸ hpulling)
    refine hframed.answered hturn (fun hnone => ?_) fun _ => .inl ⟨rfl, rfl⟩
    exact absurd (hnone.chunked.symm.trans hdecoding.chunked) (by simp)
  by_cases hnothing : reply.bytes = []
  · have hreceived : link.received =
        parsed ++ (headBytes ++ wire ++ (link.conn.chunkedRawBuffer ++ [])) := by
      rw [h.received, htransit, hnothing]
    refine hanswered
      { h with received := hreceived, pulls := .inl ⟨rfl, rfl⟩, lane := .inl ⟨rfl, rfl⟩ }
      rfl (handleBodyChunkRead_nothing ?_)
    cases reply <;> exact hnothing
  cases reply with
  | error => exact absurd rfl hnothing
  | ok bytes =>
  have hbytes : bytes ≠ [] := hnothing
  have hwant : bytes.length ≤ decoder.preferredReadSize link.conn.bodyReadMax := hlength
  rcases hfeed : decoder.feedAll (link.conn.chunkedRawBuffer ++ bytes) link.conn.inboundBuffer with
    ⟨progress, consumed, buffer, decoder'⟩
  obtain ⟨_, -, hconsumed, hresult⟩ := feedAll_sound h.fed
    (link.conn.chunkedRawBuffer ++ bytes) link.conn.inboundBuffer
  rw [hfeed] at hconsumed hresult
  set base := link.conn.consume bytes.length consumed (link.conn.chunkedRawBuffer ++ bytes) decoder'
    with hbase
  have hconsumes := h.consumes htransit hfeed
  have hbroken : ∀ {turn raw}, Answered { base with chunkedRawBuffer := raw } turn →
      decoder'.state ≠ .done → turn.1.bodyEofReplied = true →
      Framed crates limits (link'.after turn) := by
    intro turn raw hturn hnotDone hended
    obtain ⟨_, _, _, _, hbroken⟩ := h.breaks hturn.pull hnotDone hended
    rw [after_answered link' hturn]
    exact .inFlight (.broken _ _ _ _ _ _ hbroken) hwork fun htrue =>
      hpulling ((congrArg (·.websocket) hturn.pull).symm.trans htrue)
  cases handleBodyChunkRead_chunked h.chunked h.decodes hbytes hfeed with
  | served hprogress hturn =>
    obtain ⟨wire', out', hdecoding⟩ := hconsumes (by rcases hprogress with rfl | rfl <;> simp)
    exact hanswered hdecoding rfl hturn
  | failed _ hprogress hturn hended =>
    subst hprogress
    exact hbroken hturn hresult hended
  | refused hturn hended =>
    cases progress with
    | complete =>
      -- the last read of a body brings nothing behind it, so nothing is dropped
      have hexact := feedAll_exact link.conn.inboundBuffer h.fed
        (h.waits.resolve_left hstate) hwant (by rw [hfeed])
      rw [hfeed] at hexact
      have hraw : base.chunkedRawBuffer = [] := List.drop_eq_nil_of_le (le_of_eq hexact.symm)
      have hsame : ({ base with chunkedRawBuffer := [] } : HttpConnection) = base := by rw [← hraw]
      obtain ⟨wire', out', hdecoding⟩ := hconsumes (by simp)
      exact hanswered hdecoding rfl (show base.Answered _ from hsame ▸ hturn)
    | needMore => exact hbroken hturn hresult.2.1 hended
    | failed => exact hbroken hturn hresult hended
  | reads hprogress hpull hpending heffects =>
  subst hprogress
  obtain ⟨wire', out', hdecoding⟩ := hconsumes (by simp)
  have hpending' : link.conn.pendingRequestBodyReply = true := by
    rcases h.pulls with hidle | hbusy
    · exact absurd harrival hidle.not_handled
    · exact hbusy.2
  set turn := link.conn.handleBodyChunkRead charges (.ok bytes) with hturn
  have hnext : Decoding crates limits parsed { link' with conn := turn.1 } headBytes wire' out' head
      decoder' := hdecoding.of_pull hpull (.inl ⟨rfl, rfl⟩)
  have hmax : turn.1.bodyReadMax = link.conn.bodyReadMax :=
    congrArg (·.bodyReadMax) hpull
  have hafter : link'.after turn = { link' with
    conn := turn.1
    reading := some (.body, decoder'.preferredReadSize turn.1.bodyReadMax) } := by
    rw [after, heffects, hmax]
    rfl
  rw [hafter]
  exact .inFlight
    (.decoding _ _ _ _ _ _ (hnext.reads ⟨rfl, rfl⟩ hresult.2.1 (hpending.trans hpending')))
    hwork fun htrue => hpulling ((congrArg (·.websocket) hpull).symm.trans htrue)

end

end

end Tina.Http
