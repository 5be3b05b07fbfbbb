import Tina.Http.Connection

/-!
What the turns of a connection do to the side that reads requests: a turn that works on a response
leaves it alone, until a response ends and the next request begins.
-/

namespace Tina.Http

open List

/-- Effects of a turn that works on a response. -/
def Effect.responds : Effect → Bool
  | .write _ | .writeClose _ | .pullChunk _ | .cancelSource _ | .close | .stop | .webSocket => true
  | _ => false

/-- Effects whose reply moves a request or its response on. -/
def Effect.work : Effect → Nat
  | .callService _ | .admitEvent _ | .spawnMonitor | .write _ | .writeClose _ | .pullChunk _ => 1
  | _ => 0

open Effect

namespace HttpConnection

/-- The connection without what only its responses change. -/
def eraseResponse (conn : HttpConnection) : HttpConnection :=
  { conn with
    metricsRequestCharge := 0
    metricsResponseCharge := 0
    pendingResponse := []
    pendingBufferedBody := none
    websocket := false
    streamSource := none
    streamBytesRemaining := 0
    streamChunked := false
    willClose := false
    headDeadlineArmed := false }

/-- A turn that works on a response. -/
structure Responds (conn : HttpConnection) (turn : Turn) : Prop where
  inbound : turn.1.eraseResponse = conn.eraseResponse
  willClose : conn.willClose = true → turn.1.willClose = true
  websocket : conn.websocket = true → turn.1.websocket = true
  pulls : turn.1.websocket = true → ∀ source, .pullChunk source ∉ turn.2
  effects : ∀ effect ∈ turn.2, effect.responds = true
  work : (turn.2.map Effect.work).sum ≤ 1

variable {conn conn' : HttpConnection} {crates : Crates} {charges : Charges} {turn : Turn}
  {admitted : Bool} {n : Nat}

/-- A turn of a connection that differs in its response only. -/
theorem Responds.of_eq (hturn : conn'.Responds turn)
    (hinbound : conn'.eraseResponse = conn.eraseResponse)
    (hclose : conn.willClose = true → conn'.willClose = true)
    (hsocket : conn.websocket = true → conn'.websocket = true) : conn.Responds turn where
  __ := hturn
  inbound := hturn.inbound.trans hinbound
  willClose := fun h => hturn.willClose (hclose h)
  websocket := fun h => hturn.websocket (hsocket h)

theorem responds_single (conn : HttpConnection) (effect : Effect) (heffect : effect.responds = true)
    (hpull : ∀ source, effect ≠ .pullChunk source) : conn.Responds (conn, [effect]) where
  inbound := rfl
  willClose := id
  websocket := id
  pulls := fun _ source hmem => hpull source (mem_singleton.1 hmem).symm
  effects := by simpa using heffect
  work := by cases effect <;> simp [work]

theorem responds_stop : conn.Responds (conn, [.stop]) :=
  responds_single _ _ rfl fun _ => by simp

theorem responds_webSocket : conn.Responds (conn, [.webSocket]) :=
  responds_single _ _ rfl fun _ => by simp

/-- Effects that only tell the source and close. -/
theorem responds_cancel {effects : List Effect}
    (hinbound : conn'.eraseResponse = conn.eraseResponse)
    (hclose : conn.willClose = true → conn'.willClose = true)
    (hsocket : conn.websocket = true → conn'.websocket = true)
    (heffects : ∀ effect ∈ effects,
      effect = .close ∨ effect = .stop ∨ ∃ source, effect = .cancelSource source) :
    conn.Responds (conn', effects) where
  inbound := hinbound
  willClose := hclose
  websocket := hsocket
  pulls := fun _ source hmem => by
    rcases heffects _ hmem with heq | heq | ⟨_, heq⟩ <;> cases heq
  effects := fun effect hmem => by
    rcases heffects effect hmem with rfl | rfl | ⟨_, rfl⟩ <;> rfl
  work := by
    have hzero : (effects.map work).sum = 0 := by
      rw [List.sum_eq_zero_iff_forall_eq_nat]
      intro n hn
      obtain ⟨effect, hmem, rfl⟩ := mem_map.1 hn
      rcases heffects effect hmem with rfl | rfl | ⟨_, rfl⟩ <;> rfl
    rw [hzero]
    exact Nat.zero_le _

theorem mem_cancel {source : Option RegisteredAddress} {effect : Effect} :
    effect ∈ source.toList.map cancelSource ↔
      ∃ address, source = some address ∧ effect = .cancelSource address := by
  cases source <;> simp

theorem beginClose_responds : conn.Responds conn.beginClose := by
  refine responds_cancel rfl id id fun effect hmem => ?_
  rcases mem_append.1 hmem with hcancel | hclose
  · obtain ⟨address, -, rfl⟩ := mem_cancel.1 hcancel
    exact .inr (.inr ⟨address, rfl⟩)
  · exact .inl (by simpa using hclose)

/-- Cancel and close, with a state that differs in its response only. -/
theorem cancel_beginClose_responds (source : Option RegisteredAddress)
    (hinbound : conn'.eraseResponse = conn.eraseResponse)
    (hclose : conn.willClose = true → conn'.willClose = true)
    (hsocket : conn.websocket = true → conn'.websocket = true) :
    conn.Responds (conn'.beginClose.1, source.toList.map .cancelSource ++ conn'.beginClose.2) := by
  have hbegin := beginClose_responds.of_eq hinbound hclose hsocket
  refine responds_cancel hbegin.inbound hbegin.willClose hbegin.websocket fun effect hmem => ?_
  rcases mem_append.1 hmem with hcancel | hrest
  · obtain ⟨address, -, rfl⟩ := mem_cancel.1 hcancel
    exact .inr (.inr ⟨address, rfl⟩)
  rcases mem_append.1 hrest with hcancel | hlast
  · obtain ⟨address, -, rfl⟩ := mem_cancel.1 hcancel
    exact .inr (.inr ⟨address, rfl⟩)
  · exact .inl (by simpa using hlast)

theorem abandon_responds : conn.Responds conn.abandon :=
  cancel_beginClose_responds conn.streamSource rfl id id

theorem abandon_work : (conn.abandon.2.map work).sum = 0 := by
  unfold abandon beginClose cancelStreamSource
  cases conn.streamSource <;> simp [releaseRequestAll, releaseResponseAll, work]

theorem writePending_responds : conn.Responds conn.writePending :=
  (responds_single { conn with pendingResponse := [] } (.write conn.pendingResponse) rfl
    fun _ => by simp).of_eq rfl id id

theorem writePendingClose_responds : conn.Responds conn.writePendingClose := by
  unfold writePendingClose
  split
  · exact (responds_single { conn with pendingResponse := [] } (.writeClose conn.pendingResponse)
      rfl fun _ => by simp).of_eq rfl id id
  · exact writePending_responds

theorem queueBuffered_eq (conn : HttpConnection) (headBytes body : Bytes) :
    (conn.queueBuffered headBytes body).eraseResponse = conn.eraseResponse ∧
      (conn.queueBuffered headBytes body).willClose = conn.willClose ∧
      (conn.queueBuffered headBytes body).websocket = conn.websocket := by
  unfold queueBuffered
  split
  · exact ⟨rfl, rfl, rfl⟩
  split <;> exact ⟨rfl, rfl, rfl⟩

theorem startBuffered_responds (headBytes body : Bytes) :
    conn.Responds (conn.startBuffered headBytes body) := by
  obtain ⟨hinbound, hclose, hsocket⟩ := conn.queueBuffered_eq headBytes body
  unfold startBuffered
  dsimp only
  split
  · exact writePendingClose_responds.of_eq hinbound hclose.trans hsocket.trans
  · exact writePending_responds.of_eq hinbound hclose.trans hsocket.trans

theorem startWriting_responds (response : HttpResponse) :
    conn.Responds (conn.startWriting crates response) := by
  unfold startWriting
  split
  · exact startBuffered_responds _ _
  · exact startBuffered_responds _ _
  · exact writePending_responds.of_eq rfl id id
  · exact writePending_responds.of_eq rfl id id
  · exact writePending_responds.of_eq rfl id fun _ => rfl

theorem closing_startWriting (response : HttpResponse) :
    conn.Responds ({ conn with willClose := true : HttpConnection }.startWriting crates response) :=
  (startWriting_responds response).of_eq rfl (fun _ => rfl) id

theorem sendParseError_responds (error : RequestParseError) :
    conn.Responds (conn.sendParseError crates error) :=
  closing_startWriting _

theorem sendParseError_willClose (error : RequestParseError) :
    (conn.sendParseError crates error).1.willClose = true :=
  (startWriting_responds _).willClose rfl

theorem handleServiceOutcome_responds (outcome : CallOutcome HttpResponse) :
    conn.Responds (conn.handleServiceOutcome crates outcome) := by
  unfold handleServiceOutcome
  split
  · exact startWriting_responds _
  · exact closing_startWriting _

theorem handleEventAdmitted_responds (outcome : SendOutcome) :
    conn.Responds (conn.handleEventAdmitted crates outcome) :=
  (startWriting_responds _).of_eq rfl (fun h => by simp [h]) id

theorem handleWroteClose_responds (bytes : Bytes) (written : Nat) (closed : Bool) :
    conn.Responds (conn.handleWroteClose bytes written closed) := by
  unfold handleWroteClose
  split
  · exact beginClose_responds.of_eq rfl id id
  split
  · split
    · exact responds_stop.of_eq rfl id id
    · exact beginClose_responds.of_eq rfl id id
  · exact writePendingClose_responds.of_eq rfl id id

/-- A charge changes nothing but the charge. -/
theorem chargeRequest_eq (hcharge : conn.chargeRequest admitted n = some conn') :
    ∃ charge, conn' = { conn with metricsRequestCharge := charge } := by
  unfold chargeRequest at hcharge
  split at hcharge
  · exact ⟨_, (Option.some.inj hcharge).symm⟩
  split at hcharge <;> cases hcharge
  exact ⟨_, rfl⟩

theorem chargeResponse_eq (hcharge : conn.chargeResponse admitted n = some conn') :
    ∃ charge, conn' = { conn with metricsResponseCharge := charge } := by
  unfold chargeResponse at hcharge
  split at hcharge
  · exact ⟨_, (Option.some.inj hcharge).symm⟩
  split at hcharge <;> cases hcharge
  exact ⟨_, rfl⟩

theorem writeStreamed_responds (framed : Bytes) (n : Nat) :
    conn.Responds (conn.writeStreamed charges framed n) := by
  unfold writeStreamed
  split
  · exact cancel_beginClose_responds conn.streamSource rfl id id
  rename_i hcharge
  obtain ⟨_, rfl⟩ := chargeResponse_eq hcharge
  exact writePending_responds.of_eq rfl id id

/-- A response ended and the connection stays open: the state in which the next request begins
differs in its response only. -/
def Ends (conn : HttpConnection) (crates : Crates) (charges : Charges) (turn : Turn) : Prop :=
  ∃ conn' : HttpConnection, ∃ idle, conn'.eraseResponse = conn.eraseResponse ∧
    conn'.websocket = conn.websocket ∧ turn = conn'.nextRequest crates charges idle

theorem finishResponse_cases {p : Prop} (hinbound : conn'.eraseResponse = conn.eraseResponse)
    (hclose : conn.willClose = true → conn'.willClose = true)
    (hsocket : conn'.websocket = conn.websocket) (hp : conn'.willClose = false → p) :
    conn.Responds (conn'.finishResponse crates charges) ∨
      p ∧ conn.Ends crates charges (conn'.finishResponse crates charges) := by
  unfold finishResponse
  split
  · exact .inl (beginClose_responds.of_eq hinbound hclose hsocket.trans)
  rename_i hwill
  split
  · exact .inl (responds_stop.of_eq hinbound hclose hsocket.trans)
  · exact .inr ⟨hp (by simpa using hwill), conn', _, hinbound, hsocket, rfl⟩

/-- This write ends a response, and the connection stays open. -/
def endsAfterWrite (conn : HttpConnection) (bytes : Bytes) (written : Nat) : Bool :=
  !conn.websocket && 0 < written && bytes.length ≤ written && conn.pendingBufferedBody.isNone &&
    !conn.shouldPull && !conn.willClose

theorem handleWrote_cases (bytes : Bytes) (written : Nat) :
    conn.Responds (conn.handleWrote crates charges bytes written) ∨
      conn.endsAfterWrite bytes written = true ∧
        conn.Ends crates charges (conn.handleWrote crates charges bytes written) := by
  unfold handleWrote
  split
  · exact .inl responds_webSocket
  rename_i hsocket
  split
  · exact .inl (abandon_responds.of_eq rfl id id)
  rename_i hzero
  dsimp only
  split
  · exact .inl (writePending_responds.of_eq rfl id id)
  rename_i hpart
  split
  · split
    · exact .inl (beginClose_responds.of_eq rfl id id)
    rename_i hcharge
    obtain ⟨_, rfl⟩ := chargeResponse_eq hcharge
    exact .inl (writePending_responds.of_eq rfl id id)
  rename_i hbody
  split
  · refine .inl ⟨rfl, id, id, fun h => absurd h hsocket, ?_, ?_⟩
    · intro effect hmem
      obtain ⟨_, -, rfl⟩ := mem_map.1 hmem
      rfl
    · unfold pullNextChunk
      cases (conn.releaseResponse written).streamSource <;> simp [work]
  rename_i hpull
  refine finishResponse_cases rfl id rfl fun hwill => ?_
  have hwill' : conn.willClose = false := hwill
  have hbody' : conn.pendingBufferedBody = none := hbody
  have hpull' : conn.shouldPull = false := eq_false_of_ne_true hpull
  simp [endsAfterWrite, hsocket, hwill', hbody', hpull', Nat.pos_of_ne_zero hzero,
    Nat.le_of_not_lt hpart]

/-- This reply of the source ends a response, and the connection stays open. -/
def endsAfterChunk (conn : HttpConnection) (outcome : CallOutcome ResponseChunkReply) : Bool :=
  (outcome = .replied .eof || outcome = .replied .grpcStatus || outcome = .replied (.chunk [])) &&
    !conn.streamChunked && conn.streamBytesRemaining = 0 && !conn.willClose

theorem finishStreamEof_cases : conn.Responds (conn.finishStreamEof crates charges) ∨
      (conn.streamChunked = false ∧ conn.streamBytesRemaining = 0 ∧ conn.willClose = false) ∧
        conn.Ends crates charges (conn.finishStreamEof crates charges) := by
  unfold finishStreamEof
  dsimp only
  split
  · exact .inl (writePending_responds.of_eq rfl id id)
  rename_i hchunked
  refine finishResponse_cases rfl (fun h => by simp [h]) rfl fun hwill => ?_
  simp only [Bool.or_eq_false_iff, decide_eq_false_iff_not] at hwill
  exact ⟨by simpa using hchunked, by omega, hwill.1⟩

theorem handleStreamChunk_cases (outcome : CallOutcome ResponseChunkReply) :
    conn.Responds (conn.handleStreamChunk crates charges outcome) ∨
      conn.endsAfterChunk outcome = true ∧
        conn.Ends crates charges (conn.handleStreamChunk crates charges outcome) := by
  have heof : ∀ outcome, (outcome = .replied .eof ∨ outcome = .replied .grpcStatus ∨
      outcome = .replied (.chunk [])) → conn.Responds (conn.finishStreamEof crates charges) ∨
        conn.endsAfterChunk outcome = true ∧
          conn.Ends crates charges (conn.finishStreamEof crates charges) := by
    intro outcome heq
    refine finishStreamEof_cases.imp_right fun ⟨⟨hchunked, hzero, hwill⟩, hends⟩ => ⟨?_, hends⟩
    rcases heq with rfl | rfl | rfl <;> simp [endsAfterChunk, hchunked, hzero, hwill]
  unfold handleStreamChunk
  split
  · rename_i bytes
    by_cases hempty : bytes = []
    · rw [if_pos hempty, hempty]
      exact heof _ (.inr (.inr rfl))
    rw [if_neg hempty]
    split
    · exact .inl (writeStreamed_responds _ _)
    · exact .inl ((writeStreamed_responds _ _).of_eq rfl id id)
  · exact heof _ (.inl rfl)
  · exact heof _ (.inr (.inl rfl))
  all_goals exact .inl (cancel_beginClose_responds conn.streamSource rfl id id)

end HttpConnection

end Tina.Http
