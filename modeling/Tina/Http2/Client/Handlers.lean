import Tina.Http2.Client.Outgoing

/-!
The handlers of a client connection in the books: the endings of streams and of the connection, and
the frames of the server. A handler that answers the server pays for its frame; one that brings
window pays for what the window lets out and for the flush.
-/

namespace Tina.Http2.Client

open ActiveClientStream List Moves Demand
open Http (Bytes)

variable {a : Allowance} {counted : Bool} {turn : Turn} {idx : Nat} {stream : ActiveClientStream}
  {outcome : Http2ClientOutcome}

section

theorem rstStreamFrame_control (streamId code : Nat) : Control (rstStreamFrame streamId code) := by
  simp [Control, rstStreamFrame, frameRstStream, frameHeaders, frameData]

theorem windowUpdateFrame_control (streamId increment : Nat) :
    Control (windowUpdateFrame streamId increment) := by
  simp [Control, windowUpdateFrame, frameWindowUpdate, frameHeaders, frameData]

theorem goawayFrame_control (streamId code : Nat) : Control (goawayFrame streamId code) := by
  simp [Control, goawayFrame, frameGoaway, frameHeaders, frameData]

theorem replyTo_moves {waiter : Option Waiter} {reply : Http2ClientReply} :
    Moves a counted 0 turn (replyTo turn waiter reply) := by
  cases waiter with
  | none => exact .refl
  | some => exact .push rfl

theorem settleStreamTerminal_moves :
    Moves a counted 0 turn (settleStreamTerminal turn stream outcome) := by
  unfold settleStreamTerminal
  split
  · exact .push rfl
  · exact replyTo_moves

theorem cancelRequestSource_moves : Moves a counted 0 turn (cancelRequestSource turn stream) := by
  unfold cancelRequestSource
  split
  · exact .refl
  · exact .push rfl

theorem pushFinalStatus_moves {streamId : Nat} {status : Option GrpcStatusCode} :
    Moves a counted 0 turn (pushFinalStatus turn streamId status) := by
  cases status with
  | none => exact .refl
  | some => exact .push rfl

theorem failStream_moves {closeReason : Http2CloseReason} :
    Moves a counted 0 turn (failStream turn idx outcome closeReason) := by
  unfold failStream
  split
  · exact .refl
  next hstream =>
    exact settleStreamTerminal_moves.after ((push rfl).after (count.after
      (cancelRequestSource_moves.after (.swapRemove hstream))))

theorem resetLocally_moves (hstream : turn.conn.streams[idx]? = some stream) (streamId : Nat) :
    Moves a counted 1 turn (resetLocally turn idx stream streamId) :=
  settleStreamTerminal_moves.closing ((push rfl).closing (count.closing
    ((control (rstStreamFrame_control streamId errCancel)).after
      (cancelRequestSource_moves.after (.swapRemove hstream)))))

theorem completeStreamingStream_moves (crates : Crates) :
    Moves a counted 1 turn (completeStreamingStream crates turn idx) := by
  unfold completeStreamingStream
  split
  · exact .refl
  next hstream =>
    split_ifs
    · exact failStream_moves.closing (.control (rstStreamFrame_control _ _))
    · exact (replyTo_moves.after ((push rfl).after (pushFinalStatus_moves.after
        (count.after (.swapRemove hstream))))).mono (Nat.zero_le 1)

theorem deliverToParkedPull_moves (crates : Crates) :
    Moves a counted 1 turn (deliverToParkedPull crates turn idx) := by
  unfold deliverToParkedPull
  split
  · exact .refl
  next hstream =>
    split
    · exact .refl
    split
    · exact (push rfl).closing ((push rfl).closing
        ((control (windowUpdateFrame_control _ _)).after (.setStream_same hstream rfl)))
    · split_ifs
      · exact completeStreamingStream_moves crates
      · exact .refl

theorem completeStream_moves (crates : Crates) :
    Moves a counted 0 turn (completeStream crates turn idx) := by
  unfold completeStream
  split
  · exact .refl
  next hstream =>
    exact replyTo_moves.after (pushFinalStatus_moves.after ((push rfl).after
      (count.after (cancelRequestSource_moves.after (.swapRemove hstream)))))

theorem sendResponseHead_moves : Moves a counted 0 turn (sendResponseHead turn idx) := by
  unfold sendResponseHead
  split
  · exact .refl
  next hstream =>
    exact (push rfl).after (replyTo_moves.after (.setStream_same hstream rfl))

/-- An empty table has nothing to send. -/
theorem settleStreams_moves : Moves a counted 0 turn (settleStreams turn outcome) := by
  have hclear : Moves a counted 0 turn { turn with conn := { turn.conn with streams := [] } } := by
    intro hsteady
    refine ⟨⟨rfl, hsteady.of_le (Nat.zero_le _) (Nat.zero_le _) rfl rfl,
      fun _ _ => .single (.carry 0 _ ?_)⟩, rfl⟩
    refine Nat.add_le_add_left ?_ _
    split_ifs
    · exact Nat.zero_le _
    · exact le_rfl
  unfold settleStreams
  refine after ?_ hclear
  generalize { turn with conn := { turn.conn with streams := [] } } = settled
  induction turn.conn.streams generalizing settled with
  | nil => exact .refl
  | cons _ _ ih =>
    exact (ih _).after (settleStreamTerminal_moves.after cancelRequestSource_moves)

theorem settleQueued_moves : Moves a counted 0 turn (settleQueued turn outcome) := by
  have hclear : Moves a counted 0 turn { turn with conn := clearQueued turn.conn } := by
    refine fun hsteady => ⟨⟨rfl, hsteady, fun _ hand => .single (.dismiss _ ?_)⟩, rfl⟩
    exact Nat.add_le_add_left (Nat.zero_le _) hand
  unfold settleQueued
  refine after ?_ hclear
  generalize { turn with conn := clearQueued turn.conn } = cleared
  induction queuedWaiters turn.conn generalizing cleared with
  | nil => exact .refl
  | cons _ _ ih => exact (ih _).after (.push rfl)

theorem failAll_moves : Moves a counted 0 turn (failAll turn outcome) :=
  (push rfl).after (settleStreams_moves.after settleQueued_moves)

theorem closeWith_moves : Moves a counted 0 turn (closeWith turn outcome) :=
  closeNow_moves.after (settleQueued_moves.after settleStreams_moves)

theorem protocolError_moves {error : Http2ProtocolError} :
    Moves a counted 1 turn (protocolError turn error) :=
  have hsettled := settleStreams_moves.closing ((control (goawayFrame_control _ _)).after count)
  pumpIo_moves.closing (hsettled.and_unseen rfl rfl rfl fun _ _ => rfl)

theorem beginGoawayShutdown_moves : Moves a counted 1 turn (beginGoawayShutdown turn) := by
  unfold beginGoawayShutdown
  split_ifs
  · exact failAll_moves.mono (Nat.zero_le 1)
  · have hsent : Moves a counted 1 turn _ :=
      .control (goawayFrame_control turn.conn.nextStreamId errNoError)
    exact pumpIo_moves.closing (hsent.and_unseen rfl rfl rfl fun _ _ => rfl)

end

section

variable {streams : List ActiveClientStream} {delta : Int}

/-- The windows are moved and nothing else is. -/
theorem shiftWindows_map {β : Type} (f : ActiveClientStream → β)
    (hf : ∀ (stream : ActiveClientStream) window, f { stream with sendWindow := window } =
      f stream) :
    (shiftWindows delta streams).1.map f = streams.map f := by
  induction streams with
  | nil => rfl
  | cons stream _ ih =>
  unfold shiftWindows
  dsimp only
  split_ifs
  · rfl
  · rw [map_cons, map_cons, ih, hf]

theorem sendable_le_unsentFrames (conn : Http2ClientConnection) :
    conn.sendable ≤ conn.unsentFrames := by
  unfold Http2ClientConnection.sendable Http2ClientConnection.unsentFrames
    Http2ClientConnection.total
  induction conn.streams with
  | nil => exact le_rfl
  | cons stream _ ih =>
    rw [map_cons, map_cons, sum_cons, sum_cons]
    exact Nat.add_le_add (ceilDiv_mono (min_le_left _ _)) ih

/-- The windows of all streams are moved: at worst, everything that is unsent is let out. -/
theorem shiftWindows_moves : Moves a counted a.unsent turn { turn with conn := { turn.conn with
    streams := (shiftWindows delta turn.conn.streams).1 } } := by
  intro hsteady
  generalize hshifted : { turn.conn with
    streams := (shiftWindows delta turn.conn.streams).1 } = shifted
  have hunsent : shifted.unsentFrames = turn.conn.unsentFrames := by
    rw [← hshifted]
    exact congrArg List.sum (shiftWindows_map _ fun _ _ => rfl)
  have hends : shifted.pendingEnds = turn.conn.pendingEnds := by
    rw [← hshifted]
    exact congrArg List.sum (shiftWindows_map _ fun _ _ => rfl)
  have hready : shifted.sendable ≤ a.unsent :=
    (sendable_le_unsentFrames shifted).trans (hunsent.trans_le hsteady.1.1)
  subst hshifted
  refine ⟨⟨rfl, hsteady.of_le hunsent.le hends.le rfl rfl, fun _ _ => .single (.carry _ _ ?_)⟩, rfl⟩
  cases counted with
  | false => exact Nat.le_add_right _ _
  | true =>
    refine (Nat.add_le_add_left hready _).trans ?_
    exact Nat.add_le_add_right (Nat.le_add_right _ _) _

variable (hrange : maxI32 ≤ a.initialWindow)

include hrange

theorem initialWindow_moves {value : Nat} (hvalue : ¬ maxI32 < value) : Moves a counted 0 turn
      { conn := { turn.conn with peerInitialStreamWindow := value }
        effects := turn.effects ++ [.initialWindow value] } := by
  refine fun hsteady => ⟨⟨rfl, ⟨hsteady.1, ?_, hsteady.2.2⟩, fun past hand => ?_⟩, rfl⟩
  · exact (Int.not_lt.1 hvalue).trans hrange
  · rw [ledger_effects]
    exact .single (.note _ rfl)

theorem applyInitialWindow_moves (value : Nat) :
    Moves a true (a.unsent + a.flush) turn (applyInitialWindow turn value).1 := by
  unfold applyInitialWindow
  split_ifs with hvalue
  · exact .refl
  dsimp only
  split_ifs with hok
  · exact ((initialWindow_moves hrange hvalue).closing shiftWindows_moves).trans
      flushOutboundData_moves
  · exact shiftWindows_moves.mono (Nat.le_add_right _ _)

/-- Only a new initial window costs something. -/
theorem applySetting_moves (turn : Turn) (id value : Nat)
    (hcounted : id = settingsInitialWindowSize → counted = true) :
    Moves a counted (if id = settingsInitialWindowSize then a.unsent + a.flush else 0) turn
      (applySetting turn id value).1 := by
  by_cases hid : id = settingsInitialWindowSize
  · obtain rfl := hcounted hid
    subst hid
    exact applyInitialWindow_moves hrange value
  rw [if_neg hid]
  unfold applySetting
  rw [if_neg hid]
  split_ifs with htable hsame hpush hzero hstreams hframe hbad
  · exact .refl
  · exact .refl
  · exact .refl
  · exact .refl
  · exact .unseen rfl rfl rfl fun _ _ => rfl
  · exact .refl
  · simp only [Bool.or_eq_true, decide_eq_true_eq, not_or, Nat.not_lt] at hbad
    refine fun hsteady => ⟨⟨rfl, ⟨hsteady.1, hsteady.2.1, hbad⟩, fun past hand => ?_⟩, rfl⟩
    rw [done, ledger_effects]
    exact .single (.note _ rfl)
  · exact .refl

theorem applySettings_moves (turn : Turn) (entries : List (Nat × Nat))
    (hcounted : ∀ entry ∈ entries, entry.1 = settingsInitialWindowSize → counted = true) :
    Moves a counted ((entries.countP (·.1 = settingsInitialWindowSize)) *
      (a.unsent + a.flush)) turn (applySettings turn entries).1 := by
  induction entries generalizing turn with
  | nil => exact .refl
  | cons entry rest ih =>
  obtain ⟨hfirst, hrest⟩ := forall_mem_cons.1 hcounted
  have hone := applySetting_moves hrange turn entry.1 entry.2 hfirst
  rw [countP_cons, Nat.add_mul, Nat.add_comm, ite_mul, Nat.one_mul, Nat.zero_mul]
  simp only [decide_eq_true_eq]
  generalize (if entry.1 = settingsInitialWindowSize then a.unsent + a.flush else 0) =
    price at hone ⊢
  unfold applySettings
  split
  next heq =>
    rw [heq] at hone
    exact hone.mono (Nat.le_add_right _ _)
  next heq =>
    rw [heq] at hone
    exact hone.trans (ih _ hrest)

end

section

variable (hrange : maxI32 ≤ a.initialWindow) {streamId : Nat} {flags : UInt8} {payload : Bytes}

theorem settingsFrame_control (ack : Bool) : Control (settingsFrame ack) := by
  simp [Control, settingsFrame, frameSettings, frameHeaders, frameData]

include hrange in
theorem handleSettings_moves (hcounted : ∀ entry ∈ settingsEntries payload,
      entry.1 = settingsInitialWindowSize → counted = true) :
    Moves a counted (((settingsEntries payload).countP fun entry =>
      entry.1 = settingsInitialWindowSize) * (a.unsent + a.flush) + 1) turn
        (handleSettings turn flags streamId payload).1 := by
  unfold handleSettings
  split_ifs
  · exact .refl
  · exact .refl
  · exact .refl
  · exact .refl
  have hall := applySettings_moves hrange turn (settingsEntries payload) hcounted
  split
  next heq =>
    rw [heq] at hall
    exact hall.mono (Nat.le_add_right _ _)
  next heq =>
    rw [heq] at hall
    exact hall.trans (.control (settingsFrame_control true))

/-- The connection has more window; what the streams may send stays the same. -/
theorem connectionCredit_moves {increment : Nat} {window : Int}
    (h : addWindow turn.conn.sendWindow increment = .ok window) :
    Moves a counted 0 turn
      { conn := { turn.conn with sendWindow := window }
        effects := turn.effects ++ [.credited 0 increment] } := by
  have hwindow : window = turn.conn.sendWindow + increment := by
    unfold addWindow at h
    split_ifs at h
    exact (Except.ok.inj h).symm
  refine fun hsteady => ⟨⟨rfl, hsteady, fun past hand => ?_⟩, rfl⟩
  rw [ledger_effects, hwindow]
  exact .single (.credit increment)

/-- A stream has more window, and lets out no more than the increment. -/
theorem streamCredit_moves {increment : Nat} {window : Int}
    (hstream : turn.conn.streams[idx]? = some stream)
    (h : addWindow stream.sendWindow increment = .ok window) :
    Moves a counted (increment ⌈/⌉ turn.conn.limits.unit) turn
      (turn.setStream idx { stream with sendWindow := window }) := by
  have hwindow : window = stream.sendWindow + increment := by
    unfold addWindow at h
    split_ifs at h
    exact (Except.ok.inj h).symm
  refine .setStream hstream ((ceilDiv_mono ?_).trans ceilDiv_add_le) fun hsteady =>
    hsteady.of_le (total_setStream_le hstream le_rfl) (total_setStream_le hstream le_rfl) rfl rfl
  rw [hwindow]
  simp only [outboundRemaining]
  omega

theorem handleWindowUpdate_moves : Moves a true
    ((if streamId = 0 then 0 else low31 payload ⌈/⌉ turn.conn.limits.unit) + a.flush) turn
      (handleWindowUpdate turn streamId payload).1 := by
  by_cases hid : streamId = 0
  · rw [if_pos hid, Nat.zero_add]
    unfold handleWindowUpdate
    dsimp only
    rw [if_pos hid]
    split_ifs
    · exact .refl
    · exact .refl
    split
    · exact .refl
    next hwindow => exact flushOutboundData_moves.after (connectionCredit_moves hwindow)
  · rw [if_neg hid]
    unfold handleWindowUpdate
    dsimp only
    rw [if_neg hid]
    split_ifs
    · exact .refl
    · exact .refl
    split
    · exact flushOutboundData_moves.mono (Nat.le_add_left _ _)
    next hfound =>
      split
      · exact .refl
      next hwindow =>
        exact ((push (by simp [Effect.quiet, hid])).closing
          (streamCredit_moves (findStream_some hfound) hwindow)).trans flushOutboundData_moves

theorem handleRstStream_moves :
    Moves a counted 0 turn (handleRstStream turn streamId payload).1 := by
  unfold handleRstStream
  split_ifs
  · exact .refl
  · exact .refl
  split
  · exact .refl
  · exact failStream_moves.after ((push rfl).after .count)

theorem handlePing_moves : Moves a counted 1 turn (handlePing turn flags streamId payload).1 := by
  unfold handlePing
  split_ifs
  · exact .refl
  · exact .refl
  · exact .refl
  · exact .control (by simp [Control, framePing, frameHeaders, frameData])

theorem failRefused_moves {lastStreamId fuel : Nat} :
    Moves a counted 0 turn (failRefused lastStreamId outcome fuel idx turn) := by
  induction fuel generalizing idx turn with
  | zero => exact .refl
  | succ _ ih =>
  unfold failRefused
  split
  · exact .refl
  split_ifs
  · exact ih.after failStream_moves
  · exact ih

theorem handleGoaway_moves : Moves a counted 0 turn (handleGoaway turn streamId payload).1 := by
  unfold handleGoaway
  split_ifs
  · exact .refl
  · exact .refl
  · exact failRefused_moves.after (count.after (.unseen rfl rfl rfl fun _ _ => rfl))

end

section

variable (crates : Crates) {streamId : Nat} {flags : UInt8} {payload : Bytes} {block : HeaderBlock}
  {changed : ActiveClientStream} {endStream : Bool}

theorem applyHead_uplink (h : applyHead stream block = .ok changed) :
    changed.uplink = stream.uplink := by
  unfold applyHead at h
  split at h
  · cases h
  · cases hgrpc : stream.grpcUnary <;> simp only [hgrpc] at h <;> cases h <;> rfl

theorem applyTrailers_uplink (h : applyTrailers stream endStream block = .ok changed) :
    changed.uplink = stream.uplink := by
  unfold applyTrailers at h
  cases endStream with
  | false => cases h
  | true =>
  cases hvalid : validateTrailerBlock block <;> simp only [hvalid] at h
  · cases h
  · cases hgrpc : stream.grpcUnary <;> simp only [hgrpc] at h <;> cases h <;> rfl

theorem finishResponse_moves : Moves a counted 1 turn (finishResponse crates turn idx) := by
  unfold finishResponse
  split
  · exact .refl
  next hstream =>
    split_ifs
    · exact (deliverToParkedPull_moves crates).after (.setStream_same hstream rfl)
    · exact (completeStream_moves crates).mono (Nat.zero_le 1)

theorem takeHead_moves (hstream : turn.conn.streams[idx]? = some stream)
    (hsame : changed.uplink = stream.uplink) :
    Moves a counted 0 turn (takeHead turn idx changed) := by
  unfold takeHead
  split_ifs
  · exact sendResponseHead_moves.after (.setStream_same hstream hsame)
  · exact .setStream_same hstream hsame

theorem handleHeaderBlock_moves (hstream : turn.conn.streams[idx]? = some stream) :
    Moves a counted 1 turn (handleHeaderBlock crates turn idx stream endStream block).1 := by
  unfold handleHeaderBlock
  cases stream.responseHeadersSeen with
  | true =>
    rw [if_pos rfl]
    split
    · exact .refl
    next happly =>
      exact (finishResponse_moves crates).after
        (.setStream_same hstream (applyTrailers_uplink happly))
  | false =>
    rw [if_neg Bool.false_ne_true]
    split
    · exact .refl
    next happly =>
      have hhead : Moves a counted 0 turn _ := takeHead_moves hstream (applyHead_uplink happly)
      cases endStream with
      | false => exact hhead.mono (Nat.zero_le 1)
      | true => exact (finishResponse_moves crates).after hhead

theorem handleHeaders_moves :
    Moves a counted 1 turn (handleHeaders crates turn flags streamId payload).1 := by
  unfold handleHeaders
  split_ifs
  · exact .refl
  · exact .refl
  split
  · exact .refl
  next hfound =>
    split
    · exact .refl
    dsimp only
    split
    · exact refl.and_unseen rfl rfl rfl fun _ _ => rfl
    · refine after (handleHeaderBlock_moves crates ?_) (.unseen rfl rfl rfl fun _ _ => rfl)
      exact findStream_some hfound

section

variable (hstream : turn.conn.streams[idx]? = some stream) (hsame : changed.uplink = stream.uplink)

include hstream hsame

theorem receiveStreamed_moves :
    Moves a counted 1 turn (receiveStreamed crates turn idx changed payload endStream) :=
  (deliverToParkedPull_moves crates).after (.setStream_same hstream hsame)

theorem returnStreamCredit_moves :
    Moves a counted 1 turn (returnStreamCredit turn idx changed) := by
  unfold returnStreamCredit
  split_ifs
  · exact (control (windowUpdateFrame_control _ _)).after (.setStream_same hstream hsame)
  · exact (setStream_same hstream hsame).mono (Nat.zero_le 1)

theorem receiveBuffered_moves :
    Moves a counted 1 turn (receiveBuffered crates turn idx changed payload endStream).1 := by
  unfold receiveBuffered
  have hcredited : Moves a counted 1 turn
      (returnStreamCredit turn idx (bufferedStream changed payload)) :=
    returnStreamCredit_moves hstream hsame
  dsimp only
  split_ifs
  · exact failStream_moves.closing ((control (rstStreamFrame_control _ _)).after
      (.setStream_same hstream hsame))
  · exact hcredited
  · exact hcredited
  · exact (completeStream_moves crates).closing hcredited

end

theorem creditPadding_moves {padding : Nat} :
    Moves a counted 1 turn (creditPadding turn streamId padding) := by
  unfold creditPadding
  split_ifs
  · exact .control (windowUpdateFrame_control _ _)
  · exact .refl

theorem creditPadding_streams (turn : Turn) (streamId padding : Nat) :
    (creditPadding turn streamId padding).conn.streams = turn.conn.streams := by
  unfold creditPadding
  split_ifs
  · exact enqueueFrame_streams _ _
  · rfl

theorem receiveData_moves {flowLen : Nat} (hstream : turn.conn.streams[idx]? = some stream) :
    Moves a counted 2 turn (receiveData crates turn idx stream payload flowLen endStream).1 := by
  unfold receiveData
  split_ifs
  · exact .refl
  · exact count.mono (Nat.zero_le 2)
  obtain ⟨drained, hdrained⟩ : ∃ drained,
      drained = drainedStream stream flowLen (flowLen - payload.length) := ⟨_, rfl⟩
  have hsame : drained.uplink = stream.uplink := hdrained ▸ rfl
  have hpadded : (creditPadding turn drained.id (flowLen - payload.length)).conn.streams[idx]? =
      some stream := by
    rw [creditPadding_streams]
    exact hstream
  dsimp only
  rw [← hdrained]
  split_ifs
  · exact creditPadding_moves.trans (receiveStreamed_moves crates hpadded hsame)
  · exact creditPadding_moves.trans (receiveBuffered_moves crates hpadded hsame)

theorem handleData_moves :
    Moves a counted 2 turn (handleData crates turn flags streamId payload).1 := by
  unfold handleData
  split_ifs
  · exact .refl
  split
  · exact .refl
  split_ifs
  · exact .refl
  · exact count.mono (Nat.zero_le 2)
  dsimp only
  split
  · refine mono (n := 1) ?_ (Nat.le_succ 1)
    exact (control (rstStreamFrame_control _ _)).after (.unseen rfl rfl rfl fun _ _ => rfl)
  next hfound =>
    refine after (receiveData_moves crates ?_) (.unseen rfl rfl rfl fun _ _ => rfl)
    exact findStream_some hfound

end

section

variable (crates : Crates) (hrange : maxI32 ≤ a.initialWindow)

include hrange

/-- Every frame of the server costs what its demand says. -/
theorem handleFrame_moves (frame : Frame)
    (hcounted : (frameDemand turn.conn.limits.unit a.unsent frame).flushes ≠ 0 → counted = true) :
    Moves a counted ((frameDemand turn.conn.limits.unit a.unsent frame).price a) turn
      (handleFrame crates turn frame).1 := by
  unfold handleFrame
  unfold frameDemand at hcounted ⊢
  by_cases hdata : frame.ty = frameData
  · simp only [if_pos hdata, price, Nat.zero_mul, Nat.add_zero]
    exact handleData_moves crates
  simp only [if_neg hdata] at hcounted ⊢
  by_cases hsettings : frame.ty = frameSettings
  · simp only [if_pos hsettings, price] at hcounted ⊢
    refine (handleSettings_moves hrange fun entry hmem hid => hcounted ?_).mono ?_
    · exact (countP_pos_iff.2 ⟨entry, hmem, by simpa using hid⟩).ne'
    · rw [Nat.mul_add]
      omega
  simp only [if_neg hsettings] at hcounted ⊢
  by_cases hheaders : frame.ty = frameHeaders
  · simp only [hheaders, decide_true, Bool.true_or, if_true, price, Nat.zero_mul, Nat.add_zero]
    exact handleHeaders_moves crates
  simp only [hheaders, decide_false, Bool.false_or, decide_eq_true_eq, if_false] at hcounted ⊢
  by_cases hping : frame.ty = framePing
  · have hother : frame.ty ≠ frameWindowUpdate ∧ frame.ty ≠ frameRstStream := by
      rw [hping]
      decide
    simp only [if_neg hother.1, if_neg hother.2, if_pos hping, price, Nat.zero_mul, Nat.add_zero]
    exact handlePing_moves
  simp only [if_neg hping] at hcounted ⊢
  by_cases hwindow : frame.ty = frameWindowUpdate
  · simp only [if_pos hwindow, price, Nat.zero_add, Nat.one_mul] at hcounted ⊢
    obtain rfl := hcounted Nat.one_ne_zero
    exact handleWindowUpdate_moves
  split_ifs
  · exact handleRstStream_moves.mono (Nat.zero_le _)
  · exact handleGoaway_moves.mono (Nat.zero_le _)
  · exact .refl

omit hrange

theorem takeFrame_congr {conn conn' : Http2ClientConnection} (hlimits : conn'.limits = conn.limits)
    (hreadBuf : conn'.readBuf = conn.readBuf) : takeFrame conn' = takeFrame conn := by
  simp only [takeFrame, hlimits, hreadBuf]

/-- The demand of a read buffer depends on its bytes and on the limits of the connection. -/
theorem readDemand_congr {unsent fuel : Nat} {conn conn' : Http2ClientConnection}
    (hlimits : conn'.limits = conn.limits) (hreadBuf : conn'.readBuf = conn.readBuf) :
    readDemand unsent fuel conn' = readDemand unsent fuel conn := by
  induction fuel generalizing conn conn' with
  | zero => rfl
  | succ _ ih =>
  unfold readDemand
  rw [takeFrame_congr hlimits hreadBuf]
  split
  next frame rest _ =>
    have hrest : readDemand unsent _ { conn' with readBuf := rest } =
        readDemand unsent _ { conn with readBuf := rest } := ih hlimits rfl
    rw [hrest, hlimits]
  · rfl

theorem one_le_readDemand {unsent fuel : Nat} {conn : Http2ClientConnection} :
    1 ≤ (readDemand unsent fuel conn).price a := by
  induction fuel generalizing conn with
  | zero => simp [readDemand, price]
  | succ _ ih =>
  unfold readDemand
  split
  · rw [price_add]
    exact ih.trans (Nat.le_add_left _ _)
  · simp [price]

include hrange

/-- The frames of a read buffer, with one frame left over for the end of the read. -/
theorem readFrames_led {fuel : Nat} (hsteady : Steady a turn.conn)
    (hcounted : (readDemand a.unsent fuel turn.conn).flushes ≠ 0 → counted = true) :
    ∃ n, Led a counted n 0 turn (readFrames crates fuel turn).1 ∧
      n + 1 ≤ (readDemand a.unsent fuel turn.conn).price a := by
  induction fuel generalizing turn with
  | zero => exact ⟨0, (refl hsteady).toLed, by simp [readDemand, price]⟩
  | succ fuel ih =>
  unfold readFrames
  unfold readDemand at hcounted ⊢
  cases htake : takeFrame turn.conn with
  | error => exact ⟨0, (refl hsteady).toLed, by simp [price]⟩
  | ok found =>
  cases found with
  | none => exact ⟨0, (refl hsteady).toLed, by simp [price]⟩
  | some found =>
  obtain ⟨frame, rest⟩ := found
  simp only [htake] at hcounted ⊢
  rw [price_add]
  generalize htaken : ({ turn with conn := { turn.conn with readBuf := rest } } : Turn) = taken
  have hfirst : Led a counted 0 0 turn taken := by
    rw [← htaken]
    exact ⟨rfl, hsteady, fun _ _ => .refl⟩
  have hrest : { turn.conn with readBuf := rest } = taken.conn := congrArg Turn.conn htaken
  rw [hrest, ← hfirst.limits] at hcounted ⊢
  have hframe := (handleFrame_moves crates hrange frame fun hflush =>
    hcounted (by simp [hflush])) hfirst.steady
  have hled : Led a counted _ 0 turn (handleFrame crates taken frame).1 :=
    hfirst.trans hframe.toLed
  rw [Nat.zero_add] at hled
  split
  next heq =>
    rw [heq] at hled
    exact ⟨_, hled, Nat.add_le_add_left one_le_readDemand _⟩
  next heq =>
    rw [heq] at hframe hled
    have hsame : readDemand a.unsent fuel _ = readDemand a.unsent fuel taken.conn :=
      readDemand_congr hframe.limits hframe.readBuf
    obtain ⟨n, hmore, hprice⟩ := ih hframe.steady fun hflush =>
      hcounted (by simp [← hsame, hflush])
    rw [hsame] at hprice
    exact ⟨_, hled.trans hmore, by omega⟩

omit hrange in
theorem returnConnectionCredit_moves : Moves a counted 1 turn (returnConnectionCredit turn) := by
  unfold returnConnectionCredit
  dsimp only
  split_ifs
  · exact (control (windowUpdateFrame_control _ _)).after (.unseen rfl rfl rfl fun _ _ => rfl)
  · exact .refl

/-- A read costs the frames that it brings, and one more for the answer that closes it. -/
theorem handleRead_led {bytes : Bytes} {d : Demand} (hsteady : Steady a turn.conn)
    (hdemand : d = readDemand a.unsent (turn.conn.readBuf ++ bytes).length
      (readingTurn turn bytes).conn)
    (hcounted : d.flushes ≠ 0 → counted = true) :
    Led a counted (d.price a) 0 turn (handleRead crates turn bytes) := by
  have hreading : Led a counted 0 0 turn (readingTurn turn bytes) :=
    ⟨rfl, hsteady, fun _ _ => .refl⟩
  rw [hdemand] at hcounted ⊢
  obtain ⟨n, hframes, hprice⟩ := readFrames_led crates hrange hreading.steady hcounted
  have hread := hreading.trans hframes
  rw [Nat.zero_add] at hread
  unfold handleRead
  split_ifs
  · refine (mono (n := 0) ?_ (Nat.zero_le _) hsteady).toLed
    exact closeWith_moves.after (.unseen rfl rfl rfl fun _ _ => rfl)
  split
  next heq =>
    rw [heq] at hread
    exact (hread.trans (protocolError_moves hread.steady).toLed).mono hprice
  next read heq =>
    rw [heq] at hread
    have hclosing : Moves a counted 1 read _ :=
      pumpIo_moves.closing (pumpRequestPulls_moves.closing returnConnectionCredit_moves)
    exact (hread.trans (hclosing hread.steady).toLed).mono hprice

end

end Tina.Http2.Client
