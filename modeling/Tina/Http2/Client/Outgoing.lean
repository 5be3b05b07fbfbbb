import Mathlib.Algebra.Order.BigOperators.Group.List
import Tina.Http2.Client.Ledger

/-!
The output of a turn in the books: queued frames, the flush of request bodies, the pulls of request
sources and the pump. A flush is paid for beforehand, by the frames that the stream windows let out;
what it may send beyond them is the one frame that the connection window cuts short and the ends of
bodies.
-/

namespace Tina.Http2.Client

open List ActiveClientStream Turn OutboundBody
open Http (Bytes)

variable {a : Allowance} {counted : Bool} {turn : Turn} {idx : Nat}

section

variable {streamId : Nat} {stream changed : ActiveClientStream} {conn : Http2ClientConnection}

theorem findStream_some {found : Nat × ActiveClientStream}
    (h : findStream conn streamId = some found) : conn.streams[found.1]? = some found.2 := by
  obtain ⟨_, -, hstream⟩ := Option.bind_eq_some_iff.1 h
  obtain ⟨_, hat, rfl⟩ := Option.map_eq_some_iff.1 hstream
  exact hat

theorem enqueueFrame_eq (turn : Turn) (frame : Frame) :
    ∃ pending queue place, queue.length ≤ turn.conn.writeQueue.length + 1 ∧
      enqueueFrame turn frame =
        { conn := { turn.conn with pendingWrite := pending, writeQueue := queue }
          effects := turn.effects ++ [.queued frame place] } := by
  unfold enqueueFrame
  dsimp only
  split_ifs
  · exact ⟨_, _, _, by simp, rfl⟩
  · exact ⟨_, _, _, Nat.le_add_right _ _, rfl⟩
  · exact ⟨_, _, _, Nat.le_add_right _ _, rfl⟩
  · exact ⟨_, _, _, by simp, rfl⟩

theorem enqueueFrame_streams (turn : Turn) (frame : Frame) :
    (enqueueFrame turn frame).conn.streams = turn.conn.streams := by
  obtain ⟨_, _, _, -, heq⟩ := enqueueFrame_eq turn frame
  rw [heq]

/-- A frame is queued: an act without a price says which one, and the load grows by one at most. -/
theorem Moves.enqueue {frame : Frame}
    (h : ∀ (l : Ledger) place, Act 0 l { l with effects := l.effects ++ [.queued frame place] }) :
    Moves a counted 1 turn (enqueueFrame turn frame) := by
  obtain ⟨_, queue, place, hlength, heq⟩ := enqueueFrame_eq turn frame
  rw [heq]
  refine fun hsteady => ⟨⟨rfl, hsteady, fun past hand => ?_⟩, rfl⟩
  have hacts := (Acts.single (h (turn.ledger counted past hand) place)).tail (.carry 1
    (queue.length + if counted then turn.conn.sendable else 0) ?_)
  · rw [ledger_effects]
    rwa [Nat.zero_add] at hacts
  · simp only [ledger]
    omega

theorem Moves.control {frame : Frame} (h : Control frame) :
    Moves a counted 1 turn (enqueueFrame turn frame) :=
  .enqueue fun _ place => .control frame place h

/-- The end of a body takes nothing from the window. -/
theorem Moves.emptyData {frame : Frame} (hty : frame.ty = frameData) (hempty : frame.payload = []) :
    Moves a counted 1 turn (enqueueFrame turn frame) := by
  refine .enqueue fun l place => ?_
  have hact := Act.data (l := l) frame place hty (.inl hempty)
  rwa [hempty, length_nil, Nat.cast_zero, Int.sub_zero] at hact

end

section

variable {m n unit : Nat}

theorem ceilDiv_mono (hle : m ≤ n) : m ⌈/⌉ unit ≤ n ⌈/⌉ unit := by
  rcases Nat.eq_zero_or_pos unit with rfl | hpos
  · simp
  · exact (gc_mul_ceilDiv hpos).monotone_l hle

theorem ceilDiv_add_le : (m + n) ⌈/⌉ unit ≤ m ⌈/⌉ unit + n ⌈/⌉ unit := by
  rcases Nat.eq_zero_or_pos unit with rfl | hpos
  · simp
  · rw [ceilDiv_le_iff_le_mul hpos, Nat.mul_add]
    exact Nat.add_le_add (le_smul_ceilDiv hpos) (le_smul_ceilDiv hpos)

/-- A full piece, or the last one, takes one off the count. -/
theorem ceilDiv_sub_lt (hpos : 0 < unit) (hm : 0 < m) (hle : m ≤ n) (hfull : unit ≤ m ∨ m = n) :
    (n - m) ⌈/⌉ unit + 1 ≤ n ⌈/⌉ unit := by
  have hcover : n ≤ unit * (n ⌈/⌉ unit) := le_smul_ceilDiv hpos
  obtain ⟨count, hcount⟩ : ∃ count, n ⌈/⌉ unit = count + 1 := by
    refine Nat.exists_eq_succ_of_ne_zero fun hzero => ?_
    rw [hzero, Nat.mul_zero] at hcover
    omega
  rw [hcount, Nat.mul_succ] at hcover
  rw [hcount, Nat.add_le_add_iff_right, ceilDiv_le_iff_le_mul hpos]
  omega

end

section

variable {maxChunk : Nat} {stream : ActiveClientStream} {credit : Nat}

/-- The connection window is open, and may cut one frame short before it closes. -/
def Http2ClientConnection.cut (conn : Http2ClientConnection) : Nat :=
  if 0 < conn.sendWindow then 1 else 0

theorem asI32_of_le {n : Nat} (h : n ≤ maxMaxFrameSize) : asI32 n = n := by
  have hsmall : n % 2 ^ 32 = n := Nat.mod_eq_of_lt (h.trans_lt (by decide))
  have hlow : n < 2 ^ 31 := h.trans_lt (by decide)
  simp only [asI32, hsmall]
  rw [if_pos hlow]

theorem chargedStream_remaining (stream : ActiveClientStream) (credit : Nat) :
    (chargedStream stream credit).outboundRemaining = stream.outboundRemaining - credit := by
  simp [chargedStream, outboundRemaining, remaining_eq, unsent_advance]

/-- A body that is framed to its last byte is either ended with it or not complete. -/
theorem chargedStream_endPending (stream : ActiveClientStream) (credit : Nat)
    (hle : credit ≤ stream.outboundRemaining) :
    (chargedStream stream credit).endPending = false := by
  have hremaining := chargedStream_remaining stream credit
  by_cases hlast : credit = stream.outboundRemaining
  · cases hcomplete : stream.requestComplete <;>
      simp [endPending, chargedStream, lastChunk, hcomplete, hlast]
  · have houtbound : (chargedStream stream credit).hasOutbound = true := by
      have hsome : (chargedStream stream credit).outboundRemaining ≠ 0 := by omega
      simpa [hasOutbound, OutboundBody.isEmpty, outboundRemaining] using hsome
    simp [endPending, houtbound]

section

variable (hcredit : flushCredit maxChunk turn.conn stream = credit) (hpos : credit ≠ 0)
  (hmax : maxChunk ≤ maxMaxFrameSize)

include hcredit hpos hmax

/-- What may go into one frame is within both windows. -/
theorem flushCredit_le : (credit : Int) ≤ stream.sendWindow ∧
    (credit : Int) ≤ turn.conn.sendWindow ∧ credit ≤ stream.outboundRemaining := by
  rw [flushCredit, asI32_of_le hmax] at hcredit
  omega

omit hcredit hpos hmax in
theorem chargedStream_sendable_le (unit : Nat) :
    (chargedStream stream credit).sendable unit ≤ stream.sendable unit := by
  refine ceilDiv_mono (min_le_min ?_ ?_)
  · rw [chargedStream_remaining]
    exact Nat.sub_le _ _
  · exact Int.toNat_le_toNat (Int.sub_le_self _ (Int.natCast_nonneg _))

/-- Unless the connection window cuts it short, a frame takes one off what its stream may send. -/
theorem chargedStream_sendable_lt {unit : Nat} (hunit : 0 < unit) (hle : unit ≤ maxChunk)
    (hcut : (credit : Int) ≠ turn.conn.sendWindow) :
    (chargedStream stream credit).sendable unit + 1 ≤ stream.sendable unit := by
  obtain ⟨hwindow, hconn, hremaining⟩ := flushCredit_le hcredit hpos hmax
  rw [flushCredit, asI32_of_le hmax] at hcredit
  have hcharged : min (chargedStream stream credit).outboundRemaining
      (chargedStream stream credit).sendWindow.toNat =
        min stream.outboundRemaining stream.sendWindow.toNat - credit := by
    rw [chargedStream_remaining]
    simp only [chargedStream]
    omega
  rw [sendable, sendable, hcharged]
  exact ceilDiv_sub_lt hunit (by omega) (by omega) (by omega)

/-- One DATA frame: the window of the connection pays for its bytes, and the frames that were ready
pay for its place, unless the connection window is used up by it. -/
theorem sendChunk_moves (hstream : turn.conn.streams[idx]? = some stream)
    (hunit : 0 < turn.conn.limits.unit) (hle : turn.conn.limits.unit ≤ maxChunk) :
    ∃ n, Moves a true n turn (sendChunk turn idx stream credit) ∧
      n + (sendChunk turn idx stream credit).conn.cut ≤ turn.conn.cut := by
  obtain ⟨hwindow, hconn, hremaining⟩ := flushCredit_le hcredit hpos hmax
  obtain ⟨_, queue, place, hlength, heq⟩ := enqueueFrame_eq (chargeStream turn idx stream credit)
    (dataFrame stream.id (lastChunk stream credit) (stream.outboundBody.slice credit))
  obtain ⟨n, hn, hcut⟩ : ∃ n, (chargedStream stream credit).sendable turn.conn.limits.unit + 1 ≤
      stream.sendable turn.conn.limits.unit + n ∧
        n + (if 0 < turn.conn.sendWindow - credit then 1 else 0) ≤ turn.conn.cut := by
    have hopen : turn.conn.cut = 1 := if_pos (by omega)
    rw [hopen]
    by_cases hcut : (credit : Int) = turn.conn.sendWindow
    · refine ⟨1, Nat.add_le_add_right (chargedStream_sendable_le _) 1, ?_⟩
      rw [if_neg (by omega)]
    · refine ⟨0, chargedStream_sendable_lt hcredit hpos hmax hunit hle hcut, ?_⟩
      rw [if_pos (by omega)]
  have hpayload : (stream.outboundBody.slice credit).length = credit := by
    rw [slice_eq, length_take, ← remaining_eq]
    exact min_eq_left hremaining
  have hsum : ((turn.setStream idx (chargedStream stream credit)).conn.total
      (·.sendable turn.conn.limits.unit)) + stream.sendable turn.conn.limits.unit =
        turn.conn.total (·.sendable turn.conn.limits.unit) +
          (chargedStream stream credit).sendable turn.conn.limits.unit :=
    Lib.sum_map_set _ hstream _
  rw [sendChunk, heq]
  refine ⟨n, fun hsteady => ⟨⟨rfl, ?_, fun past hand => ?_⟩, rfl⟩, hcut⟩
  · refine hsteady.of_le (total_setStream_le hstream ?_) (total_setStream_le hstream ?_) rfl rfl
    · refine ceilDiv_mono ?_
      rw [chargedStream_remaining]
      exact Nat.sub_le _ _
    · rw [chargedStream_endPending stream credit hremaining]
      exact Nat.zero_le _
  · have hdata := Act.data (l := turn.ledger true past hand)
      (dataFrame stream.id (lastChunk stream credit) (stream.outboundBody.slice credit)) place rfl
      (.inr (by simpa [dataFrame, hpayload, ledger] using hconn))
    have hacts := (Acts.single hdata).tail (.carry n
      (queue.length + (turn.setStream idx (chargedStream stream credit)).conn.total
        (·.sendable turn.conn.limits.unit)) ?_)
    · rw [ledger_effects]
      simp only [dataFrame, hpayload, Nat.zero_add] at hacts ⊢
      exact hacts
    · have hqueue : queue.length ≤ turn.conn.writeQueue.length + 1 := hlength
      simp only [ledger, if_true, Http2ClientConnection.sendable]
      omega

end

section

variable (hmax : maxChunk ≤ maxMaxFrameSize) (hunit : 0 < turn.conn.limits.unit)
  (hle : turn.conn.limits.unit ≤ maxChunk)

include hmax hunit hle

theorem flushStreamAt_moves (idx : Nat) :
    ∃ n, Moves a true n turn (flushStreamAt maxChunk turn idx).1 ∧
      n + (flushStreamAt maxChunk turn idx).1.conn.cut ≤ turn.conn.cut ∧
      (flushStreamAt maxChunk turn idx).1.conn.limits = turn.conn.limits := by
  have hstill : ∃ n, Moves a true n turn turn ∧ n + turn.conn.cut ≤ turn.conn.cut ∧
      turn.conn.limits = turn.conn.limits := ⟨0, .refl, (Nat.zero_add _).le, rfl⟩
  unfold flushStreamAt
  split_ifs with hwindow
  · exact hstill
  cases hstream : turn.conn.streams[idx]? with
  | none => exact hstill
  | some stream =>
  dsimp only
  split_ifs with houtbound hpark hcredit
  · exact hstill
  · refine ⟨0, ?_, (Nat.zero_add _).le, rfl⟩
    dsimp only
    exact .count
  · exact hstill
  · obtain ⟨n, hmoves, hcut⟩ := sendChunk_moves rfl hcredit hmax hstream hunit hle
    obtain ⟨_, _, _, -, heq⟩ := enqueueFrame_eq
      (chargeStream turn idx stream (flushCredit maxChunk turn.conn stream))
      (dataFrame stream.id (lastChunk stream (flushCredit maxChunk turn.conn stream))
        (stream.outboundBody.slice (flushCredit maxChunk turn.conn stream)))
    exact ⟨n, hmoves, hcut, by rw [sendChunk, heq]; rfl⟩

theorem flushRound_moves (idxs : List Nat) :
    ∃ n, Moves a true n turn (flushRound maxChunk turn idxs).1 ∧
      n + (flushRound maxChunk turn idxs).1.conn.cut ≤ turn.conn.cut ∧
      (flushRound maxChunk turn idxs).1.conn.limits = turn.conn.limits := by
  induction idxs generalizing turn with
  | nil => exact ⟨0, .refl, (Nat.zero_add _).le, rfl⟩
  | cons idx _ ih =>
  obtain ⟨n, hfirst, hcut, hlimits⟩ := flushStreamAt_moves (a := a) hmax hunit hle idx
  obtain ⟨m, hrest, hcuts, hsame⟩ := ih (hlimits ▸ hunit) (hlimits ▸ hle)
  refine ⟨n + m, hfirst.trans hrest, ?_, hsame.trans hlimits⟩
  simp only [flushRound]
  omega

theorem flushRounds_moves (fuel : Nat) : ∃ n, Moves a true n turn (flushRounds maxChunk fuel turn) ∧
      n + (flushRounds maxChunk fuel turn).conn.cut ≤ turn.conn.cut := by
  induction fuel generalizing turn with
  | zero => exact ⟨0, .refl, (Nat.zero_add _).le⟩
  | succ fuel ih =>
  obtain ⟨n, hround, hcut, hlimits⟩ := flushRound_moves (a := a) hmax hunit hle
    (range turn.conn.streams.length)
  unfold flushRounds
  split_ifs with hwindow
  · exact ⟨0, .refl, (Nat.zero_add _).le⟩
  dsimp only
  split_ifs with hprogress
  · obtain ⟨m, hrest, hcuts⟩ := ih (hlimits ▸ hunit) (hlimits ▸ hle)
    exact ⟨n + m, hround.trans hrest, by omega⟩
  · exact ⟨n, hround, hcut⟩

end

section

/-- Streams that have nothing to send. -/
def Drained (turn : Turn) : Prop :=
  ∀ stream ∈ turn.conn.streams, stream.hasOutbound = false

theorem flushStreamAt_drained (h : Drained turn) (maxChunk idx : Nat) :
    flushStreamAt maxChunk turn idx = (turn, false) := by
  unfold flushStreamAt
  split_ifs
  · rfl
  split
  · rfl
  next stream hstream => simp [h stream (mem_of_getElem? hstream)]

theorem flushRound_drained (h : Drained turn) (maxChunk : Nat) (idxs : List Nat) :
    flushRound maxChunk turn idxs = (turn, false) := by
  induction idxs with
  | nil => rfl
  | cons _ _ ih => simp [flushRound, flushStreamAt_drained h, ih]

theorem flushRounds_drained (h : Drained turn) (maxChunk fuel : Nat) :
    flushRounds maxChunk fuel turn = turn := by
  cases fuel with
  | zero => rfl
  | succ => simp [flushRounds, flushRound_drained h]

theorem drained_of_unsentFrames (hunit : 0 < turn.conn.limits.unit)
    (h : turn.conn.unsentFrames = 0) : Drained turn := by
  intro stream hmem
  have hzero : stream.unsentFrames turn.conn.limits.unit = 0 :=
    Nat.le_zero.1 ((List.le_sum_of_mem (mem_map_of_mem hmem)).trans_eq h)
  have hnothing : stream.outboundRemaining = 0 := by
    have hcover : stream.outboundRemaining ≤
        turn.conn.limits.unit * stream.unsentFrames turn.conn.limits.unit := le_smul_ceilDiv hunit
    rw [hzero, Nat.mul_zero] at hcover
    exact Nat.le_zero.1 hcover
  simpa [hasOutbound, OutboundBody.isEmpty, outboundRemaining] using hnothing

end

theorem length_pendingEnd (conn : Http2ClientConnection) :
    (pendingEnd conn).length = conn.pendingEnds := by
  rw [pendingEnd, length_map, ← countP_eq_length_filter, Http2ClientConnection.pendingEnds,
    Http2ClientConnection.total]
  induction conn.streams with
  | nil => rfl
  | cons stream _ ih =>
    cases hpending : stream.endPending with
    | false =>
      rw [countP_cons_of_neg (by simpa [endPending] using hpending), map_cons, sum_cons,
        hpending, ih]
      exact (Nat.zero_add _).symm
    | true =>
      rw [countP_cons_of_pos (by simpa [endPending] using hpending), map_cons, sum_cons,
        hpending, ih]
      exact Nat.add_comm _ _

theorem endStream_moves (turn : Turn) (streamId : Nat) :
    Moves a counted 1 turn (endStream turn streamId) := by
  unfold endStream
  cases hfound : findStream turn.conn streamId with
  | none => exact .emptyData rfl rfl
  | some found =>
    have hstream := findStream_some hfound
    refine (Moves.emptyData rfl rfl).after (.setStream hstream le_rfl fun hsteady => ?_)
    exact hsteady.of_le (total_setStream_le hstream le_rfl)
      (total_setStream_le hstream (by simp [endPending])) rfl rfl

theorem endStreams_moves (ids : List Nat) (turn : Turn) :
    Moves a counted ids.length turn (ids.foldl endStream turn) := by
  induction ids generalizing turn with
  | nil => exact .refl
  | cons id rest ih =>
    rw [length_cons, Nat.add_comm]
    exact (endStream_moves turn id).trans (ih _)

/-- A flush sends what was ready, the frame that the connection window cuts short if there is a body
to send, and the ends of the bodies that were only waiting for it. -/
theorem flushOutboundData_moves : Moves a true a.flush turn (flushOutboundData turn) := by
  intro hsteady
  obtain ⟨flushed, hflushed⟩ : ∃ flushed, flushed =
      if 0 < min turn.conn.limits.maxFrameSize turn.conn.peerMaxFrameSize then
        flushRounds (min turn.conn.limits.maxFrameSize turn.conn.peerMaxFrameSize)
          turn.conn.sendWindow.toNat turn
      else turn := ⟨_, rfl⟩
  have hrounds : Moves a true (min a.unsent 1) turn flushed := by
    rw [hflushed]
    split_ifs with hchunk
    · have hunit : 0 < turn.conn.limits.unit :=
        lt_min (hchunk.trans_le (min_le_left _ _)) (by decide)
      have hle : turn.conn.limits.unit ≤
          min turn.conn.limits.maxFrameSize turn.conn.peerMaxFrameSize :=
        min_le_min_left _ hsteady.2.2.1
      rcases Nat.eq_zero_or_pos a.unsent with hnothing | hbody
      · have hunsent : turn.conn.unsentFrames = 0 := Nat.le_zero.1 (hnothing ▸ hsteady.1.1)
        rw [flushRounds_drained (drained_of_unsentFrames hunit hunsent)]
        exact .refl
      · obtain ⟨n, hmoves, hcut⟩ := flushRounds_moves
          ((min_le_right _ _).trans hsteady.2.2.2) hunit hle turn.conn.sendWindow.toNat
        have hone : turn.conn.cut ≤ 1 := by
          unfold Http2ClientConnection.cut
          split_ifs <;> omega
        exact hmoves.mono (by omega)
    · exact .refl
  have heq : flushOutboundData turn = (pendingEnd flushed.conn).foldl endStream flushed := by
    rw [hflushed]
    rfl
  have hflush := hrounds hsteady
  have hends : (pendingEnd flushed.conn).length ≤ a.ends := by
    rw [length_pendingEnd]
    exact hflush.steady.1.2
  rw [heq]
  exact hrounds.trans ((endStreams_moves _ flushed).mono hends) hsteady

end

theorem pumpRequestPull_moves : Moves a counted 0 turn (pumpRequestPull turn idx) := by
  unfold pumpRequestPull
  split
  · exact .refl
  next stream hstream =>
    split
    · exact .refl
    · split_ifs
      · exact .refl
      · exact (Moves.push rfl).after (.setStream_same hstream rfl)

theorem pumpRequestPulls_moves : Moves a counted 0 turn (pumpRequestPulls turn) := by
  unfold pumpRequestPulls
  generalize List.range turn.conn.streams.length = idxs
  induction idxs generalizing turn with
  | nil => exact .refl
  | cons _ _ ih => exact ih.after pumpRequestPull_moves

section

theorem coalesce_length (maxFrameSize : Nat) (next : Bytes) (queue : List Bytes) :
    (coalesce maxFrameSize next queue).2.length ≤ queue.length := by
  induction queue generalizing next with
  | nil => exact le_rfl
  | cons _ _ ih =>
  unfold coalesce
  split_ifs
  · exact (ih _).trans (Nat.le_succ _)
  · exact le_rfl

theorem promoteQueuedWrite_eq (conn : Http2ClientConnection) :
    ∃ pending queue, queue.length ≤ conn.writeQueue.length ∧
      promoteQueuedWrite conn = { conn with pendingWrite := pending, writeQueue := queue } := by
  unfold promoteQueuedWrite
  split_ifs
  · exact ⟨_, _, le_rfl, rfl⟩
  cases hqueue : conn.writeQueue with
  | nil => exact ⟨conn.pendingWrite, [], le_rfl, by simp [← hqueue]⟩
  | cons next rest => exact ⟨_, _, (coalesce_length _ next rest).trans (Nat.le_succ _), rfl⟩

theorem promoteQueuedWrite_moves :
    Moves a counted 0 turn { turn with conn := promoteQueuedWrite turn.conn } := by
  obtain ⟨_, queue, hlength, heq⟩ := promoteQueuedWrite_eq turn.conn
  rw [heq]
  exact fun hsteady =>
    ⟨⟨rfl, hsteady, fun _ _ => .single (.carry 0 _ (Nat.add_le_add_right hlength _))⟩, rfl⟩

theorem closeNow_moves : Moves a counted 0 turn (closeNow turn) := by
  unfold closeNow
  split_ifs
  · exact .push rfl
  · exact .push rfl

theorem writePending_moves : Moves a counted 0 turn (writePending turn) := by
  unfold writePending
  dsimp only
  split_ifs
  · exact .refl
  · exact closeNow_moves
  · exact .refl
  · exact (Moves.push rfl).after (.unseen rfl rfl rfl fun _ _ => rfl)

theorem writeMore_moves : Moves a counted 0 turn (writeMore turn) := by
  unfold writeMore
  split_ifs
  · exact .refl
  · exact writePending_moves.after promoteQueuedWrite_moves
  · exact writePending_moves

theorem armRead_moves {duplex hasOutbound : Bool} :
    Moves a counted 0 turn (armRead duplex hasOutbound turn) := by
  unfold armRead readMore
  split_ifs
  · exact .refl
  · exact (Moves.push rfl).after (.unseen rfl rfl rfl fun _ _ => rfl)
  · exact .refl

theorem pumpIo_moves : Moves a counted 0 turn (pumpIo turn) := by
  unfold pumpIo
  dsimp only
  split_ifs
  · exact .refl
  · exact armRead_moves.after writeMore_moves
  · exact writeMore_moves
  · exact closeNow_moves
  · exact armRead_moves

end

end Tina.Http2.Client
