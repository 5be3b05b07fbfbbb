import Tina.Http2.Client.Books

/-!
The outbound queue of a client connection. An admitted request finds room in it; every other frame
is pushed without a look at the capacity. So the queue keeps within its capacity as long as the
messages do not ask for more frames than there is room for, and one read of the transport can break
it.
-/

namespace Tina.Http2.Client

open Link List Http2ClientLimits
open Http (Bytes)
open Lib

/-- The queue has room for every frame that a message can cause. Both sides are known before the
message is handled: what waits in the queue, and what the message demands of the connection that it
finds. -/
def HasRoom (link : Link) (move : Move) : Prop :=
  link.conn.writeQueue.length + (move.demand link.conn).frames link.conn ≤
    link.conn.limits.connectionOutboundQueueCapacity

instance (link : Link) : DecidablePred (HasRoom link) :=
  fun _ => inferInstanceAs (Decidable (_ ≤ _))

section

variable {crates : Crates} {target : Http2Target} {limits : Http2ClientLimits} {link : Link}

/-- The queue is within the capacity that the connection was set up with. -/
structure Link.Kept (limits : Http2ClientLimits) (link : Link) : Prop where
  framed : Framed link.conn
  queue : link.conn.writeQueue.length ≤ limits.connectionOutboundQueueCapacity
  limits : link.conn.limits = limits

theorem Link.Kept.step {link' : Link} {move : Move} (h : link.Kept limits)
    (hroom : HasRoom link move) (hstep : step crates link move = some link') :
    link'.Kept limits := by
  refine ⟨framed_of_step h.framed hstep, ?_, (limits_of_step h.framed hstep).trans h.limits⟩
  rw [HasRoom, h.limits] at hroom
  exact (queue_of_step h.framed hstep).trans hroom

/-- In a run whose messages each find room for the frames that they can cause, the queue stays
within its capacity. The server may send what it likes otherwise, and neither the target nor the
limits nor the crates matter. A request that finds the queue full demands nothing, since it is
refused. -/
theorem queue_within_capacity
    (hrun : Run (Link.step crates) HasRoom (.initial target limits) link) :
    link.conn.writeQueue.length ≤ limits.connectionOutboundQueueCapacity := by
  have hstart : Kept limits (.initial target limits) :=
    ⟨initial_framed target limits, Nat.zero_le _, rfl⟩
  have hkept : Kept limits link :=
    hrun.invariant hstart fun _ _ _ h hroom hstep => h.step hroom hstep
  exact hkept.queue

/-- The bytes of a PING frame. -/
def pingBytes : Bytes :=
  (Frame.mk framePing 0 0 (List.replicate 8 0)).encode

/-- Sixty-five PING frames in one read, while the preface is being written, leave sixty-five frames
in a queue for sixty-four. -/
theorem ping_flood_overfills : default.validate = .ok () ∧
      ∃ link, Run (Link.step asciiCrates) (fun _ _ => True) (.initial (.h2c []) .default) link ∧
        default.connectionOutboundQueueCapacity < link.conn.writeQueue.length := by
  refine ⟨by decide, ?_⟩
  obtain ⟨link, hrun, hlong⟩ := exists_run (step asciiCrates) (fun _ _ => True)
    (.initial (.h2c []) .default)
    [.start, .connected (some 0), .read (some (replicate 65 pingBytes).flatten)]
    (64 < ·.conn.writeQueue.length) (by decide +kernel)
  exact ⟨link, hrun, of_decide_eq_true hlong⟩

/-- A request with a body and sixty PING frames have room: the HEADERS, the DATA and the answers
leave sixty-two frames in the queue, and a read that could bring more than two would have none. -/
theorem queue_within_capacity_of_upload : ∃ link : Link, link.conn.writeQueue.length = 62 ∧
      link.conn.writeQueue.length ≤ default.connectionOutboundQueueCapacity := by
  obtain ⟨link, hrun, hlong⟩ := exists_run (step asciiCrates) HasRoom (.initial (.h2c []) .default)
    [.start, .connected (some 0), .call (.submit ⟨"POST".toList, "/".toList, [], [1, 2, 3]⟩),
      .read (some (replicate 60 pingBytes).flatten)]
    (·.conn.writeQueue.length = 62) (by decide +kernel)
  exact ⟨link, of_decide_eq_true hlong, queue_within_capacity hrun⟩

end

end Tina.Http2.Client
