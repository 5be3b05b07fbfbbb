import Tina.Http2.Client.Demand
import Tina.Lib.ListUpdate

/-!
The books of a client connection. A ledger keeps what the laws of the connection speak about: the
allocator of stream ids, the requests that may still ask it for one, the connection window, the load
of the outbound queue and the effects so far. An act is one entry in these books and has a price,
the frames that it may add to the load. Every handler is a sequence of acts, and a law of all runs
is read off the seven kinds of acts.
-/

namespace Tina.Http2.Client

open ActiveClientStream
open Lib (sum_map_set sum_map_swapRemove)

structure Ledger where
  nextId : Nat
  exhausted : Bool
  /-- How many requests may still take a stream id: those in the queues, and those in hand. -/
  asked : Nat
  window : Int
  /-- The frames in the queue and, in turns that flush, those that the windows let out. -/
  load : Nat
  effects : List Effect

/-- Every odd number below it has been given out as a stream id. -/
def Ledger.limit (l : Ledger) : Nat :=
  if l.exhausted then l.nextId + 2 else l.nextId

/-- The ids that have been given out, and those that may still be asked for. -/
def Ledger.reach (l : Ledger) : Nat :=
  l.limit + 2 * l.asked

/-- Effects that neither queue a frame nor move the connection window. -/
def Effect.quiet : Effect → Bool
  | .queued _ _ => false
  | .credited streamId _ => streamId ≠ 0
  | _ => true

/-- A frame that neither opens a stream nor carries a body. -/
def Control (frame : Frame) : Prop :=
  frame.ty ≠ frameHeaders ∧ frame.ty ≠ frameData

/-- One entry in the books. The index is its price: what the load may grow by. -/
inductive Act : Nat → Ledger → Ledger → Prop where
  | note {l : Ledger} (effect : Effect) (h : effect.quiet = true) :
      Act 0 l { l with effects := l.effects ++ [effect] }
  | carry {l : Ledger} (n load : Nat) (h : load ≤ l.load + n) : Act n l { l with load }
  /-- Requests are answered without a stream. -/
  | dismiss {l : Ledger} (asked : Nat) (h : asked ≤ l.asked) : Act 0 l { l with asked }
  | control {l : Ledger} (frame : Frame) (place : Option Nat) (h : Control frame) :
      Act 0 l { l with effects := l.effects ++ [.queued frame place] }
  /-- A DATA frame pays for its payload out of the connection window. -/
  | data {l : Ledger} (frame : Frame) (place : Option Nat) (hty : frame.ty = frameData)
      (hroom : frame.payload = [] ∨ frame.payload.length ≤ l.window) :
      Act 0 l { l with
        window := l.window - frame.payload.length
        effects := l.effects ++ [.queued frame place] }
  | credit {l : Ledger} (increment : Nat) :
      Act 0 l { l with
        window := l.window + increment
        effects := l.effects ++ [.credited 0 increment] }
  /-- HEADERS take the next id: `checked_add(2)` on a `u32`. -/
  | opened {l : Ledger} (asked : Nat) (ended : Bool) (block : Http.Bytes) (place : Option Nat)
      (hasked : l.asked = asked + 1) (hfresh : l.exhausted = false) :
      Act 0 l { l with
        nextId := if l.nextId + 2 < 2 ^ 32 then l.nextId + 2 else l.nextId
        exhausted := decide (2 ^ 32 ≤ l.nextId + 2)
        asked
        effects := l.effects ++ [.queued (headersFrame l.nextId ended block) place] }

/-- Acts one after the other, with the sum of their prices. -/
inductive Acts : Nat → Ledger → Ledger → Prop where
  | refl {l} : Acts 0 l l
  | tail {n i l m r} (h : Acts n l m) (hact : Act i m r) : Acts (n + i) l r

section

variable {n i : Nat} {l m r : Ledger}

theorem Act.load_le (hact : Act i l m) : m.load ≤ l.load + i := by
  cases hact with
  | carry _ _ h => exact h
  | _ => exact le_rfl

theorem limit_of_open {id : Nat} : (if decide (2 ^ 32 ≤ id + 2) = true then
      (if id + 2 < 2 ^ 32 then id + 2 else id) + 2
    else if id + 2 < 2 ^ 32 then id + 2 else id) = id + 2 := by
  simp only [decide_eq_true_eq]
  split_ifs <;> omega

theorem Act.reach_le (hact : Act i l m) : m.reach ≤ l.reach := by
  cases hact with
  | dismiss _ h => exact Nat.add_le_add_left (Nat.mul_le_mul_left 2 h) _
  | opened _ _ _ _ hasked hfresh =>
    simp only [Ledger.reach, Ledger.limit, limit_of_open, hfresh, hasked, Bool.false_eq_true,
      if_false]
    omega
  | _ => exact le_rfl

/-- What every act keeps is kept by every sequence of acts. -/
theorem Acts.keeps {P : Ledger → Prop} (hkeep : ∀ {i l m}, Act i l m → P l → P m)
    (h : Acts n l r) (hl : P l) : P r := by
  induction h with
  | refl => exact hl
  | tail _ hact ih => exact hkeep hact (ih hl)

theorem Acts.load_le (h : Acts n l r) : r.load ≤ l.load + n := by
  induction h with
  | refl => exact le_rfl
  | tail _ hact ih =>
    have hlast := hact.load_le
    omega

theorem Acts.reach_le (h : Acts n l r) : r.reach ≤ l.reach :=
  h.keeps (P := (·.reach ≤ l.reach)) (fun hact hle => hact.reach_le.trans hle) le_rfl

theorem Acts.single (hact : Act i l m) : Acts i l m := by
  simpa using Acts.refl.tail hact

theorem Acts.trans (h : Acts n l m) (h' : Acts i m r) : Acts (n + i) l r := by
  induction h' with
  | refl => exact h
  | tail _ hact ih =>
    rw [← Nat.add_assoc]
    exact (ih h).tail hact

/-- A price may be set too high. -/
theorem Acts.mono (h : Acts n l r) (hle : n ≤ i) : Acts i l r := by
  have hraised := h.tail (.carry (i - n) r.load (Nat.le_add_right _ _))
  rwa [Nat.add_sub_cancel' hle] at hraised

end

/-- The books after the effects `past` of earlier turns, with `hand` requests that the handler has
still to place. In a turn that flushes, the frames that are ready count as if they were in the queue
already (`counted`), so that sending one of them moves nothing. -/
def Turn.ledger (turn : Turn) (counted : Bool) (past : List Effect) (hand : Nat) : Ledger where
  nextId := turn.conn.nextStreamId
  exhausted := turn.conn.streamIdExhausted
  asked := hand + (queuedWaiters turn.conn).length
  window := turn.conn.sendWindow
  load := turn.conn.writeQueue.length + if counted then turn.conn.sendable else 0
  effects := past ++ turn.effects

/-- Bounds on the bodies that hold while one message is handled. -/
structure Allowance where
  unsent : Nat
  ends : Nat
  initialWindow : Int

/-- What one flush may send on top of the frames that are ready: the frame that the connection
window cuts short, if there is a body at all, and the ends of bodies. -/
def Allowance.flush (a : Allowance) : Nat :=
  min a.unsent 1 + a.ends

/-- The frames that a message with a demand can add to the load. -/
def Demand.price (a : Allowance) (d : Demand) : Nat :=
  d.replies + d.fresh + d.flushes * a.flush

theorem Demand.price_add (a : Allowance) (d e : Demand) :
    (d + e).price a = d.price a + e.price a := by
  simp only [price, replies_add, fresh_add, flushes_add, Nat.add_mul]
  omega

/-- A connection within an allowance, with the frame size of its server in the range that the
protocol has for it. -/
def Steady (a : Allowance) (conn : Http2ClientConnection) : Prop :=
  (conn.unsentFrames ≤ a.unsent ∧ conn.pendingEnds ≤ a.ends) ∧
    conn.peerInitialStreamWindow ≤ a.initialWindow ∧
      minMaxFrameSize ≤ conn.peerMaxFrameSize ∧ conn.peerMaxFrameSize ≤ maxMaxFrameSize

/-- A turn has led to another one by acts of the given price, which placed `k` of the requests in
hand; the connection is steady at its end. -/
structure Led (a : Allowance) (counted : Bool) (n k : Nat) (turn turn' : Turn) : Prop where
  limits : turn'.conn.limits = turn.conn.limits
  steady : Steady a turn'.conn
  acts : ∀ past hand, Acts n (turn.ledger counted past (hand + k)) (turn'.ledger counted past hand)

/-- A turn has led to another one with the read buffer left alone. -/
structure Moved (a : Allowance) (counted : Bool) (n : Nat) (turn turn' : Turn) : Prop extends
    Led a counted n 0 turn turn' where
  readBuf : turn'.conn.readBuf = turn.conn.readBuf

/-- A turn on a steady connection leads to another one and leaves the read buffer alone. -/
def Moves (a : Allowance) (counted : Bool) (n : Nat) (turn turn' : Turn) : Prop :=
  Steady a turn.conn → Moved a counted n turn turn'

variable {a b : Allowance} {counted : Bool} {n k m j : Nat} {turn turn' turn'' : Turn}

section

theorem Led.trans (h : Led b counted n k turn turn') (h' : Led a counted m j turn' turn'') :
    Led a counted (n + m) (j + k) turn turn'' where
  limits := h'.limits.trans h.limits
  steady := h'.steady
  acts := fun past hand => by
    rw [← Nat.add_assoc]
    exact (h.acts past (hand + j)).trans (h'.acts past hand)

theorem Led.mono (h : Led a counted n k turn turn') (hle : n ≤ m) : Led a counted m k turn turn' :=
  { h with acts := fun past hand => (h.acts past hand).mono hle }

theorem Moves.trans (h : Moves a counted n turn turn') (h' : Moves a counted m turn' turn'') :
    Moves a counted (n + m) turn turn'' := by
  intro hsteady
  have hfirst := h hsteady
  have hsecond := h' hfirst.steady
  exact ⟨hfirst.toLed.trans hsecond.toLed, hsecond.readBuf.trans hfirst.readBuf⟩

theorem Moves.mono (h : Moves a counted n turn turn') (hle : n ≤ m) :
    Moves a counted m turn turn' :=
  fun hsteady => ⟨(h hsteady).toLed.mono hle, (h hsteady).readBuf⟩

/-- What came before cost nothing. -/
theorem Moves.after (h : Moves a counted n turn' turn'') (hquiet : Moves a counted 0 turn turn') :
    Moves a counted n turn turn'' := by
  simpa using hquiet.trans h

/-- The rest costs nothing. -/
theorem Moves.closing (h : Moves a counted 0 turn' turn'') (hfirst : Moves a counted n turn turn') :
    Moves a counted n turn turn'' :=
  hfirst.trans h

/-- A change that is not in the books. -/
theorem Moves.unseen (hlimits : turn'.conn.limits = turn.conn.limits)
    (hreadBuf : turn'.conn.readBuf = turn.conn.readBuf)
    (hsteady : Steady a turn'.conn = Steady a turn.conn)
    (hledger : ∀ past hand, turn'.ledger counted past hand = turn.ledger counted past hand) :
    Moves a counted 0 turn turn' :=
  fun h => ⟨⟨hlimits, hsteady ▸ h, fun past hand => hledger past hand ▸ .refl⟩, hreadBuf⟩

theorem Moves.and_unseen (h : Moves a counted n turn turn')
    (hlimits : turn''.conn.limits = turn'.conn.limits)
    (hreadBuf : turn''.conn.readBuf = turn'.conn.readBuf)
    (hsteady : Steady a turn''.conn = Steady a turn'.conn)
    (hledger : ∀ past hand, turn''.ledger counted past hand = turn'.ledger counted past hand) :
    Moves a counted n turn turn'' :=
  (Moves.unseen hlimits hreadBuf hsteady hledger).closing h

/-- Nothing at all happens, at any price. -/
theorem Moves.refl : Moves a counted n turn turn :=
  (Moves.unseen rfl rfl rfl fun _ _ => rfl).mono (Nat.zero_le n)

theorem Moves.count {update : Http2ClientReport → Http2ClientReport} :
    Moves a counted 0 turn (turn.count update) :=
  .unseen rfl rfl rfl fun _ _ => rfl

theorem ledger_effects {conn : Http2ClientConnection} {effects more past : List Effect}
    {hand : Nat} : (⟨conn, effects ++ more⟩ : Turn).ledger counted past hand =
      { (⟨conn, effects⟩ : Turn).ledger counted past hand with
        effects := past ++ effects ++ more } := by
  simp [Turn.ledger]

theorem Moves.push {effect : Effect} (h : effect.quiet = true) :
    Moves a counted 0 turn (turn.push effect) := by
  refine fun hsteady => ⟨⟨rfl, hsteady, fun past hand => ?_⟩, rfl⟩
  rw [Turn.push, ledger_effects]
  exact .single (.note effect h)

end

section

variable {f : ActiveClientStream → Nat} {idx : Nat} {stream changed : ActiveClientStream}

/-- What the books know of a stream. -/
def ActiveClientStream.uplink (stream : ActiveClientStream) : OutboundBody × Int × Bool × Bool :=
  (stream.outboundBody, stream.sendWindow, stream.requestComplete, stream.requestEndSent)

theorem uplink_congr (h : changed.uplink = stream.uplink) (unit : Nat) :
    changed.sendable unit = stream.sendable unit ∧
      changed.unsentFrames unit = stream.unsentFrames unit ∧
      changed.endPending = stream.endPending := by
  simp only [uplink, Prod.mk.injEq] at h
  simp [sendable, unsentFrames, outboundRemaining, endPending, hasOutbound, h]

/-- A connection with the same server settings and no more to send stays steady. -/
theorem Steady.of_le {conn conn' : Http2ClientConnection} (h : Steady a conn)
    (hunsent : conn'.unsentFrames ≤ conn.unsentFrames)
    (hends : conn'.pendingEnds ≤ conn.pendingEnds)
    (hwindow : conn'.peerInitialStreamWindow = conn.peerInitialStreamWindow)
    (hframe : conn'.peerMaxFrameSize = conn.peerMaxFrameSize) : Steady a conn' := by
  rw [Steady, hwindow, hframe]
  exact ⟨⟨hunsent.trans h.1.1, hends.trans h.1.2⟩, h.2⟩

variable (h : turn.conn.streams[idx]? = some stream)

include h

/-- A sum over the table grows by no more than the one stream does. -/
theorem total_setStream_le_add (hle : f changed ≤ f stream + n) :
    (turn.setStream idx changed).conn.total f ≤ turn.conn.total f + n := by
  have hsum : (turn.setStream idx changed).conn.total f + f stream =
      turn.conn.total f + f changed :=
    sum_map_set f h changed
  omega

theorem total_setStream_le (hle : f changed ≤ f stream) :
    (turn.setStream idx changed).conn.total f ≤ turn.conn.total f :=
  total_setStream_le_add (n := 0) h hle

theorem total_swapRemove_le : (turn.swapRemoveStreamAt idx).conn.total f ≤ turn.conn.total f := by
  have hsum := sum_map_swapRemove f h
  unfold Http2ClientConnection.total
  rw [hsum]
  exact Nat.le_add_left _ _

/-- A stream is changed, and at most `n` more of its frames are let out. -/
theorem Moves.setStream
    (hsendable : changed.sendable turn.conn.limits.unit ≤ stream.sendable turn.conn.limits.unit + n)
    (hsteady : Steady a turn.conn → Steady a (turn.setStream idx changed).conn) :
    Moves a counted n turn (turn.setStream idx changed) := by
  refine fun h' => ⟨⟨rfl, hsteady h', fun _ _ => .single (.carry n _ ?_)⟩, rfl⟩
  have hle : (turn.setStream idx changed).conn.sendable ≤ turn.conn.sendable + n :=
    total_setStream_le_add h hsendable
  cases counted with
  | false => exact Nat.le_add_right _ _
  | true => exact (Nat.add_le_add_left hle _).trans_eq (Nat.add_assoc _ _ _).symm

/-- A change of a stream that leaves its body and its window alone. -/
theorem Moves.setStream_same (hsame : changed.uplink = stream.uplink) :
    Moves a counted 0 turn (turn.setStream idx changed) := by
  obtain ⟨hsendable, hunsent, hend⟩ := uplink_congr hsame turn.conn.limits.unit
  exact .setStream h hsendable.le fun hsteady => hsteady.of_le
    (total_setStream_le h hunsent.le) (total_setStream_le h (by rw [hend])) rfl rfl

theorem Moves.swapRemove : Moves a counted 0 turn (turn.swapRemoveStreamAt idx) := by
  intro hsteady
  refine ⟨⟨rfl, hsteady.of_le (total_swapRemove_le h) (total_swapRemove_le h) rfl rfl,
    fun _ _ => .single (.carry 0 _ ?_)⟩, rfl⟩
  have hle : (turn.swapRemoveStreamAt idx).conn.sendable ≤ turn.conn.sendable :=
    total_swapRemove_le h
  cases counted with
  | false => exact le_rfl
  | true => exact Nat.add_le_add_left hle _

end

end Tina.Http2.Client
