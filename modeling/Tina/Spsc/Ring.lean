import Mathlib.Data.Nat.ModEq
import Tina.Lib.Fifo

/-!
The ring of the single-producer single-consumer mailbox. Its two cursors run through a machine word
and wrap; a mask takes a cursor to its slot. A push, a pop and a close each run as one step.
-/

namespace Tina.Spsc

open Lib List BitVec Nat

variable {w : Nat} {T : Type}

/-- A slot that is `none` is not initialized. The producer bit of `state` and the consumer flag are
set within a call only. -/
structure SpscMailbox (w : Nat) (T : Type) where
  capacity : BitVec w
  slotMask : BitVec w
  slots : List (Option T)
  head : BitVec w
  tail : BitVec w
  closed : Bool

namespace SpscMailbox

def new (capacity : BitVec w) : Option (SpscMailbox w T) :=
  if 0 < capacity.toNat ∧ capacity.toNat.isPowerOfTwo then
    some { capacity, slotMask := capacity - 1, slots := List.replicate capacity.toNat none
           head := 0, tail := 0, closed := false }
  else none

def slot (mailbox : SpscMailbox w T) (cursor : BitVec w) : Nat :=
  (cursor &&& mailbox.slotMask).toNat

def trySend (mailbox : SpscMailbox w T) (message : T) : Fifo.Answer T × SpscMailbox w T :=
  if mailbox.closed then (.closed (some message), mailbox)
  else if mailbox.capacity ≤ mailbox.tail - mailbox.head then (.full (some message), mailbox)
  else (.done, { mailbox with
    slots := mailbox.slots.set (mailbox.slot mailbox.tail) (some message)
    tail := mailbox.tail + 1 })

/-- `none`: a slot is read that was not written. -/
def recv (mailbox : SpscMailbox w T) : Option (Fifo.Answer T) × SpscMailbox w T :=
  if mailbox.head = mailbox.tail then (some (.popped none), mailbox)
  else (mailbox.slots[mailbox.slot mailbox.head]?.join.map fun message => .popped (some message),
    { mailbox with
      slots := mailbox.slots.set (mailbox.slot mailbox.head) none
      head := mailbox.head + 1 })

def close (mailbox : SpscMailbox w T) : SpscMailbox w T :=
  { mailbox with closed := true }

/-- The loop of `Drop`: the messages that are dropped. -/
def dropFrom (mailbox : SpscMailbox w T) : Nat → BitVec w → Option (List T)
  | 0, _ => none
  | fuel + 1, cursor =>
    if cursor = mailbox.tail then some []
    else do
      let message ← mailbox.slots[mailbox.slot cursor]?.join
      return message :: (← mailbox.dropFrom fuel (cursor + 1))

def drop (mailbox : SpscMailbox w T) : Option (List T) :=
  mailbox.dropFrom (2 ^ w) mailbox.head

end SpscMailbox

inductive Op (T : Type) where
  | push (message : T)
  | pop
  | close

def Op.fifo : Op T → Fifo.Op T
  | .push message => .push message
  | .pop => .pop
  | .close => .close

def SpscMailbox.step (mailbox : SpscMailbox w T) : Op T → Option (Fifo.Answer T) × SpscMailbox w T
  | .push message => (mailbox.trySend message).map some id
  | .pop => mailbox.recv
  | .close => (some .done, mailbox.close)

/-- After `n` pops, the slots from `head` on hold the items, and `tail` is as far ahead. -/
structure Represents (k n : Nat) (mailbox : SpscMailbox w T) (items : List T) : Prop where
  fits : k < w
  capacity : mailbox.capacity.toNat = 2 ^ k
  mask : mailbox.slotMask.toNat = 2 ^ k - 1
  length : mailbox.slots.length = 2 ^ k
  bounded : items.length ≤ 2 ^ k
  head : mailbox.head = BitVec.ofNat w n
  tail : mailbox.tail = BitVec.ofNat w (n + items.length)
  items : ∀ i item, items[i]? = some item → mailbox.slots[(n + i) % 2 ^ k]? = some (some item)

/-- The queue that a ring with these items stands for. -/
def SpscMailbox.queue (mailbox : SpscMailbox w T) (k : Nat) (items : List T) : Fifo T :=
  ⟨2 ^ k, items, 0, mailbox.closed⟩

open SpscMailbox

def StandsFor (k : Nat) (mailbox : SpscMailbox w T) (q : Fifo T) : Prop :=
  ∃ n items, q = mailbox.queue k items ∧ Represents k n mailbox items

/-- Less than a whole round apart, two slots are not the same. -/
theorem slot_ne {k n i j : Nat} (hi : i < 2 ^ k) (hj : j < 2 ^ k) (hne : i ≠ j) :
    (n + i) % 2 ^ k ≠ (n + j) % 2 ^ k :=
  fun heq => hne (ModEq.eq_of_lt_of_lt (ModEq.add_left_cancel' n heq) hi hj)

theorem ofNat_succ (n : Nat) : BitVec.ofNat w (n + 1) = BitVec.ofNat w n + 1 :=
  ofNat_add ..

namespace Represents

variable {k n : Nat} {mailbox : SpscMailbox w T} {items : List T} (h : Represents k n mailbox items)

include h

theorem slot_eq (m : Nat) : mailbox.slot (BitVec.ofNat w m) = m % 2 ^ k := by
  rw [slot, toNat_and, h.mask, and_two_pow_sub_one_eq_mod,
    toNat_ofNat, mod_mod_of_dvd _ (pow_dvd_pow 2 h.fits.le)]

theorem length_lt : items.length < 2 ^ w :=
  lt_of_le_of_lt h.bounded (Nat.pow_lt_pow_right (by decide) h.fits)

/-- Cursors that are less than a word apart do not meet. -/
theorem cursor_sub (i j : Nat) (hij : i ≤ j) (hj : j ≤ items.length) :
    (BitVec.ofNat w (n + j) - BitVec.ofNat w (n + i)).toNat = j - i := by
  obtain ⟨d, rfl⟩ := Nat.exists_eq_add_of_le hij
  have hlt := h.length_lt
  rw [← add_assoc, ofNat_add, BitVec.add_comm, add_sub_cancel, toNat_ofNat, mod_eq_of_lt (by omega)]
  omega

theorem cursor_eq_tail {i : Nat} (hi : i ≤ items.length) :
    BitVec.ofNat w (n + i) = mailbox.tail ↔ i = items.length := by
  have hsub := h.cursor_sub i items.length hi le_rfl
  rw [← h.tail] at hsub
  constructor
  · intro heq
    rw [heq, BitVec.sub_self] at hsub
    simp at hsub
    omega
  · rintro rfl
    exact h.tail.symm

theorem push (message : T) :
    (mailbox.step (.push message)).1 = some ((mailbox.queue k items).step (.push message)).1 ∧
      StandsFor k (mailbox.step (.push message)).2
        ((mailbox.queue k items).step (.push message)).2 := by
  have hfull : mailbox.capacity ≤ mailbox.tail - mailbox.head ↔ 2 ^ k ≤ items.length := by
    have hsub := h.cursor_sub 0 items.length (zero_le _) le_rfl
    rw [← h.tail, add_zero, ← h.head] at hsub
    rw [BitVec.le_def, hsub, h.capacity, Nat.sub_zero]
  have hqueue : (mailbox.queue k items).step (.push message) =
      if mailbox.closed then (.closed (some message), mailbox.queue k items)
      else if 2 ^ k ≤ items.length then (.full (some message), mailbox.queue k items)
      else (.done, mailbox.queue k (items ++ [message])) := rfl
  simp only [hqueue, step, SpscMailbox.trySend, hfull]
  by_cases hclosed : mailbox.closed = true
  · rw [if_pos hclosed, if_pos hclosed]
    exact ⟨rfl, n, items, rfl, h⟩
  rw [if_neg hclosed, if_neg hclosed]
  by_cases hroom : 2 ^ k ≤ items.length
  · rw [if_pos hroom, if_pos hroom]
    exact ⟨rfl, n, items, rfl, h⟩
  rw [if_neg hroom, if_neg hroom]
  refine ⟨rfl, n, items ++ [message], rfl,
    { h with length := ?_, bounded := ?_, tail := ?_, items := ?_ }⟩
  · simpa using h.length
  · rw [length_append]
    exact Nat.lt_of_not_le hroom
  · rw [length_append, length_singleton, ← add_assoc, ofNat_succ, ← h.tail]
    rfl
  intro i item hitem
  have hslot : (n + items.length) % 2 ^ k < mailbox.slots.length := by
    rw [h.length]
    exact mod_lt _ (Nat.two_pow_pos k)
  rw [h.tail, h.slot_eq]
  rcases lt_or_ge i items.length with hold | hnew
  · rw [getElem?_append_left hold] at hitem
    refine (getElem?_set_ne ?_).trans (h.items i item hitem)
    exact slot_ne (Nat.lt_of_not_le hroom) (by omega) (by omega)
  rw [getElem?_append_right hnew] at hitem
  obtain ⟨hlast, rfl⟩ := List.getElem?_eq_some_iff.1 hitem
  obtain rfl : i = items.length := by simp at hlast; omega
  refine (getElem?_set_self hslot).trans ?_
  simp

theorem pop : (mailbox.step .pop).1 = some ((mailbox.queue k items).step .pop).1 ∧
    StandsFor k (mailbox.step .pop).2 ((mailbox.queue k items).step .pop).2 := by
  have hempty := h.cursor_eq_tail (zero_le _)
  rw [add_zero, ← h.head] at hempty
  unfold step recv
  cases items with
  | nil =>
    rw [if_pos (hempty.2 rfl)]
    exact ⟨rfl, n, [], rfl, h⟩
  | cons item rest =>
  have hbounded : rest.length < 2 ^ k := h.bounded
  have hfirst : mailbox.slots[mailbox.slot mailbox.head]? = some (some item) := by
    rw [h.head, h.slot_eq]
    exact h.items 0 item rfl
  rw [if_neg fun heq => succ_ne_zero _ (hempty.1 heq).symm, hfirst]
  refine ⟨rfl, n + 1, rest, rfl, { h with
    length := ?_, bounded := hbounded.le, head := ?_, tail := ?_, items := ?_ }⟩
  · simpa using h.length
  · rw [ofNat_succ, ← h.head]
  · rw [h.tail, length_cons, add_assoc, add_comm 1]
  intro i other hother
  have hlt : i < rest.length := (List.getElem?_eq_some_iff.1 hother).1
  rw [h.head, h.slot_eq, add_assoc, add_comm 1]
  refine (getElem?_set_ne ?_).trans (h.items (i + 1) other hother)
  exact slot_ne (i := 0) (Nat.two_pow_pos k) (by omega) (succ_ne_zero i).symm

/-- From a cursor inside the ring on, the loop drops what the queue holds from there. -/
theorem dropFrom_eq {fuel i : Nat} (hi : i ≤ items.length) (hfuel : items.length < fuel + i) :
    mailbox.dropFrom fuel (BitVec.ofNat w (n + i)) = some (items.drop i) := by
  induction fuel generalizing i with
  | zero => omega
  | succ _ ih =>
  have htail := h.cursor_eq_tail hi
  rw [dropFrom]
  rcases lt_or_eq_of_le hi with hlt | rfl
  · rw [if_neg (mt htail.1 hlt.ne), h.slot_eq, h.items i _ (getElem?_eq_getElem hlt)]
    have hrest := ih hlt (by omega)
    rw [succ_eq_add_one, ← add_assoc, ofNat_succ] at hrest
    rw [drop_eq_getElem_cons hlt]
    exact congrArg (Option.bind · _) hrest
  · rw [if_pos (htail.2 rfl), drop_length]

end Represents

/-- A fresh ring stands for the empty queue. -/
theorem represents_new {k : Nat} (hk : k < w) : ∃ mailbox : SpscMailbox w T,
    new (twoPow w k) = some mailbox ∧ mailbox.closed = false ∧ Represents k 0 mailbox [] := by
  have hcapacity : (twoPow w k).toNat = 2 ^ k := toNat_twoPow_of_lt hk
  have hone : (1 : BitVec w).toNat = 1 := mod_eq_of_lt (Nat.one_lt_two_pow (by omega))
  refine ⟨_, if_pos ⟨by rw [hcapacity]; exact Nat.two_pow_pos k, ⟨k, hcapacity⟩⟩, rfl, ?_⟩
  exact {
    fits := hk
    capacity := hcapacity
    mask := by
      rw [toNat_sub_of_le, hcapacity, hone]
      rw [le_def, hcapacity, hone]
      exact Nat.one_le_two_pow
    length := by rw [length_replicate, hcapacity]
    bounded := zero_le _
    head := rfl
    tail := rfl
    items := by simp }

/-- For every capacity that is a power of two and every sequence of operations, the ring answers as
the bounded queue does, reads no slot that was not written, and drops what the queue holds. After a
close no push is taken. Positions are words of `w` bits, and may wrap any number of times. -/
theorem ring_refines_fifo {k : Nat} (hk : k < w) (ops : List (Op T)) :
    ∃ mailbox : SpscMailbox w T, SpscMailbox.new (BitVec.twoPow w k) = some mailbox ∧
      let run := answers SpscMailbox.step mailbox ops
      let queue := answers Fifo.step (.new (2 ^ k)) (ops.map Op.fifo)
      run.1 = queue.1.map some ∧ run.2.drop = some queue.2.items ∧
      ((ops.map Op.fifo).zip queue.1).filterMap Fifo.accepted =
        queue.1.filterMap Fifo.popped ++ queue.2.items ∧
      (Op.close ∈ ops → ∀ message, run.2.trySend message = (.closed (some message), run.2)) := by
  obtain ⟨mailbox, hnew, hopen, hstart⟩ := represents_new (T := T) hk
  have hstep : ∀ (mailbox : SpscMailbox w T) q op, StandsFor k mailbox q →
      (mailbox.step op).1 = some (q.step op.fifo).1 ∧
        StandsFor k (mailbox.step op).2 (q.step op.fifo).2 := by
    rintro mailbox _ op ⟨n, items, rfl, h⟩
    cases op with
    | push message => exact h.push message
    | pop => exact h.pop
    | close => exact ⟨rfl, n, items, rfl, { h with }⟩
  have hempty : Fifo.new (2 ^ k) = mailbox.queue k [] := by rw [queue, hopen]; rfl
  obtain ⟨hanswers, n, items, hqueue, hend⟩ :=
    answers_of_simulates hstep ⟨0, [], hempty, hstart⟩ ops
  refine ⟨mailbox, hnew, hanswers, ?_, Fifo.items_conserved (.new (2 ^ k)) _, ?_⟩
  · rw [SpscMailbox.drop, hend.head, hqueue]
    exact hend.dropFrom_eq (zero_le _) hend.length_lt
  intro hclose message
  have hclosed : (answers step mailbox ops).2.closed = true := by
    refine (congrArg Fifo.closed hqueue).symm.trans (Fifo.closed_of_mem (.inl ?_))
    exact mem_map.2 ⟨_, hclose, rfl⟩
  exact if_pos hclosed

/-- A ring of two slots and two-bit cursors, run past the word. -/
theorem ring_refines_fifo_past_the_word : ∃ mailbox : SpscMailbox 2 Nat,
    SpscMailbox.new (BitVec.twoPow 2 1) = some mailbox ∧ (answers SpscMailbox.step mailbox
        [.push 1, .pop, .push 2, .pop, .push 3, .pop, .push 4, .push 5, .push 6, .pop]).1.length =
          10 := by
  obtain ⟨mailbox, hnew, hanswers, -⟩ := ring_refines_fifo (w := 2) (k := 1) (by decide)
    [.push 1, .pop, .push 2, .pop, .push 3, .pop, .push 4, .push 5, .push (6 : Nat), .pop]
  exact ⟨mailbox, hnew, by rw [hanswers]; rfl⟩

end Tina.Spsc
