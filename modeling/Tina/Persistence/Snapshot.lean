import Tina.Lib.ListUpdate
import Tina.Persistence.Journal

/-!
A snapshot as bytes on disk. Its checksum is over the payload alone, and a changed byte of the index
of the last journal record goes unnoticed.
-/

namespace Tina.Persistence

open Lib List

structure SnapshotImage where
  bytes : List UInt8
  lastJournalIndex : Nat
deriving DecidableEq

/-- `TNSNAP01`. -/
def SNAPSHOT_MAGIC : List UInt8 := [84, 78, 83, 78, 65, 80, 48, 49]

def SNAPSHOT_HEADER_BYTES : Nat := 8 + U64_BYTES + U64_BYTES + U64_BYTES

def encodeSnapshot (snapshot : SnapshotImage) : List UInt8 :=
  SNAPSHOT_MAGIC ++ (leBytes U64_BYTES snapshot.lastJournalIndex ++
    (leBytes U64_BYTES snapshot.bytes.length ++
      (leBytes U64_BYTES (checksum snapshot.bytes).toNat ++ snapshot.bytes)))

def decodeSnapshot (bytes : List UInt8) : Except CallError SnapshotImage :=
  if bytes.length < SNAPSHOT_HEADER_BYTES ∨ bytes.take 8 ≠ SNAPSHOT_MAGIC then .error .corruptRecord
  else
    match readU64 bytes 8, readU64 bytes 16, readU64 bytes 24 with
    | some lastJournalIndex, some payloadLen, some expectedChecksum =>
      let payloadEnd := SNAPSHOT_HEADER_BYTES + payloadLen
      -- `checked_add` on a 64-bit `usize`
      if 2 ^ 64 ≤ payloadEnd then .error .corruptRecord
      else if bytes.length ≠ payloadEnd then .error .corruptRecord
      else
        let payload := (bytes.drop SNAPSHOT_HEADER_BYTES).take payloadLen
        if (checksum payload).toNat ≠ expectedChecksum then .error .corruptRecord
        else .ok { bytes := payload, lastJournalIndex }
    | _, _, _ => .error .corruptRecord

section

variable {magic index length sum payload : List UInt8}

variable (hmagic : magic.length = 8) (hindex : index.length = 8) (hlength : length.length = 8)
  (hsum : sum.length = 8)

include hmagic hindex hlength hsum

/-- What is refused, by the fields of the header. -/
theorem decodeSnapshot_eq_error_iff (hpayload : payload.length < 2 ^ 63) :
    decodeSnapshot (magic ++ (index ++ (length ++ (sum ++ payload)))) = .error .corruptRecord ↔
      ¬ (magic = SNAPSHOT_MAGIC ∧ payload.length = leNat length ∧
        (checksum payload).toNat = leNat sum) := by
  have hheader : (magic ++ (index ++ (length ++ sum))).length = SNAPSHOT_HEADER_BYTES := by
    simp [hmagic, hindex, hlength, hsum, SNAPSHOT_HEADER_BYTES, U64_BYTES]
  have hsplit : magic ++ (index ++ (length ++ (sum ++ payload))) =
      magic ++ (index ++ (length ++ sum)) ++ payload := by simp
  obtain ⟨hindexAt, hlengthAt, hsumAt⟩ := readU64_fields hmagic hindex hlength hsum payload
  unfold decodeSnapshot
  rw [hindexAt, hlengthAt, hsumAt, take_left' hmagic, hsplit]
  simp only [length_append, hheader, drop_left' hheader]
  by_cases hknown : magic = SNAPSHOT_MAGIC
  · by_cases hwhole : payload.length = leNat length
    · simp only [hknown, ← hwhole, SNAPSHOT_HEADER_BYTES, U64_BYTES, take_length]
      rw [if_neg (by simp), if_neg (by omega)]
      simp
    · simp [hknown, hwhole]
  · simp [hknown]

omit hmagic hindex hlength hsum

theorem checksum_set_ne {bytes : List UInt8} {position : Nat} {byte : UInt8}
    (hset : bytes.set position byte ≠ bytes) :
    checksum (bytes.set position byte) ≠ checksum bytes := by
  have hmul : Function.Injective fun hash : UInt64 => hash * 0x100000001b3 :=
    Function.LeftInverse.injective (g := fun hash => hash * 0xce965057aff6957b) fun hash => by
      dsimp only
      rw [UInt64.mul_assoc]
      exact UInt64.mul_one hash
  refine foldl_set_ne (fun byte => hmul.comp ?_) (fun hash => hmul.comp ?_) hset _
  · intro a b hsame
    exact (UInt64.xor_left_inj _).1 hsame
  · intro a b hsame
    exact UInt8.toUInt64_inj.1 ((UInt64.xor_right_inj hash).1 hsame)

end

/-- A snapshot with one byte changed is refused unless the byte is one of the index of the last
journal record, which no checksum covers. An encoded snapshot is a `Vec`, of fewer than `2 ^ 63`
bytes. -/
theorem changed_snapshot_refused_iff {snapshot : SnapshotImage} {position : Nat} {byte : UInt8}
    (hbytes : SNAPSHOT_HEADER_BYTES + snapshot.bytes.length < 2 ^ 63)
    (hset : (encodeSnapshot snapshot).set position byte ≠ encodeSnapshot snapshot) :
    decodeSnapshot ((encodeSnapshot snapshot).set position byte) = .error .corruptRecord ↔
      ¬ (8 ≤ position ∧ position < 16) := by
  have hpayload : snapshot.bytes.length < 2 ^ 63 := by omega
  have hlength : leNat (leBytes U64_BYTES snapshot.bytes.length) = snapshot.bytes.length :=
    leNat_leBytes (by unfold U64_BYTES; omega)
  have hsum : leNat (leBytes U64_BYTES (checksum snapshot.bytes).toNat) =
      (checksum snapshot.bytes).toNat := leNat_leBytes (checksum snapshot.bytes).toNat_lt
  have hsize (n : Nat) : (leBytes U64_BYTES n).length = 8 := length_leBytes _ _
  have hmagic : SNAPSHOT_MAGIC.length = 8 := rfl
  simp only [encodeSnapshot, set_append, hsize, hmagic] at hset ⊢
  split_ifs at hset ⊢ with h8 h16 h24 h32
  · rw [decodeSnapshot_eq_error_iff (by rw [length_set, hmagic]) (hsize _) (hsize _) (hsize _)
      hpayload]
    refine iff_of_true (fun hall => hset (by rw [hall.1])) (by omega)
  · rw [decodeSnapshot_eq_error_iff hmagic (by rw [length_set, hsize]) (hsize _) (hsize _) hpayload]
    refine iff_of_false (fun hother => hother ⟨rfl, hlength.symm, hsum.symm⟩) (by omega)
  · rw [decodeSnapshot_eq_error_iff hmagic (hsize _) (by rw [length_set, hsize]) (hsize _) hpayload]
    refine iff_of_true (fun hall => ?_) (by omega)
    exact leNat_set_ne (fun hsame => hset (by rw [hsame])) (hall.2.1.symm.trans hlength.symm)
  · rw [decodeSnapshot_eq_error_iff hmagic (hsize _) (hsize _) (by rw [length_set, hsize]) hpayload]
    refine iff_of_true (fun hall => ?_) (by omega)
    exact leNat_set_ne (fun hsame => hset (by rw [hsame])) (hall.2.2.symm.trans hsum.symm)
  · rw [decodeSnapshot_eq_error_iff hmagic (hsize _) (hsize _) (hsize _) (by rwa [length_set])]
    refine iff_of_true (fun hall => ?_) (by omega)
    exact checksum_set_ne (fun hsame => hset (by rw [hsame]))
      (UInt64.toNat_inj.1 (hall.2.2.trans hsum))

/-- The snapshot of journal record 1 becomes that of journal record 2. -/
theorem changed_index_accepted :
    (decodeSnapshot ((encodeSnapshot ⟨[7], 1⟩).set 8 2)).toOption = some ⟨[7], 2⟩ := by
  decide +kernel

/-- A changed byte of the payload is noticed. -/
theorem changed_payload_refused :
    decodeSnapshot ((encodeSnapshot ⟨[7], 1⟩).set 32 8) = .error .corruptRecord :=
  (changed_snapshot_refused_iff (by decide) (by decide +kernel)).2 (by decide)

end Tina.Persistence
