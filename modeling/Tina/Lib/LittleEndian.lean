import Mathlib.Tactic.Ring

/-!
Numbers as bytes, the least significant first.
-/

namespace Tina.Lib

/-- The `width` low bytes of a number. -/
def leBytes : Nat → Nat → List UInt8
  | 0, _ => []
  | width + 1, n => UInt8.ofNat n :: leBytes width (n / 256)

/-- The number that some bytes stand for. -/
def leNat : List UInt8 → Nat
  | [] => 0
  | byte :: rest => byte.toNat + 256 * leNat rest

@[simp] theorem length_leBytes (width n : Nat) : (leBytes width n).length = width := by
  induction width generalizing n with
  | zero => rfl
  | succ _ ih => simp [leBytes, ih]

theorem leNat_leBytes {width n : Nat} (hn : n < 256 ^ width) : leNat (leBytes width n) = n := by
  induction width generalizing n with
  | zero =>
    have : n = 0 := by simpa using hn
    simp [leBytes, leNat, this]
  | succ width ih =>
  have hrest : n / 256 < 256 ^ width := by
    rw [Nat.div_lt_iff_lt_mul (by decide)]
    rwa [Nat.pow_succ] at hn
  have hlow : (UInt8.ofNat n).toNat = n % 256 := by simp [UInt8.toNat_ofNat']
  rw [leBytes, leNat, hlow, ih hrest]
  exact Nat.mod_add_div n 256

theorem leBytes_leNat (bytes : List UInt8) : leBytes bytes.length (leNat bytes) = bytes := by
  induction bytes with
  | nil => rfl
  | cons byte rest ih =>
  have hbyte := byte.toNat_lt
  have hhigh : (byte.toNat + 256 * leNat rest) / 256 = leNat rest := by omega
  have hlow : UInt8.ofNat (byte.toNat + 256 * leNat rest) = byte := by
    apply UInt8.toNat_inj.1
    simp only [UInt8.toNat_ofNat']
    omega
  rw [leNat, List.length_cons, leBytes, hhigh, hlow, ih]

theorem leNat_lt (bytes : List UInt8) : leNat bytes < 256 ^ bytes.length := by
  induction bytes with
  | nil => simp [leNat]
  | cons byte =>
  have hbyte := byte.toNat_lt
  rw [leNat, List.length_cons, Nat.pow_succ]
  omega

theorem leNat_set_ne {bytes : List UInt8} {position : Nat} {byte : UInt8}
    (hset : bytes.set position byte ≠ bytes) : leNat (bytes.set position byte) ≠ leNat bytes := by
  intro hsame
  have hbytes := leBytes_leNat (bytes.set position byte)
  rw [hsame, List.length_set, leBytes_leNat] at hbytes
  exact hset hbytes.symm

end Tina.Lib
