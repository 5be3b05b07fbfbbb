import Tina.Lib.LittleEndian

/-!
Numbers as bytes, the most significant first.
-/

namespace Tina.Lib

/-- The `width` low bytes of a number. -/
def beBytes (width n : Nat) : List UInt8 :=
  (leBytes width n).reverse

/-- The number that some bytes stand for. -/
def beNat (bytes : List UInt8) : Nat :=
  leNat bytes.reverse

@[simp] theorem length_beBytes (width n : Nat) : (beBytes width n).length = width := by
  simp [beBytes]

theorem beNat_beBytes {width n : Nat} (hn : n < 256 ^ width) : beNat (beBytes width n) = n := by
  rw [beNat, beBytes, List.reverse_reverse, leNat_leBytes hn]

theorem beBytes_beNat (bytes : List UInt8) : beBytes bytes.length (beNat bytes) = bytes := by
  rw [beBytes, beNat, ← List.length_reverse, leBytes_leNat, List.reverse_reverse]

theorem beNat_lt (bytes : List UInt8) : beNat bytes < 256 ^ bytes.length := by
  have hlt := leNat_lt bytes.reverse
  rwa [List.length_reverse] at hlt

end Tina.Lib
