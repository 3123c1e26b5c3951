import Mathlib.Tactic.Lemma
import NativeBridge.Value.Slot

/-!
# The bytes of a packed slot

A value of any type is narrower than a slot or as wide. Its slot holds the bytes of the value first,
at the low end, and zeros from there on.
-/

namespace NativeBridge

namespace LittleEndian

lemma encode_zero (width : Nat) : encode width 0 = List.replicate width 0 := by
  induction width with
  | zero => rfl
  | succ width ih =>
    rw [encode, Nat.zero_div, ih]
    rfl

lemma encode_add (width extra n : Nat) :
    encode (width + extra) n = encode width n ++ encode extra (n / Nat.pow 256 width) := by
  induction width generalizing n with
  | zero => simp [encode]
  | succ width ih =>
    have hp : Nat.pow 256 (width + 1) = 256 * Nat.pow 256 width := Nat.mul_comm _ _
    rw [Nat.succ_add, encode, encode, ih, hp, Nat.div_div_eq_div_mul, List.cons_append]

lemma encode_of_lt {width n : Nat} (h : n < Nat.pow 256 width) (extra : Nat) :
    encode (width + extra) n = encode width n ++ List.replicate extra 0 := by
  rw [encode_add, Nat.div_eq_of_lt h, encode_zero]

end LittleEndian

lemma ValueType.width_le (t : ValueType) : t.width ≤ 8 := by
  cases t <;> decide

namespace Value

lemma bits_lt (v : Value) : v.bits < Nat.pow 256 v.type.width := by
  have hbits : v.bits = v.bits % Nat.pow 256 v.type.width := by
    rw [← ValueType.bits_ofBits, ofBits_bits]
  rw [hbits]
  exact Nat.mod_lt _ (Nat.pow_pos (by decide))

theorem bytes_toSlot (v : Value) :
    v.toSlot.bytes = v.bytes ++ List.replicate (8 - v.type.width) 0 := by
  have hwidth : v.type.width + (8 - v.type.width) = 8 := Nat.add_sub_of_le v.type.width_le
  calc v.toSlot.bytes = LittleEndian.encode (v.type.width + (8 - v.type.width)) v.bits := by
        rw [Slot.bytes, toNat_word_toSlot, hwidth]
    _ = v.bytes ++ List.replicate (8 - v.type.width) 0 := LittleEndian.encode_of_lt v.bits_lt _

/-- A negative number is extended with zeros too, not with its sign. -/
example : (int (-1)).toSlot.bytes = [255, 255, 255, 255, 0, 0, 0, 0] := by decide

end Value

end NativeBridge
