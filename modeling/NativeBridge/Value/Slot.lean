import NativeBridge.Text.Hex
import NativeBridge.Value.Basic

/-!
# Packed argument slots

A packed argument takes one eight-byte slot, whatever its type. Writing a value fills the low bytes
and clears the rest; reading a slot at a type looks only at that type's low bytes. A slot does not
remember the type it was written at.
-/

namespace NativeBridge

/-- Eight bytes that hold one packed argument, as a little-endian word. -/
structure Slot where
  word : UInt64
deriving DecidableEq, Repr, Inhabited

namespace Slot

def zero : Slot := ⟨0⟩

/-- The eight bytes of a slot, least significant first. -/
def bytes (s : Slot) : List UInt8 := LittleEndian.encode 8 s.word.toNat

/-- A slot in diagnostic output: its word, with all sixteen digits. -/
def diagnosticText (s : Slot) : String :=
  "JValue(" ++ Hex.paddedLiteral 16 s.word.toNat ++ ")"

end Slot

/-- The slot a value is packed into: the value's bytes below, zeros above. -/
def Value.toSlot : Value → Slot
  | boolean v => ⟨v.toUInt64⟩
  | byte v => ⟨v.toUInt8.toUInt64⟩
  | char v => ⟨v.toUInt64⟩
  | short v => ⟨v.toUInt16.toUInt64⟩
  | int v => ⟨v.toUInt32.toUInt64⟩
  | long v => ⟨v.toUInt64⟩
  | float v => ⟨v.bits.toUInt64⟩
  | double v => ⟨v.bits⟩
  | object v => ⟨v.address⟩

/-- The value a slot holds when it is read at this type. -/
def ValueType.ofSlot : ValueType → Slot → Value
  | .boolean, s => .boolean s.word.toUInt8
  | .byte, s => .byte s.word.toUInt8.toInt8
  | .char, s => .char s.word.toUInt16
  | .short, s => .short s.word.toUInt16.toInt16
  | .int, s => .int s.word.toUInt32.toInt32
  | .long, s => .long s.word.toInt64
  | .float, s => .float ⟨s.word.toUInt32⟩
  | .double, s => .double ⟨s.word⟩
  | .object, s => .object ⟨s.word⟩

/-- The word of a packed value is the number its bits spell. -/
theorem Value.toNat_word_toSlot (v : Value) : v.toSlot.word.toNat = v.bits := by
  cases v <;> simp [toSlot, bits]

/-- Reading a slot at a type is reading the low bits of its word at that type. -/
theorem ValueType.ofSlot_eq_ofBits (t : ValueType) (s : Slot) :
    t.ofSlot s = t.ofBits s.word.toNat := by
  cases t <;> simp [ofSlot, ofBits]

/-- A value packed into a slot and read back at its own type is unchanged. -/
theorem Value.ofSlot_toSlot (v : Value) : v.type.ofSlot v.toSlot = v := by
  rw [ValueType.ofSlot_eq_ofBits, toNat_word_toSlot, ofBits_bits]

end NativeBridge
