import Mathlib.Tactic.Common
import NativeBridge.Memory.Block

/-!
# Windows of a block

A block is read and written in windows. This file says how two windows see each other: one that a
write does not touch shows what it showed before, one inside the write shows its part of what was
written, and one that is cut in two shows its parts one after the other.
-/

namespace NativeBridge.Block

variable {b b' : Block} {offset place width : Nat} {bytes : List UInt8}

lemma read_congr (h : ∀ i < width, b.byte (place + i) = b'.byte (place + i)) :
    b.read place width = b'.read place width := by
  unfold read
  apply List.map_congr_left
  intro i hi
  exact h i (List.mem_range.mp hi)

lemma read_write_of_outside (h : place + width ≤ offset ∨ offset + bytes.length ≤ place) :
    (b.write offset bytes).read place width = b.read place width := by
  apply read_congr
  intro i hi
  exact b.byte_write_of_outside offset (place + i) bytes (by omega)

lemma read_write_of_inside (hfit : offset + bytes.length ≤ b.size)
    (hin : place + width ≤ bytes.length) :
    (b.write offset bytes).read (offset + place) width = (bytes.drop place).take width := by
  apply List.ext_getElem
  · simp only [length_read, List.length_take, List.length_drop]
    omega
  · intro i hi _
    rw [length_read] at hi
    have hplace : offset + place + i - offset = place + i := by omega
    have hinside : offset ≤ offset + place + i ∧ offset + place + i < offset + bytes.length := by
      omega
    have hbyte : place + i < bytes.length := by omega
    simp [read, write, hfit, hinside, hplace, hbyte]

lemma read_add (b : Block) (offset width rest : Nat) :
    b.read offset (width + rest) = b.read offset width ++ b.read (offset + width) rest := by
  unfold read
  rw [List.range_add, List.map_append, List.map_map]
  refine congrArg _ (List.map_congr_left ?_)
  intro i _
  rw [Function.comp_apply, Nat.add_assoc]

@[simp] lemma size_ofBytes (bytes : List UInt8) : (ofBytes bytes).size = bytes.length :=
  size_write _ _ _

lemma read_ofBytes (h : place + width ≤ bytes.length) :
    (ofBytes bytes).read place width = (bytes.drop place).take width := by
  have hinside := read_write_of_inside (b := zeros bytes.length) (Nat.le_of_eq (Nat.zero_add _)) h
  rw [Nat.zero_add] at hinside
  exact hinside

lemma byte_ofBytes (h : place < bytes.length) : (ofBytes bytes).byte place = bytes[place] := by
  simp [ofBytes, write, zeros, h]

lemma read_ofBytes_read (h : place + width ≤ b.size) :
    (ofBytes (b.read 0 b.size)).read place width = b.read place width := by
  apply read_congr
  intro i hi
  rw [byte_ofBytes (by rw [length_read]; omega)]
  simp [read]

end NativeBridge.Block
