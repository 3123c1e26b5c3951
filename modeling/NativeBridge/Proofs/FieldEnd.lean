import Mathlib.Algebra.Group.Nat.Defs
import NativeBridge.Proofs.InstanceHeader

/-!
# The end of a field

The end of a field is computed as a machine word before it is compared with the instance size. This
file compares the check with the one in whole numbers. The two agree as long as the end is a word,
and so for every class that has been registered and leaves room for one value above its instances.
Past the largest word the end starts again from zero: a field that begins close enough to the end of
the address range is accepted although it lies outside every instance.
-/

namespace NativeBridge

namespace Class

/-- A value of `width` bytes at the offset ends inside the instances of the class. -/
def Fits (c : Class) (offset : UInt64) (width : Nat) : Prop :=
  offset.toNat + width ≤ c.instanceSize.toNat

/-- The end of a value of `width` bytes at the offset is past the largest word, and what is left of
it as a word is inside the instances of the class. -/
def Wraps (c : Class) (offset : UInt64) (width : Nat) : Prop :=
  2 ^ 64 ≤ offset.toNat + width ∧ offset.toNat + width - 2 ^ 64 ≤ c.instanceSize.toNat

variable {c : Class} {offset : UInt64} {width : Nat}

lemma not_lt_end_iff (hwidth : width ≤ 16) :
    ¬c.instanceSize < offset + UInt64.ofNat width ↔ c.Fits offset width ∨ c.Wraps offset width := by
  have hoffset : offset.toNat < 2 ^ 64 := offset.toNat_lt
  have hword : (UInt64.ofNat width).toNat = width := by
    apply UInt64.toNat_ofNat_of_lt'
    exact Nat.lt_of_le_of_lt hwidth (by decide)
  rw [UInt64.lt_iff_toNat_lt, UInt64.toNat_add, hword, Fits, Wraps]
  omega

lemma not_wraps_of_lt (h : offset.toNat + width < 2 ^ 64) : ¬c.Wraps offset width :=
  fun hwraps => Nat.not_lt.mpr hwraps.1 h

/-- Fields that begin inside the instances do not wrap around, unless the instances reach up to the
largest words. -/
lemma FieldsInside.not_wraps (h : c.FieldsInside) (hsize : c.instanceSize.toNat + 16 ≤ 2 ^ 64)
    {f : Field} (hf : f ∈ c.fields) (hplace : f.place = .instance offset) (hwidth : width ≤ 16) :
    ¬c.Wraps offset width := by
  apply not_wraps_of_lt
  have hoffset : offset.toNat < c.instanceSize.toNat := h f hf offset hplace
  omega

end Class

namespace Environment

section Access

variable {env : Environment} {m : Memory} {object : Handle} {c : Class} {i : Instance}
  {index : Nat} {f : Field} {offset : UInt64} {width : Nat}

lemma setField_eq_ok_iff (h : env.LiveAt m object c i) (hdeclared : c.fields[index]? = some f)
    (hplace : f.place = .instance offset) {bytes : List UInt8} (hwidth : bytes.length ≤ 16)
    {m' : Memory} :
    env.setField m object (some ⟨c.handle, index⟩) bytes = .ok m' ↔
      (c.Fits offset bytes.length ∨ c.Wraps offset bytes.length) ∧
        m' = m.write object (i.withImage (i.image.write offset.toNat bytes)) := by
  rw [setField_of_live h hdeclared hplace, ← Class.not_lt_end_iff hwidth]
  by_cases hoverrun : c.instanceSize < offset + UInt64.ofNat bytes.length
  · simp [hoverrun]
  · simp [hoverrun, eq_comm]

end Access

end Environment

namespace Sample

end Sample

namespace Environment

end Environment

end NativeBridge
