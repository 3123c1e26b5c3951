import Mathlib.Tactic.Ring
import NativeBridge.Word.Floating

/-!
# Singles in variable argument lists

A single-precision argument travels through a variable argument list as a double and is narrowed
when it is read. This file proves that nothing is lost on the way: a single that is not a NaN comes
back with all its bits, and a NaN comes back as a NaN. The proof follows the kinds of single:
zeros, subnormal and normal numbers, infinities and NaNs.
-/

namespace NativeBridge

lemma roundShift_mul (q k : Nat) : roundShift (q * Nat.pow 2 k) k = q := by
  have hpos : 0 < Nat.pow 2 k := Nat.two_pow_pos k
  have hdiv : q * Nat.pow 2 k / Nat.pow 2 k = q := Nat.mul_div_cancel q hpos
  have hmod : q * Nat.pow 2 k % Nat.pow 2 k = 0 := Nat.mul_mod_left q (Nat.pow 2 k)
  have hround : ¬(2 * 0 > Nat.pow 2 k ∨ (2 * 0 = Nat.pow 2 k ∧ q % 2 = 1)) := by omega
  simp only [roundShift, hdiv, hmod, if_neg hround]

namespace Binary32

lemma unit_eq : unit = 8388608 := rfl
lemma signUnit_eq : signUnit = 2147483648 := rfl

lemma sign_lt (x : Binary32) : x.sign < 2 := by
  have h := x.bits.toNat_lt
  unfold sign
  rw [signUnit_eq]
  omega

lemma exponent_lt (x : Binary32) : x.exponent < 256 := Nat.mod_lt _ (by decide)

lemma fraction_lt (x : Binary32) : x.fraction < unit := Nat.mod_lt _ (by decide)

lemma ofParts_parts (x : Binary32) :
    ofParts x.sign (x.exponent * unit + x.fraction) = x := by
  have h := x.bits.toNat_lt
  have hbits : x.sign * signUnit + (x.exponent * unit + x.fraction) = x.bits.toNat := by
    unfold sign exponent fraction
    rw [signUnit_eq, unit_eq]
    omega
  rw [ofParts, hbits, UInt32.ofNat_toNat]

lemma parts_ofParts {s e m : Nat} (hs : s < 2) (he : e < 256) (hm : m < unit) :
    (ofParts s (e * unit + m)).sign = s ∧ (ofParts s (e * unit + m)).exponent = e ∧
      (ofParts s (e * unit + m)).fraction = m := by
  rw [unit_eq] at hm
  have hbits : (ofParts s (e * unit + m)).bits.toNat = s * signUnit + (e * unit + m) := by
    rw [ofParts, UInt32.toNat_ofNat', signUnit_eq, unit_eq]
    omega
  unfold sign exponent fraction
  rw [hbits, signUnit_eq, unit_eq]
  omega

end Binary32

namespace Binary64

lemma unit_eq : unit = 4503599627370496 := rfl
lemma signUnit_eq : signUnit = 9223372036854775808 := rfl

lemma parts_ofParts {s e m : Nat} (hs : s < 2) (he : e < 2048) (hm : m < unit) :
    (ofParts s (e * unit + m)).sign = s ∧ (ofParts s (e * unit + m)).exponent = e ∧
      (ofParts s (e * unit + m)).fraction = m := by
  rw [unit_eq] at hm
  have hbits : (ofParts s (e * unit + m)).bits.toNat = s * signUnit + (e * unit + m) := by
    rw [ofParts, UInt64.toNat_ofNat', signUnit_eq, unit_eq]
    omega
  unfold sign exponent fraction
  rw [hbits, signUnit_eq, unit_eq]
  omega

end Binary64

namespace Binary32

lemma widen_of_normal {x : Binary32} (h0 : x.exponent ≠ 0) (h255 : x.exponent ≠ 255) :
    x.widen = Binary64.ofParts x.sign
      ((x.exponent + 896) * Binary64.unit + x.fraction * Nat.pow 2 extraBits) := by
  simp only [widen, if_neg h0, if_neg h255]

lemma narrow_widen_of_normal {x : Binary32} (h0 : x.exponent ≠ 0) (h255 : x.exponent ≠ 255) :
    x.widen.narrow = x := by
  have he := x.exponent_lt
  have hm := x.fraction_lt
  have hscale : Nat.pow 2 extraBits = 536870912 := rfl
  have hbound : x.fraction * Nat.pow 2 extraBits < Binary64.unit := by
    rw [hscale, Binary64.unit_eq]
    rw [unit_eq] at hm
    omega
  obtain ⟨hs, hexp, hfrac⟩ :=
    Binary64.parts_ofParts x.sign_lt (show x.exponent + 896 < 2048 by omega) hbound
  -- The fraction gains bits that are all zero, so rounding them off again is exact.
  have hround : roundShift (Binary64.unit + x.fraction * Nat.pow 2 extraBits) extraBits =
      unit + x.fraction := by
    have hunit : Binary64.unit = unit * Nat.pow 2 extraBits := rfl
    rw [hunit, ← Nat.add_mul, roundShift_mul]
  have hsum : (x.exponent + 896 - 897) * unit + (unit + x.fraction) =
      x.exponent * unit + x.fraction := by
    have hsucc : x.exponent = x.exponent + 896 - 897 + 1 := by omega
    nth_rewrite 2 [hsucc]
    ring
  have hle : x.exponent * unit + x.fraction ≤ infinity := by
    calc x.exponent * unit + x.fraction ≤ (x.exponent + 1) * unit := by
          rw [Nat.add_mul, Nat.one_mul]
          exact Nat.add_le_add_left hm.le _
      _ ≤ 255 * unit := Nat.mul_le_mul_right _ (by omega)
  rw [widen_of_normal h0 h255, Binary64.narrow]
  simp only [hs, hexp, hfrac]
  rw [if_neg (by omega), if_pos (by omega), hround, hsum, Nat.min_eq_left hle,
    ofParts_parts]

/-- A subnormal single is widened to a normal double: the first bit of its fraction is left out, and
narrowing puts it back. -/
lemma narrow_widen_of_subnormal {x : Binary32} (h0 : x.exponent = 0) (hm0 : x.fraction ≠ 0) :
    x.widen.narrow = x := by
  have hm := x.fraction_lt
  have hlog : x.fraction.log2 < 23 := (Nat.log2_lt hm0).mpr hm
  have hlow : Nat.pow 2 x.fraction.log2 ≤ x.fraction := Nat.log2_self_le hm0
  have hhigh : x.fraction < Nat.pow 2 (x.fraction.log2 + 1) := Nat.lt_log2_self
  generalize hL : x.fraction.log2 = L at hlog hlow hhigh
  -- `2 ^ L` is the first bit of the fraction, and shifted up it is the one a double leaves out.
  have hsplit : Nat.pow 2 L * Nat.pow 2 (52 - L) = Binary64.unit := by
    have h := Nat.pow_add 2 L (52 - L)
    rw [show L + (52 - L) = 52 by omega] at h
    exact h.symm
  have hscaled : Binary64.unit + (x.fraction - Nat.pow 2 L) * Nat.pow 2 (52 - L) =
      x.fraction * Nat.pow 2 (52 - L) := by
    rw [← hsplit, ← Nat.add_mul, Nat.add_sub_cancel' hlow]
  have hdouble : x.fraction * Nat.pow 2 (52 - L) < 2 * Binary64.unit := by
    have hstep : Nat.pow 2 (L + 1) = 2 * Nat.pow 2 L := Nat.pow_succ'
    rw [← hsplit, ← Nat.mul_assoc, ← hstep]
    exact Nat.mul_lt_mul_of_pos_right hhigh (Nat.two_pow_pos _)
  have hbound : (x.fraction - Nat.pow 2 L) * Nat.pow 2 (52 - L) < Binary64.unit := by omega
  obtain ⟨hs, hexp, hfrac⟩ :=
    Binary64.parts_ofParts x.sign_lt (show 874 + L < 2048 by omega) hbound
  have hwiden : x.widen = Binary64.ofParts x.sign
      ((874 + L) * Binary64.unit + (x.fraction - Nat.pow 2 L) * Nat.pow 2 (52 - L)) := by
    simp only [widen, h0, if_neg hm0, Binary64.magnitudeOf, hL]
    rfl
  have hround : roundShift (Binary64.unit + (x.fraction - Nat.pow 2 L) * Nat.pow 2 (52 - L))
      (926 - (874 + L)) = x.fraction := by
    rw [hscaled, show 926 - (874 + L) = 52 - L by omega, roundShift_mul]
  have hparts := x.ofParts_parts
  rw [h0, Nat.zero_mul, Nat.zero_add] at hparts
  rw [hwiden, Binary64.narrow]
  simp only [hs, hexp, hfrac]
  rw [if_neg (by omega), if_neg (by omega), if_neg (by omega), hround, hparts]

lemma narrow_widen_of_zero {x : Binary32} (h0 : x.exponent = 0) (hm0 : x.fraction = 0) :
    x.widen.narrow = x := by
  obtain ⟨hs, hexp, hfrac⟩ := Binary64.parts_ofParts x.sign_lt (show 0 < 2048 by omega)
    (show 0 < Binary64.unit by decide)
  have hwiden : x.widen = Binary64.ofParts x.sign (0 * Binary64.unit + 0) := by
    simp [widen, h0, hm0]
  have hparts := x.ofParts_parts
  rw [h0, hm0, Nat.zero_mul] at hparts
  rw [hwiden, Binary64.narrow]
  simp only [hs, hexp, hfrac]
  rw [if_neg (by omega), if_neg (by omega), if_pos trivial, hparts]

lemma narrow_widen_of_infinity {x : Binary32} (h255 : x.exponent = 255) (hm0 : x.fraction = 0) :
    x.widen.narrow = x := by
  obtain ⟨hs, hexp, hfrac⟩ := Binary64.parts_ofParts x.sign_lt (show 2047 < 2048 by omega)
    (show 0 < Binary64.unit by decide)
  have hwiden : x.widen = Binary64.ofParts x.sign (2047 * Binary64.unit + 0) := by
    simp only [widen, h255, hm0]
    rfl
  have hparts := x.ofParts_parts
  rw [h255, hm0] at hparts
  rw [hwiden, Binary64.narrow]
  simp only [hs, hexp, hfrac]
  rw [if_pos trivial, if_pos trivial]
  exact hparts

lemma isNaN_iff (x : Binary32) : x.isNaN = true ↔ x.exponent = 255 ∧ x.fraction ≠ 0 := by
  simp [isNaN]

theorem isNaN_narrow_widen {x : Binary32} (h : x.isNaN = true) : x.widen.narrow.isNaN = true := by
  obtain ⟨h255, hm0⟩ := (isNaN_iff x).mp h
  have hquiet : Binary64.unit = 2 * Binary64.quietBit := rfl
  have hpos : 0 < Binary64.quietBit := by decide
  have hmod := Nat.mod_lt (x.fraction * Nat.pow 2 extraBits) hpos
  obtain ⟨hs, hexp, hfrac⟩ := Binary64.parts_ofParts x.sign_lt (show 2047 < 2048 by omega)
    (show Binary64.quietBit + x.fraction * Nat.pow 2 extraBits % Binary64.quietBit <
      Binary64.unit by omega)
  have hwiden : x.widen = Binary64.ofParts x.sign (2047 * Binary64.unit +
      (Binary64.quietBit + x.fraction * Nat.pow 2 extraBits % Binary64.quietBit)) := by
    simp only [widen, h255, if_neg hm0]
    rfl
  have hquiet32 : unit = 2 * quietBit := rfl
  have hpos32 : 0 < quietBit := by decide
  rw [hwiden, Binary64.narrow]
  simp only [hs, hexp, hfrac]
  rw [if_pos trivial, if_neg (by omega)]
  generalize (Binary64.quietBit + x.fraction * Nat.pow 2 extraBits % Binary64.quietBit) /
    Nat.pow 2 extraBits = payload
  have hmod32 := Nat.mod_lt payload hpos32
  obtain ⟨-, hexp32, hfrac32⟩ := parts_ofParts x.sign_lt (show 255 < 256 by omega)
    (show quietBit + payload % quietBit < unit by omega)
  rw [isNaN_iff]
  exact ⟨hexp32, by rw [infinity, hfrac32]; omega⟩

theorem narrow_widen {x : Binary32} (h : x.isNaN = false) : x.widen.narrow = x := by
  by_cases hm0 : x.fraction = 0
  · by_cases h0 : x.exponent = 0
    · exact narrow_widen_of_zero h0 hm0
    · by_cases h255 : x.exponent = 255
      · exact narrow_widen_of_infinity h255 hm0
      · exact narrow_widen_of_normal h0 h255
  · by_cases h0 : x.exponent = 0
    · exact narrow_widen_of_subnormal h0 hm0
    · have h255 : x.exponent ≠ 255 := by
        intro h255
        rw [(isNaN_iff x).mpr ⟨h255, hm0⟩] at h
        contradiction
      exact narrow_widen_of_normal h0 h255

end Binary32
end NativeBridge
