import Mathlib.Data.List.Forall2
import NativeBridge.Call.Parameter
import NativeBridge.Proofs.SingleRoundTrip

/-!
# The two forms of an argument

A value reaches a parameter in one of two forms: as the low bytes of a packed slot, or as a promoted
argument that is narrowed again. The two forms agree when the value suits the parameter, that is,
when it has the type of the parameter or both are integers and the value is at least as wide. For
integers the reason is that promotion, by zeros or by the sign, keeps the low bytes of the value.
A single-precision NaN may come out of the promotion as another NaN, so the forms are compared with
all NaNs taken as one.
-/

namespace NativeBridge

/-- Whether the type is one of the integers that promotion widens to `int`, or `int` itself. -/
def ValueType.isInteger : ValueType → Bool
  | boolean | byte | char | short | int => true
  | long | float | double | object => false

def Binary32.canonical (x : Binary32) : Binary32 := if x.isNaN then ⟨0x7fc00000⟩ else x

def Binary64.canonical (x : Binary64) : Binary64 :=
  if x.isNaN then ⟨0x7ff8000000000000⟩ else x

namespace Value

def isNaN : Value → Bool
  | float v => v.isNaN
  | double v => v.isNaN
  | _ => false

/-- The value with all NaNs of its type taken as one. -/
def canonical : Value → Value
  | float v => float v.canonical
  | double v => double v.canonical
  | v => v

/-- Whether a value may be passed for a parameter of type `t`: it has that type, or both are
integers and the value is at least as wide. -/
def Suits (v : Value) (t : ValueType) : Prop :=
  v.type = t ∨ (t.isInteger = true ∧ v.type.isInteger = true ∧ t.width ≤ v.type.width)

end Value

lemma Binary32.canonical_narrow_widen (x : Binary32) :
    x.widen.narrow.canonical = x.canonical := by
  by_cases h : x.isNaN = true
  · simp only [canonical, if_pos h, if_pos (isNaN_narrow_widen h)]
  · rw [narrow_widen (by simpa using h)]

lemma toNat_signExtend_mod {w v : Nat} (x : BitVec w) (h : w ≤ v) :
    (x.signExtend v).toNat % 2 ^ w = x.toNat := by
  have hlow : (x.signExtend v).setWidth w = x := by
    ext i hi
    have hv : i < v := by omega
    simp [BitVec.getElem_setWidth, BitVec.getElem_signExtend, hi, hv]
  rw [← BitVec.toNat_setWidth, hlow]

namespace ValueType

/-- The value of this type that a promoted argument is read as; zero for another class. -/
def ofPromoted (t : ValueType) (a : Promoted) : Value :=
  t.narrow ((a.as? t.promotedClass).getD t.promotedClass.zero)

lemma ofPromoted_int {t : ValueType} (ht : t.isInteger = true) (i : Int32) :
    t.ofPromoted (.int i) = t.ofBits i.toUInt32.toNat := by
  cases t with
  | boolean => simp [ofPromoted, promotedClass, Promoted.as?, narrow, ofBits]
  | byte =>
    have hlow := BitVec.signExtend_eq_setWidth_of_le i.toBitVec (show 8 ≤ 32 by omega)
    exact congrArg (fun b => Value.byte ⟨⟨b⟩⟩) hlow
  | char => simp [ofPromoted, promotedClass, Promoted.as?, narrow, ofBits]
  | short =>
    have hlow := BitVec.signExtend_eq_setWidth_of_le i.toBitVec (show 16 ≤ 32 by omega)
    exact congrArg (fun b => Value.short ⟨⟨b⟩⟩) hlow
  | int => simp [ofPromoted, promotedClass, Promoted.as?, narrow, ofBits]
  | long | float | double | object => simp [isInteger] at ht

lemma ofBits_mod (t : ValueType) (n : Nat) :
    t.ofBits (n % Nat.pow 256 t.width) = t.ofBits n := by
  have hvalue := (t.ofBits n).ofBits_bits
  rw [type_ofBits, bits_ofBits] at hvalue
  exact hvalue

end ValueType

lemma Value.promote_of_isInteger {v : Value} (hv : v.type.isInteger = true) :
    ∃ i : Int32, v.promote = .int i ∧ i.toUInt32.toNat % Nat.pow 256 v.type.width = v.bits := by
  cases v with
  | boolean v => exact ⟨_, rfl, by simp [type, ValueType.width, bits]⟩
  | byte v => exact ⟨_, rfl, toNat_signExtend_mod v.toBitVec (by decide)⟩
  | char v => exact ⟨_, rfl, by simp [type, ValueType.width, bits]⟩
  | short v => exact ⟨_, rfl, toNat_signExtend_mod v.toBitVec (by decide)⟩
  | int v => exact ⟨_, rfl, by simp [type, ValueType.width, bits]⟩
  | long | float | double | object => simp [type, ValueType.isInteger] at hv

lemma Value.ofPromoted_promote_of_isInteger {v : Value} {t : ValueType}
    (ht : t.isInteger = true) (hv : v.type.isInteger = true) (hw : t.width ≤ v.type.width) :
    t.ofPromoted v.promote = t.ofBits v.bits := by
  obtain ⟨i, hi, hlow⟩ := promote_of_isInteger hv
  have hdvd : Nat.pow 256 t.width ∣ Nat.pow 256 v.type.width := Nat.pow_dvd_pow 256 hw
  calc t.ofPromoted v.promote = t.ofBits i.toUInt32.toNat := by
        rw [hi, ValueType.ofPromoted_int ht]
    _ = t.ofBits (i.toUInt32.toNat % Nat.pow 256 v.type.width) := by
        rw [← t.ofBits_mod (i.toUInt32.toNat % _), Nat.mod_mod_of_dvd _ hdvd, t.ofBits_mod]
    _ = t.ofBits v.bits := by rw [hlow]

namespace Value.Suits

variable {v : Value} {t : ValueType}

lemma as?_promote (h : v.Suits t) : (v.promote.as? t.promotedClass).isSome = true := by
  rcases h with rfl | ⟨ht, hv, -⟩
  · cases v <;> rfl
  · obtain ⟨i, hi, -⟩ := promote_of_isInteger hv
    rw [hi]
    cases t with
    | boolean | byte | char | short | int => rfl
    | long | float | double | object => simp [ValueType.isInteger] at ht

/-- The narrowed promotion of a suitable value is the value's low bits, except that a NaN may have
become another one. -/
lemma ofPromoted_promote (h : v.Suits t) (hnan : v.isNaN = false) :
    t.ofPromoted v.promote = t.ofBits v.bits := by
  rcases h with rfl | ⟨ht, hv, hw⟩
  · rw [ofBits_bits]
    cases v with
    | boolean | byte | char | short | int =>
      rw [ofPromoted_promote_of_isInteger rfl rfl le_rfl, ofBits_bits]
    | float v => exact congrArg float (Binary32.narrow_widen hnan)
    | long | double | object => rfl
  · exact ofPromoted_promote_of_isInteger ht hv hw

lemma canonical_ofPromoted_promote (h : v.Suits t) :
    (t.ofPromoted v.promote).canonical = (t.ofBits v.bits).canonical := by
  cases hv : v.isNaN with
  | false => rw [h.ofPromoted_promote hv]
  | true =>
    cases v with
    | float v =>
      rcases h with rfl | ⟨-, hint, -⟩
      · rw [ofBits_bits]
        exact congrArg float v.canonical_narrow_widen
      · simp [type, ValueType.isInteger] at hint
    | double v =>
      rcases h with rfl | ⟨-, hint, -⟩
      · rw [ofBits_bits]
        rfl
      · simp [type, ValueType.isInteger] at hint
    | _ => simp [isNaN] at hv

end Value.Suits

lemma VarArgs.nextValue_promote {v : Value} {t : ValueType} (h : v.Suits t) (consumed : Nat)
    (rest : List Promoted) :
    (⟨consumed, v.promote :: rest⟩ : VarArgs).nextValue t =
      ⟨t.ofPromoted v.promote, ⟨consumed + 1, rest⟩, []⟩ := by
  obtain ⟨content, hcontent⟩ := Option.isSome_iff_exists.mp h.as?_promote
  simp only [nextValue, next, ValueType.ofPromoted, hcontent, Option.getD_some]

/-! ### Argument lists -/

/-- The values begin with a suitable one for each parameter. -/
def Supplied (params : List ParamType) (values : List Value) : Prop :=
  List.Forall₂ (fun p v => v.Suits p.valueType) params (values.take params.length)

/-- The arguments that the values spell: for each parameter, in order, the low bits of its value. -/
def spelledArguments (params : List ParamType) (values : List Value) : List Value :=
  List.zipWith (fun p v => p.valueType.ofBits v.bits) params values

/-- The arguments that the promoted values are narrowed to, in order. -/
def narrowedArguments (params : List ParamType) (values : List Value) : List Value :=
  List.zipWith (fun p v => p.valueType.ofPromoted v.promote) params values

lemma extractPacked_toSlot (params : List ParamType) (values : List Value) :
    extractPacked params (values.map Value.toSlot) = spelledArguments params values := by
  unfold extractPacked spelledArguments
  rw [List.zipWith_map_right]
  congr 1
  funext p v
  rw [ParamType.ofSlot, ValueType.ofSlot_eq_ofBits, Value.toNat_word_toSlot]

/-- Suitable values are read from a variable argument list one after the other. The extraction
events are those of the packed form, and whatever follows the suitable values is left unread. -/
lemma extractVariadic_append {params : List ParamType} {values : List Value}
    (h : List.Forall₂ (fun p v => v.Suits p.valueType) params values) (consumed : Nat)
    (surplus : List Promoted) :
    extractVariadic params ⟨consumed, values.map Value.promote ++ surplus⟩ =
      ⟨narrowedArguments params values, ⟨consumed + params.length, surplus⟩,
        packedExtractionEvents params (narrowedArguments params values)⟩ := by
  induction h generalizing consumed with
  | nil => rfl
  | @cons p v params values hv _ ih =>
    simp only [List.map_cons, List.cons_append, extractVariadic, VarArgs.nextValue_promote hv, ih,
      narrowedArguments, packedExtractionEvents, List.zipWith_cons_cons, List.flatten_cons,
      List.map_nil, List.nil_append, List.length_cons]
    rw [show consumed + 1 + params.length = consumed + (params.length + 1) by omega]

lemma Supplied.zipWith_congr {α : Type} {f g : ParamType → Value → α} {params : List ParamType}
    {values : List Value} (h : Supplied params values)
    (hfg : ∀ p, ∀ v ∈ values, v.Suits p.valueType → f p v = g p v) :
    List.zipWith f params values = List.zipWith g params values := by
  induction params generalizing values with
  | nil => rfl
  | cons p params ih =>
    cases values with
    | nil => rfl
    | cons v values =>
      obtain ⟨hv, hrest⟩ := List.forall₂_cons.mp h
      have htail := ih hrest (fun p w hw => hfg p w (List.mem_cons_of_mem v hw))
      rw [List.zipWith_cons_cons, List.zipWith_cons_cons, hfg p v List.mem_cons_self hv, htail]

lemma narrowedArguments_take (params : List ParamType) (values : List Value) :
    narrowedArguments params (values.take params.length) = narrowedArguments params values := by
  induction params generalizing values with
  | nil => rfl
  | cons p params ih =>
    cases values with
    | nil => rfl
    | cons v values => exact congrArg (p.valueType.ofPromoted v.promote :: ·) (ih values)

theorem extractVariadic_ofValues {params : List ParamType} {values : List Value}
    (h : Supplied params values) :
    extractVariadic params (.ofValues values) =
      ⟨narrowedArguments params values,
        ⟨params.length, (values.drop params.length).map Value.promote⟩,
        packedExtractionEvents params (narrowedArguments params values)⟩ := by
  have hsplit : values.map Value.promote = (values.take params.length).map Value.promote ++
      (values.drop params.length).map Value.promote := by
    rw [← List.map_append, List.take_append_drop]
  have hread := extractVariadic_append h 0 ((values.drop params.length).map Value.promote)
  rw [← hsplit, narrowedArguments_take, Nat.zero_add] at hread
  exact hread

theorem narrowedArguments_canonical {params : List ParamType} {values : List Value}
    (h : Supplied params values) :
    (narrowedArguments params values).map Value.canonical =
      (spelledArguments params values).map Value.canonical := by
  unfold narrowedArguments spelledArguments
  rw [List.map_zipWith, List.map_zipWith]
  exact h.zipWith_congr (fun _ _ _ hv => hv.canonical_ofPromoted_promote)

theorem narrowedArguments_eq {params : List ParamType} {values : List Value}
    (h : Supplied params values) (hnan : ∀ v ∈ values, v.isNaN = false) :
    narrowedArguments params values = spelledArguments params values :=
  h.zipWith_congr (fun _ v hmem hv => hv.ofPromoted_promote (hnan v hmem))

end NativeBridge
