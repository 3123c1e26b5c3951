import NativeBridge.Environment.Container
import NativeBridge.Proofs.ArrayElements
import NativeBridge.Proofs.RegistryIndex

/-!
# Arrays made through the environment

Foreign code asks for an array by the name of its class and by a count. The name says which class
the elements are of and how wide they are. The request is refused with the first reason that
applies, or it gives an array of zeros of the classes that the table has under the two names. The
size of the buffer is checked too, but no count and width reach the limit.
-/

namespace NativeBridge

namespace ElementType

lemma width_of_ofElementChars? {element : List Char} {e : ElementType}
    (h : ofElementChars? element = some e) : 0 < e.width ∧ e.width ≤ 8 := by
  have hprimitive : ∀ p ∈ primitives, 0 < p.width ∧ p.width ≤ 8 := by decide
  have hreference : 0 < referenceWidth ∧ referenceWidth ≤ 8 := by decide
  unfold ofElementChars? at h
  split at h
  · obtain rfl := Option.some.inj h
    exact hreference
  · split at h
    · obtain rfl := Option.some.inj h
      exact hreference
    · obtain ⟨p, hp, rfl⟩ := Option.map_eq_some_iff.mp h
      exact hprimitive p (List.mem_of_find?_eq_some hp)
    · cases h

lemma width_of_ofArrayClass? {name : String} {e : ElementType} (h : ofArrayClass? name = some e) :
    0 < e.width ∧ e.width ≤ 8 := by
  unfold ofArrayClass? at h
  split at h
  · exact width_of_ofElementChars? h
  · cases h

lemma toInt_width {name : String} {e : ElementType} (h : ofArrayClass? name = some e) :
    (Int32.ofNat e.width).toInt = e.width := by
  have hwidth := width_of_ofArrayClass? h
  exact Int32.toInt_ofNat_of_lt (by omega)

end ElementType

lemma Class.isArray_iff (c : Class) :
    c.isArray = true ↔ ∃ rest, c.classname.toList = '[' :: rest := by
  unfold isArray
  rw [beq_iff_eq, List.head?_eq_some_iff]

namespace ArrayObject

variable {arrayClass elementClass : Class} {count elementSize : Int32}

lemma make?_of_not_isArray (h : arrayClass.isArray = false) :
    make? arrayClass elementClass count elementSize =
      .error (.classMismatch "an array class" arrayClass.fullName) := by
  unfold make?
  rw [h, Bool.not_false, if_pos rfl]

lemma make?_of_negative (harray : arrayClass.isArray = true) (h : count.toInt < 0) :
    make? arrayClass elementClass count elementSize = .error (.negativeLength count) := by
  have hnegative : count < 0 := Int32.lt_iff_toInt_lt.mpr h
  unfold make?
  rw [harray, Bool.not_true, if_neg Bool.false_ne_true, if_pos hnegative]

lemma make?_of_empty_elements (harray : arrayClass.isArray = true) (hcount : 0 ≤ count.toInt)
    (h : elementSize.toInt ≤ 0) :
    make? arrayClass elementClass count elementSize = .error (.invalidElementSize elementSize) := by
  have hnonneg : ¬count < 0 := mt Int32.lt_iff_toInt_lt.mp (Int.not_lt.mpr hcount)
  have hempty : elementSize ≤ 0 := Int32.le_iff_toInt_le.mpr h
  unfold make?
  rw [harray, Bool.not_true, if_neg Bool.false_ne_true, if_neg hnonneg, if_pos hempty]

lemma make?_ne_tooLarge (arrayClass elementClass : Class) (count elementSize n size : Int32) :
    make? arrayClass elementClass count elementSize ≠ .error (.tooLarge n size) := by
  cases harray : arrayClass.isArray with
  | false => simp [make?_of_not_isArray harray]
  | true =>
    by_cases hcount : count.toInt < 0
    · simp [make?_of_negative harray hcount]
    · by_cases hsize : elementSize.toInt ≤ 0
      · simp [make?_of_empty_elements harray (Int.not_lt.mp hcount) hsize]
      · obtain ⟨a, hmake, -⟩ := exists_make?_isNew elementClass harray (Int.not_lt.mp hcount)
          (Int.not_le.mp hsize)
        simp [hmake]

end ArrayObject

namespace Environment

/-- What an array class name stands for: an element type, and the table's classes of the name itself
and of the name of the elements. -/
structure ResolvesArray (env : Environment) (name : String) (element : ElementType)
    (arrayClass elementClass : Class) : Prop where
  described : ElementType.ofArrayClass? name = some element
  array : env.table.find? name = some arrayClass
  elements : env.table.find? element.name = some elementClass

/-- Why an array is refused: the first of the reasons that applies. -/
inductive RefusesArray (env : Environment) (name : String) (count : Int32) : CallError → Prop where
  | name : ElementType.ofArrayClass? name = none → env.RefusesArray name count (.unknownClass name)
  | array {element} : ElementType.ofArrayClass? name = some element →
    env.table.find? name = none → env.RefusesArray name count (.unknownClass name)
  | elements {element arrayClass} : ElementType.ofArrayClass? name = some element →
    env.table.find? name = some arrayClass → env.table.find? element.name = none →
    env.RefusesArray name count (.unknownClass element.name)
  | notArray {element arrayClass elementClass} :
    env.ResolvesArray name element arrayClass elementClass →
    (¬∃ rest, arrayClass.classname.toList = '[' :: rest) →
    env.RefusesArray name count (.object (.classMismatch "an array class" arrayClass.fullName))
  | negative {element arrayClass elementClass} :
    env.ResolvesArray name element arrayClass elementClass →
    (∃ rest, arrayClass.classname.toList = '[' :: rest) → count.toInt < 0 →
    env.RefusesArray name count (.object (.negativeLength count))

/-- When an array is made: the name stands for classes, the array class is one by its own name, and
the count is not negative. -/
structure AdmitsArray (env : Environment) (name : String) (count : Int32) (element : ElementType)
    (arrayClass elementClass : Class) : Prop extends
    env.ResolvesArray name element arrayClass elementClass where
  bracket : ∃ rest, arrayClass.classname.toList = '[' :: rest
  count : 0 ≤ count.toInt

section NewArray

variable {env : Environment} {name : String} {count : Int32} {element : ElementType}
  {arrayClass elementClass : Class}

lemma classNamed_of_find? {name : String} {c : Class} (h : env.table.find? name = some c) :
    env.classNamed name = .ok c := by simp only [classNamed, h]

lemma classNamed_of_absent (h : env.table.find? name = none) :
    env.classNamed name = .error (.unknownClass name) := by simp only [classNamed, h]

lemma newArray_of_resolvesArray (h : env.ResolvesArray name element arrayClass elementClass) :
    env.newArray name count = (ArrayObject.make? arrayClass elementClass count
      (Int32.ofNat element.width)).mapError .object := by
  simp only [newArray, h.described, classNamed_of_find? h.array, classNamed_of_find? h.elements]

lemma newArray_of_refusesArray {e : CallError} (h : env.RefusesArray name count e) :
    env.newArray name count = .error e := by
  cases h with
  | name unreadable => simp only [newArray, unreadable]
  | array readable absent => simp only [newArray, readable, classNamed_of_absent absent]
  | elements readable present absent =>
    simp only [newArray, readable, classNamed_of_find? present, classNamed_of_absent absent]
  | notArray resolves other =>
    have hother := Bool.eq_false_iff.mpr (mt (Class.isArray_iff _).mp other)
    rw [newArray_of_resolvesArray resolves, ArrayObject.make?_of_not_isArray hother]
    rfl
  | negative resolves bracket negative =>
    have harray := (Class.isArray_iff _).mpr bracket
    rw [newArray_of_resolvesArray resolves, ArrayObject.make?_of_negative harray negative]
    rfl

lemma exists_newArray_of_admitsArray
    (h : env.AdmitsArray name count element arrayClass elementClass) :
    ∃ a, env.newArray name count = .ok a ∧
      a.IsNew arrayClass elementClass count (Int32.ofNat element.width) := by
  have hwidth := ElementType.width_of_ofArrayClass? h.described
  have hsize : 0 < (Int32.ofNat element.width).toInt := by
    rw [ElementType.toInt_width h.described]
    omega
  obtain ⟨a, hmake, hnew⟩ := ArrayObject.exists_make?_isNew elementClass
    ((Class.isArray_iff _).mpr h.bracket) h.count hsize
  rw [newArray_of_resolvesArray h.toResolvesArray, hmake]
  exact ⟨a, rfl, hnew⟩

lemma admitsArray_or_refusesArray (env : Environment) (name : String) (count : Int32) :
    (∃ element arrayClass elementClass,
      env.AdmitsArray name count element arrayClass elementClass) ∨
      ∃ e, env.RefusesArray name count e := by
  cases helement : ElementType.ofArrayClass? name with
  | none => exact .inr ⟨_, .name helement⟩
  | some element =>
    cases harray : env.table.find? name with
    | none => exact .inr ⟨_, .array helement harray⟩
    | some arrayClass =>
      cases helements : env.table.find? element.name with
      | none => exact .inr ⟨_, .elements helement harray helements⟩
      | some elementClass =>
        have hresolves : env.ResolvesArray name element arrayClass elementClass :=
          ⟨helement, harray, helements⟩
        by_cases hbracket : ∃ rest, arrayClass.classname.toList = '[' :: rest
        · by_cases hcount : count.toInt < 0
          · exact .inr ⟨_, .negative hresolves hbracket hcount⟩
          · exact .inl ⟨element, arrayClass, elementClass, hresolves, hbracket,
              Int.not_lt.mp hcount⟩
        · exact .inr ⟨_, .notArray hresolves hbracket⟩

lemma newArray_eq_error_iff {e : CallError} :
    env.newArray name count = .error e ↔ env.RefusesArray name count e := by
  refine ⟨fun herror => ?_, newArray_of_refusesArray⟩
  obtain ⟨element, arrayClass, elementClass, hadmits⟩ | ⟨e', hrefuses⟩ :=
    admitsArray_or_refusesArray env name count
  · obtain ⟨a, hok, -⟩ := exists_newArray_of_admitsArray hadmits
    rw [hok] at herror
    cases herror
  · rw [newArray_of_refusesArray hrefuses] at herror
    obtain rfl := Except.error.inj herror
    exact hrefuses

lemma newArray_eq_ok {a : ArrayObject} (h : env.newArray name count = .ok a) :
    ∃ element arrayClass elementClass,
      env.AdmitsArray name count element arrayClass elementClass ∧
      a.IsNew arrayClass elementClass count (Int32.ofNat element.width) := by
  obtain ⟨element, arrayClass, elementClass, hadmits⟩ | ⟨e, hrefuses⟩ :=
    admitsArray_or_refusesArray env name count
  · obtain ⟨a', hok, hnew⟩ := exists_newArray_of_admitsArray hadmits
    rw [hok] at h
    obtain rfl := Except.ok.inj h
    exact ⟨element, arrayClass, elementClass, hadmits, hnew⟩
  · rw [newArray_of_refusesArray hrefuses] at h
    cases h

/-- An array is made for exactly the admitted requests and any other request is refused with the
first reason that applies. What is made is of the table's classes of the two names, counts as many
elements as asked for, each as wide as the name says, and holds a zero in each of the bytes they
take. No count and width, whatever the classes, would need too large a buffer. -/
theorem newArray_makes_zeros_or_refuses (env : Environment) (name : String) (count : Int32) :
    ((∃ a, env.newArray name count = .ok a) ↔ ∃ element arrayClass elementClass,
      env.AdmitsArray name count element arrayClass elementClass) ∧
    (∀ e, env.newArray name count = .error e ↔ env.RefusesArray name count e) ∧
    (∀ a, env.newArray name count = .ok a → ∃ element arrayClass elementClass,
      let bytes := count.toInt.toNat * element.width
      env.AdmitsArray name count element arrayClass elementClass ∧
        a.cls = arrayClass.handle ∧ a.elementClass = elementClass.handle ∧ a.count = count ∧
        a.elementSize.toInt = element.width ∧ a.elements = .zeros bytes ∧
        a.dataLength.toNat = bytes ∧ (a.buffer = .null ↔ bytes = 0) ∧
        a.Holds (.zeros count.toInt.toNat element.width)) ∧
    (∀ r : ClassRegistry, r.Indexed → env.table = r.toTable → ∀ name c,
      env.table.find? name = some c ↔ c ∈ env.table.classes ∧ c.fullName = name) ∧
    ∀ n size : Int32, (0 ≤ n.toInt → n.toInt * size.toInt < 2 ^ 62) ∧
      ∀ arrayClass elementClass n' size',
        ArrayObject.make? arrayClass elementClass n size ≠ .error (.tooLarge n' size') := by
  refine ⟨⟨?_, ?_⟩, fun e => newArray_eq_error_iff, ?_, ?_, fun n size => ⟨?_, ?_⟩⟩
  · rintro ⟨a, hok⟩
    obtain ⟨element, arrayClass, elementClass, hadmits, -⟩ := newArray_eq_ok hok
    exact ⟨element, arrayClass, elementClass, hadmits⟩
  · rintro ⟨element, arrayClass, elementClass, hadmits⟩
    obtain ⟨a, hok, -⟩ := exists_newArray_of_admitsArray hadmits
    exact ⟨a, hok⟩
  · intro a hok
    obtain ⟨element, arrayClass, elementClass, hadmits, hnew⟩ := newArray_eq_ok hok
    have hwidth := ElementType.toInt_width hadmits.described
    have hpos := (ElementType.width_of_ofArrayClass? hadmits.described).1
    have hholds := hnew.holds hadmits.count (by omega)
    have helements := hnew.elements
    have hbuffer := hnew.buffer
    rw [hwidth, Int.toNat_natCast] at hholds helements hbuffer
    refine ⟨element, arrayClass, elementClass, hadmits, hnew.cls, hnew.elementClass, hnew.count,
      ?_, helements, ?_, hbuffer, hholds⟩
    · rw [hnew.elementSize, hwidth]
    · exact hholds.toNat_dataLength.trans (congrArg (· * element.width) List.length_replicate)
  · intro r hr htable name c
    rw [htable, hr.find?_toTable_eq_some_iff]
    rfl
  · intro hn
    have hbound := toNat_mul_toNat_lt n size
    by_cases hsize : 0 ≤ size.toInt
    · rw [← Int.toNat_of_nonneg hn, ← Int.toNat_of_nonneg hsize]
      exact_mod_cast hbound
    · have hproduct : n.toInt * size.toInt ≤ 0 :=
        Int.mul_nonpos_of_nonneg_of_nonpos hn (by omega)
      omega
  · intro arrayClass elementClass
    exact ArrayObject.make?_ne_tooLarge arrayClass elementClass n size

end NewArray

end Environment

namespace Sample

/-- An environment that knows shorts and arrays of them, and a class with the name of an array of
bytes but no class of bytes. -/
def shortsEnvironment : Environment :=
  .ofTable (ClassRegistry.empty.registerAll
    [Builtin.bare "" "short" 2 ⟨0x30⟩, shortArrayClass, Builtin.bare "" "[B" 32 ⟨0x50⟩]).toTable []

end Sample

namespace Environment

/-- Three shorts are six bytes of zeros. A negative count, an element class that is not in the table
and a name without a bracket are refused. -/
theorem shorts_made_or_refused :
    let env := Sample.shortsEnvironment
    (∃ a, env.newArray "[S" 3 = .ok a ∧ a.cls = ⟨0x40⟩ ∧ a.elementClass = ⟨0x30⟩ ∧
      a.elements = .zeros 6 ∧ a.dataLength.toNat = 6) ∧
    env.newArray "[S" (-1) = .error (.object (.negativeLength (-1))) ∧
    env.newArray "[B" (-1) = .error (.unknownClass "byte") ∧
    env.newArray "short" 1 = .error (.unknownClass "short") := by
  intro env
  obtain ⟨hmade, _, hzeros, _⟩ := newArray_makes_zeros_or_refuses env "[S" 3
  obtain ⟨_, hnegative, _⟩ := newArray_makes_zeros_or_refuses env "[S" (-1)
  obtain ⟨_, helements, _⟩ := newArray_makes_zeros_or_refuses env "[B" (-1)
  obtain ⟨_, hname, _⟩ := newArray_makes_zeros_or_refuses env "short" 1
  have hresolves : env.ResolvesArray "[S" ⟨"short", 2⟩ Sample.shortArrayClass
      (Builtin.bare "" "short" 2 ⟨0x30⟩) := ⟨by decide, by rfl, by rfl⟩
  have hbyte : ElementType.ofArrayClass? "[B" = some ⟨"byte", 1⟩ := by decide
  have hbracket : ∃ rest, Sample.shortArrayClass.classname.toList = '[' :: rest := ⟨['S'], by rfl⟩
  refine ⟨?_, (hnegative _).mpr (.negative hresolves hbracket (by decide)),
    (helements _).mpr (.elements hbyte rfl rfl),
    (hname _).mpr (.name (by decide))⟩
  obtain ⟨a, hok⟩ := hmade.mpr ⟨_, _, _, hresolves, hbracket, by decide⟩
  obtain ⟨element, arrayClass, elementClass, hadmits, hclass, helement, _, _, hbytes, hlength, _⟩ :=
    hzeros a hok
  obtain rfl : element = ⟨"short", 2⟩ :=
    Option.some.inj (hadmits.described.symm.trans hresolves.described)
  obtain rfl := Option.some.inj (hadmits.array.symm.trans hresolves.array)
  obtain rfl := Option.some.inj (hadmits.elements.symm.trans hresolves.elements)
  exact ⟨a, hok, hclass, helement, hbytes, hlength⟩

end Environment

end NativeBridge
