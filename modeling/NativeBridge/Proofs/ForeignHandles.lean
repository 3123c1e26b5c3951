import NativeBridge.Environment.Interface
import NativeBridge.Proofs.ArrayCreation
import NativeBridge.Proofs.InstanceHeader
import NativeBridge.Proofs.StringMethods
import NativeBridge.Proofs.VariadicReads
import NativeBridge.Sample.Words

/-!
# Handles of another class

A handle says nothing about the instance behind it, so foreign code can take any instance for a
string or an array. Each use of a handle first asks for the class of the instance and reaches the
contents only where the class is one that the use accepts. This file lists the uses of both kinds,
says what each does with the contents it reaches, and what is left when it does not reach them.
-/

namespace NativeBridge

/-- What foreign code does with a handle that it takes for a string. -/
inductive StringUse where
  /-- Asks the environment for the length. -/
  | length
  /-- Enters a method of the class of strings with the handle as the receiver. -/
  | ask (q : Builtin.StringQuestion) (caller cls : Handle) (arguments : CallArguments)

/-- What foreign code does with a handle that it takes for an array. A region is read into a buffer
of the caller. -/
inductive ArrayUse where
  | length
  /-- Asks for the length through the interface table. -/
  | tableLength
  | readRegion (width : Nat) (start : Int32) (buffer : List (Vector UInt8 width))
  | writeRegion (width : Nat) (start : Int32) (values : List (Vector UInt8 width))

/-- What the caller sees of a use: the value returned, if any, and how the access went. -/
structure UseOutcome where
  value : Option Value
  access : AccessOutcome

/-- What is left of a use that is refused: one report, the memory as it was, and the given value,
cause and contents of the caller's buffer. -/
structure Refused (value : Option Value) (cause : Option AccessError) (held : List (List UInt8))
    (m : Memory) (r : UseOutcome × Memory) : Prop where
  value : r.1.value = value
  cause : r.1.access.cause = cause
  reports : r.1.access.reports.length = 1
  held : r.1.access.held = held
  memory : r.2 = m

namespace StringUse

def perform (env : Environment) (m : Memory) (object : Handle) : StringUse → UseOutcome × Memory
  | length =>
    let found := env.getStringLength m object
    (⟨some (.int found.1), ⟨none, found.2, []⟩⟩, m)
  | ask q caller cls arguments =>
    let r := env.invoke env.nestedCall q.method ⟨caller, object, cls⟩ arguments m
    (⟨r.value.result.toOption.join, ⟨none, r.violations, []⟩⟩, r.memory)

def ofString (s : StringObject) : StringUse → Value
  | length => .int (Int32.ofNat s.utf16Length)
  | ask q .. => q.answer s.bytes

def fallback : StringUse → Value
  | length | ask .length .. | ask .hashCode .. => .int 0
  | ask .isEmpty .. => .boolean 1

end StringUse

namespace ArrayUse

def perform (env : Environment) (m : Memory) (object : Handle) : ArrayUse → UseOutcome × Memory
  | length =>
    let found := env.getArrayLength m object
    (⟨some (.int found.1), ⟨none, found.2, []⟩⟩, m)
  | tableLength =>
    let found := Interface.arrayLength (some env) m object
    (⟨some (.int found.1), ⟨none, violationsOf found.2, []⟩⟩, m)
  | readRegion width start buffer =>
    match env.getArrayRegion m object width start buffer.length with
    | .error r => (⟨none, .refused r (buffer.map Vector.toList)⟩, m)
    | .ok elements => (⟨none, .done elements⟩, m)
  | writeRegion width start values =>
    match env.setArrayRegion m object width start (values.map Vector.toList) with
    | .error r => (⟨none, .refused r []⟩, m)
    | .ok m' => (⟨none, .done []⟩, m')

/-- The outcome for an array, and the array it leaves. -/
def ofArray (a : ArrayObject) : ArrayUse → UseOutcome × ArrayObject
  | length | tableLength => (⟨some (.int a.count), .done []⟩, a)
  | readRegion width start buffer =>
    let r := a.perform (.getRegion width start buffer)
    (⟨none, r.1⟩, r.2)
  | writeRegion width start values =>
    let r := a.perform (.setRegion width start values)
    (⟨none, r.1⟩, r.2)

def fallback : ArrayUse → Option Value
  | length | tableLength => some (.int 0)
  | readRegion .. | writeRegion .. => none

/-- The cause returned for a handle that is refused: the one that `cause` gives the function, if the
use returns causes. -/
def failure (cause : String → AccessError) : ArrayUse → Option AccessError
  | length | tableLength => none
  | readRegion .. => some (cause "get_array_region")
  | writeRegion .. => some (cause "set_array_region")

def buffer : ArrayUse → List (List UInt8)
  | readRegion _ _ buffer => buffer.map Vector.toList
  | length | tableLength | writeRegion .. => []

end ArrayUse

lemma Memory.write_of_instance? {m : Memory} {object : Handle} {i : Instance}
    (h : m.instance? object = some i) : m.write object i = m := by
  have hheap : m.heap object = some i := by
    rw [← h, Memory.instance?, Memory.isNull_of_instance? h]
    rfl
  have hsame : (fun k => if k = object then some i else m.heap k) = m.heap := by
    funext k
    split
    · next hk => rw [hk, hheap]
    · rfl
  unfold write
  rw [hsame]

lemma StringObject.accepts_iff {c : Class} :
    accepts c = true ↔ c.classpath = "java/lang" ∧ c.classname = "String" := by
  unfold accepts Class.isNamed
  rw [Bool.and_eq_true, beq_iff_eq, beq_iff_eq]
  rfl

section Checks

variable {env : Environment} {m : Memory} {object : Handle} {c : Class}
  {r : String → Refusal AccessError}

namespace Environment

lemma arrayAt?_of_not_isArray (hclass : env.classOf? m object = some c)
    (h : ¬∃ rest, c.classname.toList = '[' :: rest) : env.arrayAt? m object = none := by
  have hrefused : c.isArray = false :=
    Bool.eq_false_iff.mpr fun harray => h (c.isArray_iff.mp harray)
  unfold arrayAt?
  rw [hclass]
  cases m.instance? object with
  | none => rfl
  | some i => cases i <;> simp [hrefused]

/-- The checks of `object` as a string fail, with the refusal that `r` gives each function. -/
structure BarsString (env : Environment) (m : Memory) (object : Handle)
    (r : String → Refusal AccessError) : Prop where
  none : env.stringAt? m object = none
  refused : ∀ function, env.checkedString m object function = .error (r function)
  once : ∀ function, (r function).reports.length = 1

/-- The checks of `object` as an array fail, with the refusal that `r` gives each function. -/
structure BarsArray (env : Environment) (m : Memory) (object : Handle)
    (r : String → Refusal AccessError) : Prop where
  refused : ∀ function, env.checkedArray m object function = .error (r function)
  once : ∀ function, (r function).reports.length = 1

lemma barsString_null : env.BarsString m .null nullInstance := ⟨rfl, fun _ => rfl, fun _ => rfl⟩

lemma barsArray_null : env.BarsArray m .null nullInstance := ⟨fun _ => rfl, fun _ => rfl⟩

lemma barsString_of_not_accepts (hclass : env.classOf? m object = some c)
    (h : ¬(c.classpath = "java/lang" ∧ c.classname = "String")) :
    env.BarsString m object fun function => foreignInstance function c.fullName := by
  have hrefused : StringObject.accepts c = false :=
    Bool.eq_false_iff.mpr fun haccepts => h (StringObject.accepts_iff.mp haccepts)
  have hnone := stringAt?_of_foreign hclass hrefused
  exact ⟨hnone, fun function => by simp only [checkedString, hclass, hnone], fun _ => rfl⟩

lemma barsArray_of_not_isArray (hclass : env.classOf? m object = some c)
    (h : ¬∃ rest, c.classname.toList = '[' :: rest) :
    env.BarsArray m object fun function => foreignInstance function c.fullName := by
  have hnone := arrayAt?_of_not_isArray hclass h
  exact ⟨fun function => by simp only [checkedArray, hclass, hnone], fun _ => rfl⟩

end Environment

namespace StringUse

lemma refused_of_barsString (h : env.BarsString m object r) (use : StringUse) :
    Refused (some use.fallback) none [] m (use.perform env m object) := by
  cases use with
  | length =>
    simp only [perform, Environment.getStringLength, h.refused]
    exact ⟨rfl, rfl, h.once _, rfl, rfl⟩
  | ask q caller cls arguments =>
    simp only [perform, q.invoke_of_other h.none]
    cases q <;> exact ⟨rfl, rfl, rfl, rfl, rfl⟩

lemma perform_of_string {s : StringObject} (hclass : env.classOf? m object = some c)
    (haccepts : c.classpath = "java/lang" ∧ c.classname = "String")
    (hlive : m.instance? object = some (.string s)) (use : StringUse) :
    use.perform env m object = (⟨some (use.ofString s), .done []⟩, m) := by
  have hs := Environment.stringAt?_of_live hclass (StringObject.accepts_iff.mpr haccepts) hlive
  cases use with
  | length =>
    simp only [perform, Environment.getStringLength, Environment.checkedString, hclass, hs]
    rfl
  | ask q caller cls arguments =>
    simp only [perform, q.invoke_of_string hs]
    rfl

end StringUse

namespace ArrayUse

lemma refused_of_barsArray (h : env.BarsArray m object r) (use : ArrayUse) :
    Refused use.fallback (use.failure fun function => (r function).cause) use.buffer m
      (use.perform env m object) := by
  cases use with
  | length =>
    simp only [perform, Environment.getArrayLength, h.refused]
    exact ⟨rfl, rfl, h.once _, rfl, rfl⟩
  | tableLength =>
    simp only [perform, Interface.arrayLength, Environment.getArrayLength, h.refused,
      violationsOf_violations]
    exact ⟨rfl, rfl, h.once _, rfl, rfl⟩
  | readRegion width start buffer =>
    simp only [perform, Environment.getArrayRegion, h.refused]
    exact ⟨rfl, rfl, h.once _, rfl, rfl⟩
  | writeRegion width start values =>
    simp only [perform, Environment.setArrayRegion, h.refused]
    exact ⟨rfl, rfl, h.once _, rfl, rfl⟩

lemma perform_of_array {a : ArrayObject} (hclass : env.classOf? m object = some c)
    (haccepts : ∃ rest, c.classname.toList = '[' :: rest)
    (hlive : m.instance? object = some (.array a)) (use : ArrayUse) :
    use.perform env m object =
      ((use.ofArray a).1, m.write object (.array (use.ofArray a).2)) := by
  have hchecked : ∀ function, env.checkedArray m object function = .ok a := by
    intro function
    simp only [Environment.checkedArray, Environment.arrayAt?, hclass, hlive,
      c.isArray_iff.mpr haccepts, if_true]
  have hsame := Memory.write_of_instance? hlive
  -- A use that only reads writes back the array as it is, which changes nothing.
  cases use with
  | length =>
    simp only [perform, Environment.getArrayLength, hchecked, ofArray, hsame, AccessOutcome.done]
  | tableLength =>
    simp only [perform, Interface.arrayLength, Environment.getArrayLength, hchecked, ofArray, hsame]
    rfl
  | readRegion width start buffer =>
    simp only [perform, Environment.getArrayRegion, hchecked, ofArray, ArrayObject.perform]
    cases a.getRegion width start buffer.length with
    | error r =>
      simp only [hsame]
      rfl
    | ok elements => simp only [hsame]
  | writeRegion width start values =>
    simp only [perform, Environment.setArrayRegion, hchecked, ofArray, ArrayObject.perform]
    cases a.setRegion width start (values.map Vector.toList) with
    | error r =>
      simp only [hsame]
      rfl
    | ok a' => rfl

end ArrayUse

end Checks

/-- The null handle and a handle of any other class are refused by each use of a string and of an
array: it returns zero, or for emptiness true, or for a region the cause, it reports this once, and
every instance and the caller's buffer stay as they were. Only where the class is that of strings,
or an array class, the use does what it does with the contents. -/
theorem foreign_handles_refused (env : Environment) (m : Memory) :
    (∀ handle method, method ∈ (Builtin.stringClass handle).methods ↔
      ∃ q : Builtin.StringQuestion, q.method = method) ∧
    (∀ use : StringUse,
      Refused (some use.fallback) none [] m (use.perform env m .null) ∧
      ∀ object c, env.classOf? m object = some c →
        (¬(c.classpath = "java/lang" ∧ c.classname = "String") →
          Refused (some use.fallback) none [] m (use.perform env m object)) ∧
        ∀ s, c.classpath = "java/lang" ∧ c.classname = "String" →
          m.instance? object = some (.string s) →
          use.perform env m object = (⟨some (use.ofString s), .done []⟩, m)) ∧
    ∀ use : ArrayUse,
      Refused use.fallback (use.failure .missingInstance) use.buffer m
        (use.perform env m .null) ∧
      ∀ object c, env.classOf? m object = some c →
        ((¬∃ rest, c.classname.toList = '[' :: rest) →
          Refused use.fallback (use.failure fun function => .instanceClass function c.fullName)
            use.buffer m (use.perform env m object)) ∧
        ∀ a, (∃ rest, c.classname.toList = '[' :: rest) →
          m.instance? object = some (.array a) →
          use.perform env m object =
            ((use.ofArray a).1, m.write object (.array (use.ofArray a).2)) := by
  refine ⟨fun _ _ => Builtin.StringQuestion.mem_methods_stringClass_iff,
    fun use => ⟨use.refused_of_barsString Environment.barsString_null, ?_⟩,
    fun use => ⟨use.refused_of_barsArray Environment.barsArray_null, ?_⟩⟩
  · intro object c hclass
    refine ⟨fun hother => ?_, fun s haccepts hlive => use.perform_of_string hclass haccepts hlive⟩
    exact use.refused_of_barsString (Environment.barsString_of_not_accepts hclass hother)
  · intro object c hclass
    refine ⟨fun hother => ?_, fun a haccepts hlive => use.perform_of_array hclass haccepts hlive⟩
    exact use.refused_of_barsArray (Environment.barsArray_of_not_isArray hclass hother)

theorem words_and_arrays_kept_apart :
    let env := Sample.wordEnvironment
    let m := Sample.wordMemory
    Refused none (some (.instanceClass "get_array_region" "java/lang/String")) [[7, 7, 7, 7]] m
        ((ArrayUse.readRegion 4 0 [#v[7, 7, 7, 7]]).perform env m ⟨0x500⟩) ∧
      Refused (some (.int 0)) none [] m (StringUse.length.perform env m ⟨0x600⟩) ∧
      (ArrayUse.readRegion 4 0 [#v[7, 7, 7, 7]]).perform env m ⟨0x600⟩ =
        (⟨none, .done [[1, 2, 3, 4]]⟩, m) := by
  intro env m
  obtain ⟨_, hstring, harray⟩ := foreign_handles_refused env m
  obtain ⟨_, hread⟩ := harray (.readRegion 4 0 [#v[7, 7, 7, 7]])
  obtain ⟨_, hlength⟩ := hstring .length
  obtain ⟨hrefused, _⟩ := hread ⟨0x500⟩ (Builtin.stringClass ⟨0x40⟩) rfl
  obtain ⟨_, hdone⟩ :=
    hread ⟨0x600⟩ (Builtin.primitiveArrayClass Sample.intType ⟨0x50⟩) rfl
  obtain ⟨hforeign, _⟩ :=
    hlength ⟨0x600⟩ (Builtin.primitiveArrayClass Sample.intType ⟨0x50⟩) rfl
  refine ⟨hrefused ?_, hforeign (by decide), ?_⟩
  · rintro ⟨rest, hname⟩
    have hfirst : some 'S' = some '[' := congrArg List.head? hname
    exact absurd hfirst (by decide)
  · have hlive : m.instance? ⟨0x600⟩ = some (.array Sample.intArray) := rfl
    exact (hdone Sample.intArray ⟨_, rfl⟩ hlive).trans
      (Prod.ext rfl (Memory.write_of_instance? hlive))

end NativeBridge
