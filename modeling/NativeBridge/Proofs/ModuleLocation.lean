import Mathlib.Tactic.Common
import NativeBridge.Linking.Location

/-!
# What location finds

Locating a module goes through the native methods that name it and through its requests. This file
says what it means that nothing is missing: every such native method has an address among the
exports, the short symbol before the long one, every request has a method of the declared shape in
the table, and the plan lists exactly these addresses and methods.
-/

namespace NativeBridge

section Results

variable {ε α : Type} {results : List (Except ε α)}

lemma mem_successes {a : α} : a ∈ successes results ↔ .ok a ∈ results := by
  unfold successes
  rw [List.mem_filterMap]
  constructor
  · rintro ⟨result, hmem, hresult⟩
    cases result with
    | ok b =>
      obtain rfl : b = a := by simpa using hresult
      exact hmem
    | error e => simp at hresult
  · intro hmem
    exact ⟨.ok a, hmem, rfl⟩

lemma failures_eq_nil_iff : failures results = [] ↔ ∀ result ∈ results, ∃ a, result = .ok a := by
  unfold failures
  rw [List.filterMap_eq_nil_iff]
  refine forall₂_congr fun result _ => ?_
  cases result with
  | ok a => simp
  | error e => simp

lemma length_successes (h : failures results = []) :
    (successes results).length = results.length := by
  induction results with
  | nil => rfl
  | cons result results ih =>
    cases result with
    | ok a => exact congrArg (· + 1) (ih h)
    | error e => simp [failures] at h

end Results

lemma ClassTable.mem_nativesOf {t : ClassTable} {moduleName : String} {d : DeclaredNative} :
    d ∈ t.nativesOf moduleName ↔
      d.cls ∈ t.classes ∧ (d.id, d.method) ∈ d.cls.declaredNatives ∧
        d.method.moduleName = moduleName := by
  unfold nativesOf
  rw [List.mem_flatMap]
  constructor
  · rintro ⟨cls, hcls, hd⟩
    obtain ⟨declared, hdeclared, rfl⟩ := List.mem_map.mp hd
    obtain ⟨hmem, hname⟩ := List.mem_filter.mp hdeclared
    exact ⟨hcls, hmem, by simpa using hname⟩
  · rintro ⟨hcls, hmem, hname⟩
    refine ⟨d.cls, hcls, List.mem_map.mpr ⟨(d.id, d.method), ?_, rfl⟩⟩
    exact List.mem_filter.mpr ⟨hmem, by simpa using hname⟩

lemma Class.mem_declaredNatives {cls : Class} {id : NativeId} {native : NativeMethod} :
    (id, native) ∈ cls.declaredNatives ↔
      id.owner = cls.handle ∧ cls.natives[id.index]? = some native := by
  unfold declaredNatives
  rw [List.mem_map]
  constructor
  · rintro ⟨⟨native', index⟩, hmem, heq⟩
    obtain ⟨rfl, rfl⟩ := Prod.mk.inj heq
    exact ⟨rfl, List.mk_mem_zipIdx_iff_getElem?.mp hmem⟩
  · rintro ⟨howner, hget⟩
    refine ⟨(native, id.index), List.mk_mem_zipIdx_iff_getElem?.mpr hget, ?_⟩
    rw [← howner]

lemma ClassTable.mk_mem_nativesOf {t : ClassTable} {cls : Class} {index : Nat}
    {native : NativeMethod} (hcls : cls ∈ t.classes) (hget : cls.natives[index]? = some native) :
    (⟨cls, ⟨cls.handle, index⟩, native⟩ : DeclaredNative) ∈ t.nativesOf native.moduleName := by
  refine ClassTable.mem_nativesOf.mpr ⟨hcls, ?_, rfl⟩
  exact Class.mem_declaredNatives.mpr ⟨rfl, hget⟩

/-- No two native methods of the table that name the module have one identifier. -/
def ClassTable.NativesDistinct (t : ClassTable) (moduleName : String) : Prop :=
  ∀ d ∈ t.nativesOf moduleName, ∀ d' ∈ t.nativesOf moduleName, d'.id = d.id → d' = d

namespace ModuleInterface

variable {i : ModuleInterface} {t : ClassTable}

lemma nativeAddress?_eq_some_iff {d : DeclaredNative} {address : CodeAddress} :
    i.nativeAddress? d = some address ↔
      i.symbol d.shortSymbol = some address ∨
        i.symbol d.shortSymbol = none ∧ i.symbol d.longSymbol = some address := by
  unfold nativeAddress?
  cases i.symbol d.shortSymbol with
  | some found => simp
  | none => simp

lemma locateNative_eq_ok_iff {d : DeclaredNative} {located : LocatedNative} :
    i.locateNative d = .ok located ↔
      ∃ address, i.nativeAddress? d = some address ∧ located = ⟨d.id, d.method, address⟩ := by
  unfold locateNative
  cases i.nativeAddress? d with
  | some address => simp [eq_comm]
  | none => simp

lemma mem_plan_natives {located : LocatedNative} :
    located ∈ (i.plan t).natives ↔ ∃ d ∈ t.nativesOf i.name, ∃ address,
      i.nativeAddress? d = some address ∧ located = ⟨d.id, d.method, address⟩ := by
  change located ∈ successes (i.locatedNatives t) ↔ _
  rw [mem_successes, locatedNatives, List.mem_map]
  refine exists_congr fun d => and_congr_right fun _ => ?_
  exact locateNative_eq_ok_iff

end ModuleInterface

lemma ClassTable.locateImport_eq_ok_iff {t : ClassTable} {r : ImportRequest}
    {located : LocatedImport} :
    t.locateImport r = .ok located ↔ r.malformed = none ∧ ∃ id method,
      t.findMethod? r.key = some (id, method) ∧ r.shape = some method.shape ∧
        located = ⟨r.index, id⟩ := by
  unfold locateImport
  cases r.malformed with
  | some field => simp
  | none =>
    cases t.findMethod? r.key with
    | none => simp
    | some found =>
      obtain ⟨id, method⟩ := found
      cases r.shape with
      | none => simp
      | some declared =>
        by_cases hshape : method.shape = declared
        · simp [hshape, eq_comm]
        · simp [hshape, Ne.symm hshape]

namespace ModuleInterface

variable {i : ModuleInterface} {t : ClassTable}

lemma mem_plan_imports {located : LocatedImport} :
    located ∈ (i.plan t).imports ↔ ∃ r ∈ i.imports, t.locateImport r = .ok located := by
  change located ∈ successes (i.locatedImports t) ↔ _
  rw [mem_successes, locatedImports, List.mem_map]

theorem misses_eq_nil_iff :
    i.misses t = [] ↔ (∀ d ∈ t.nativesOf i.name, ∃ address, i.nativeAddress? d = some address) ∧
      ∀ r ∈ i.imports, ∃ located, t.locateImport r = .ok located := by
  unfold misses
  rw [List.append_eq_nil_iff, failures_eq_nil_iff, failures_eq_nil_iff]
  refine and_congr ?_ ?_
  · rw [locatedNatives, List.forall_mem_map]
    refine forall₂_congr fun d _ => ?_
    constructor
    · rintro ⟨_, hlocated⟩
      obtain ⟨address, haddress, _⟩ := locateNative_eq_ok_iff.mp hlocated
      exact ⟨address, haddress⟩
    · rintro ⟨address, haddress⟩
      exact ⟨_, locateNative_eq_ok_iff.mpr ⟨address, haddress, rfl⟩⟩
  · rw [locatedImports, List.forall_mem_map]

end ModuleInterface

end NativeBridge
