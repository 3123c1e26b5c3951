import Mathlib.Data.Nat.Find
import NativeBridge.Environment.Basic
import NativeBridge.Proofs.ModuleLocation
import NativeBridge.Sample.Account

/-!
# Which method a lookup chooses

A class may declare several methods of one name and signature in different shapes. A request for a
method is answered by the first of them and compared with the declared shape afterwards, while a
lookup by shape passes over the methods of other shapes. The two agree on every method that a
request receives, but a request for a method that stands behind one of another shape is refused.
-/

namespace NativeBridge

def ManagedMethod.IsNamed (m : ManagedMethod) (name signature : String) : Prop :=
  m.name = name ∧ m.signature = signature

/-- The method at the position is the first of the class with the property. -/
structure Class.FirstAt (c : Class) (p : ManagedMethod → Prop) (position : Nat)
    (m : ManagedMethod) : Prop where
  declared : c.methods[position]? = some m
  holds : p m
  earlier : ∀ i < position, ∀ m', c.methods[i]? = some m' → ¬p m'

namespace Class

variable {c : Class}

lemma FirstAt.mem {p : ManagedMethod → Prop} {position : Nat} {m : ManagedMethod}
    (h : c.FirstAt p position m) : m ∈ c.methods :=
  List.mem_of_getElem? h.declared

lemma exists_firstAt {p : ManagedMethod → Prop} {m : ManagedMethod} (hmem : m ∈ c.methods)
    (hm : p m) : ∃ position first, c.FirstAt p position first := by
  classical
  have hsome : ∃ i : Nat, ∃ m', c.methods[i]? = some m' ∧ p m' := by
    obtain ⟨i, hi⟩ := List.mem_iff_getElem?.mp hmem
    exact ⟨i, m, hi, hm⟩
  obtain ⟨first, hfirst, hp⟩ := Nat.find_spec hsome
  refine ⟨Nat.find hsome, first, hfirst, hp, ?_⟩
  intro i hi m' hm' hp'
  exact Nat.find_min hsome hi ⟨m', hm', hp'⟩

lemma getElem?_declaredMethods (c : Class) (i : Nat) :
    c.declaredMethods[i]? = (c.methods[i]?).map fun m => (⟨c.handle, i⟩, m) := by
  unfold declaredMethods
  rw [List.getElem?_map, List.getElem?_zipIdx, Option.map_map, Nat.zero_add]
  rfl

lemma find?_declaredMethods_eq_some_iff (test : ManagedMethod → Bool) {p : ManagedMethod → Prop}
    (htest : ∀ m, test m = true ↔ p m) {id : MethodId} {m : ManagedMethod} :
    (c.declaredMethods.find? fun d => test d.2) = some (id, m) ↔
      id.owner = c.handle ∧ c.FirstAt p id.index m := by
  rw [List.find?_eq_some_iff_getElem]
  constructor
  · rintro ⟨hpass, i, hi, hget, hearlier⟩
    have hdeclared := c.getElem?_declaredMethods i
    rw [List.getElem?_eq_getElem hi, hget, eq_comm, Option.map_eq_some_iff] at hdeclared
    obtain ⟨m', hm', heq⟩ := hdeclared
    obtain ⟨rfl, rfl⟩ := Prod.mk.inj heq
    refine ⟨rfl, hm', (htest m').mp hpass, ?_⟩
    -- The search passed over every earlier method, so none of them has the property.
    intro j hj m'' hm'' hp
    have hj' : c.declaredMethods[j] = (⟨c.handle, j⟩, m'') := by
      apply Option.some.inj
      rw [← List.getElem?_eq_getElem (Nat.lt_trans hj hi), c.getElem?_declaredMethods j, hm'']
      rfl
    have hfail := hearlier j hj
    rw [hj', (htest m'').mpr hp] at hfail
    cases hfail
  · rintro ⟨howner, hfirst⟩
    have hget : c.declaredMethods[id.index]? = some (id, m) := by
      rw [c.getElem?_declaredMethods, hfirst.declared, ← howner]
      rfl
    obtain ⟨hi, hget⟩ := List.getElem?_eq_some_iff.mp hget
    refine ⟨(htest m).mpr hfirst.holds, id.index, hi, hget, ?_⟩
    intro j hj
    have hdeclared := c.getElem?_declaredMethods j
    rw [List.getElem?_eq_getElem (Nat.lt_trans hj hi), eq_comm, Option.map_eq_some_iff] at hdeclared
    obtain ⟨m', hm', heq⟩ := hdeclared
    rw [← heq, Bool.not_eq_true', Bool.eq_false_iff]
    exact fun hpass => hfirst.earlier j hj m' hm' ((htest m').mp hpass)

lemma findMethod?_eq_some_iff {name signature : String} {id : MethodId} {m : ManagedMethod} :
    c.findMethod? name signature = some (id, m) ↔
      id.owner = c.handle ∧ c.FirstAt (·.IsNamed name signature) id.index m := by
  refine find?_declaredMethods_eq_some_iff (fun m => m.name == name && m.signature == signature) ?_
  intro m
  simp [ManagedMethod.IsNamed]

lemma findShaped?_eq_some_iff {name signature : String} {accept : CallShape → Bool} {id : MethodId}
    {m : ManagedMethod} :
    c.findShaped? name signature accept = some (id, m) ↔ id.owner = c.handle ∧
      c.FirstAt (fun m => m.IsNamed name signature ∧ accept m.shape = true) id.index m := by
  refine find?_declaredMethods_eq_some_iff
    (fun m => m.name == name && m.signature == signature && accept m.shape) ?_
  intro m
  simp [ManagedMethod.IsNamed]

lemma FirstAt.shaped {name signature : String} {position : Nat} {m : ManagedMethod}
    (h : c.FirstAt (·.IsNamed name signature) position m) (accept : CallShape → Bool)
    (hshape : accept m.shape = true) :
    c.FirstAt (fun m => m.IsNamed name signature ∧ accept m.shape = true) position m :=
  ⟨h.declared, ⟨h.holds, hshape⟩, fun i hi m' hm' hp => h.earlier i hi m' hm' hp.1⟩

end Class

/-- The sound request for a method in a known shape. -/
def ImportRequest.ofKey (index : Nat) (key : MemberKey) (shape : CallShape) : ImportRequest where
  index := index
  classpath := key.classpath
  classname := key.classname
  method := key.name
  signature := key.signature
  shape := some shape
  malformed := none

namespace ClassTable

variable {t : ClassTable} {key : MemberKey} {index : Nat} {shape : CallShape}

lemma findMethod?_eq_some_iff {id : MethodId} {m : ManagedMethod} :
    t.findMethod? key = some (id, m) ↔ ∃ c, t.get? key.classpath key.classname = some c ∧
      id.owner = c.handle ∧ c.FirstAt (·.IsNamed key.name key.signature) id.index m := by
  unfold findMethod?
  rw [Option.bind_eq_some_iff]
  refine exists_congr fun c => and_congr_right fun _ => ?_
  exact Class.findMethod?_eq_some_iff

lemma findMethod?_of_firstAt {c : Class} {position : Nat} {m : ManagedMethod}
    (hc : t.get? key.classpath key.classname = some c)
    (hfirst : c.FirstAt (·.IsNamed key.name key.signature) position m) :
    t.findMethod? key = some (⟨c.handle, position⟩, m) :=
  findMethod?_eq_some_iff.mpr ⟨c, hc, rfl, hfirst⟩

lemma locateImport_ofKey_eq_ok_iff {located : LocatedImport} :
    t.locateImport (.ofKey index key shape) = .ok located ↔ ∃ c position m,
      t.get? key.classpath key.classname = some c ∧
        c.FirstAt (·.IsNamed key.name key.signature) position m ∧ m.shape = shape ∧
        located = ⟨index, ⟨c.handle, position⟩⟩ := by
  rw [locateImport_eq_ok_iff]
  constructor
  · rintro ⟨_, id, m, hfind, hshape, rfl⟩
    obtain ⟨c, hc, howner, hfirst⟩ := findMethod?_eq_some_iff.mp hfind
    exact ⟨c, id.index, m, hc, hfirst, (Option.some.inj hshape).symm, by rw [← howner]; rfl⟩
  · rintro ⟨c, position, m, hc, hfirst, rfl, rfl⟩
    exact ⟨rfl, _, m, findMethod?_of_firstAt hc hfirst, rfl, rfl⟩

lemma findShaped?_of_locateImport_ofKey {c : Class} {located : LocatedImport}
    (hc : t.get? key.classpath key.classname = some c)
    (hlocated : t.locateImport (.ofKey index key shape) = .ok located) :
    ∃ m ∈ c.methods, m.IsNamed key.name key.signature ∧ m.shape = shape ∧
      c.findShaped? key.name key.signature (· = shape) = some (located.method, m) := by
  obtain ⟨c', position, m, hc', hfirst, hshape, rfl⟩ := locateImport_ofKey_eq_ok_iff.mp hlocated
  obtain rfl : c' = c := Option.some.inj (hc'.symm.trans hc)
  refine ⟨m, hfirst.mem, hfirst.holds, hshape, ?_⟩
  exact Class.findShaped?_eq_some_iff.mpr
    ⟨rfl, hfirst.shaped (fun s => decide (s = shape)) (decide_eq_true hshape)⟩

lemma locateImport_ofKey_of_other {id : MethodId} {m : ManagedMethod}
    (hfind : t.findMethod? key = some (id, m)) (hshape : m.shape ≠ shape) :
    t.locateImport (.ofKey index key shape) = .error (.otherShape key shape m.shape) := by
  have hkey : (ImportRequest.ofKey index key shape).key = key := rfl
  unfold locateImport
  simp only [hkey, hfind]
  exact if_neg hshape

lemma exists_firstAt_decides (index : Nat) (shape : CallShape) {c : Class} {m : ManagedMethod}
    (hc : t.get? key.classpath key.classname = some c) (hmem : m ∈ c.methods)
    (hm : m.IsNamed key.name key.signature) :
    ∃ position first, c.FirstAt (·.IsNamed key.name key.signature) position first ∧
      (first.shape = shape → ∃ located, t.locateImport (.ofKey index key shape) = .ok located) ∧
      (first.shape ≠ shape →
        t.locateImport (.ofKey index key shape) = .error (.otherShape key shape first.shape)) := by
  obtain ⟨position, first, hfirst⟩ :=
    Class.exists_firstAt (p := (·.IsNamed key.name key.signature)) hmem hm
  refine ⟨position, first, hfirst, ?_, ?_⟩
  · intro hshape
    exact ⟨_, locateImport_ofKey_eq_ok_iff.mpr ⟨c, position, first, hc, hfirst, hshape, rfl⟩⟩
  · exact locateImport_ofKey_of_other (findMethod?_of_firstAt hc hfirst)

/-- A sound request for a method is located exactly when the class that the table finds declares a
method of the name and signature, the first of which has the shape. The method located is the one
that a search among the methods of the shape finds, for a static shape that of the environment's
lookup. A class with a method of the shape that is not located has one of another shape before it,
and the request is refused with that shape; where all methods of the name and signature have one
shape, every declared method is located. -/
theorem locateImport_ofKey (t : ClassTable) (key : MemberKey) (index : Nat) (shape : CallShape) :
    let located := t.locateImport (.ofKey index key shape)
    let found := fun c : Class => t.get? key.classpath key.classname = some c
    let named := fun m : ManagedMethod => m.IsNamed key.name key.signature
    (∀ l, located = .ok l ↔ ∃ c position m, found c ∧ c.FirstAt named position m ∧
      m.shape = shape ∧ l = ⟨index, ⟨c.handle, position⟩⟩) ∧
    (∀ c l, found c → located = .ok l → ∃ m ∈ c.methods, named m ∧ m.shape = shape ∧
      c.findShaped? key.name key.signature (· = shape) = some (l.method, m)) ∧
    (∀ (c : Class) (l : LocatedImport) (env : Environment), found c → located = .ok l →
      shape = .static → env.classAt? c.handle = some c →
        env.getStaticMethodId c.handle key.name key.signature = (some l.method, [])) ∧
    (∀ c, found c → ∀ m ∈ c.methods, named m → m.shape = shape → (∃ l, located = .ok l) ∨
      ∃ position first, c.FirstAt named position first ∧ first.shape ≠ shape ∧
        located = .error (.otherShape key shape first.shape)) ∧
    ∀ c, found c → (∀ m ∈ c.methods, named m → ∀ m' ∈ c.methods, named m' → m.shape = m'.shape) →
      ((∃ l, located = .ok l) ↔ ∃ m ∈ c.methods, named m ∧ m.shape = shape) := by
  intro located found named
  refine ⟨fun l => locateImport_ofKey_eq_ok_iff,
    fun c l => findShaped?_of_locateImport_ofKey, ?_, ?_, ?_⟩
  · intro c l env hc hlocated hstatic hclass
    obtain ⟨m, _, _, _, hfind⟩ := findShaped?_of_locateImport_ofKey hc hlocated
    subst hstatic
    simp only [Environment.getStaticMethodId, Environment.methodIdWhere, hclass, hfind]
    rfl
  · intro c hc m hmem hm hshape
    obtain ⟨position, first, hfirst, hok, herror⟩ :=
      exists_firstAt_decides index shape hc hmem hm
    by_cases hsame : first.shape = shape
    · exact .inl (hok hsame)
    · exact .inr ⟨position, first, hfirst, hsame, herror hsame⟩
  · intro c hc huniform
    constructor
    · rintro ⟨l, hlocated⟩
      obtain ⟨m, hmem, hm, hshape, _⟩ := findShaped?_of_locateImport_ofKey hc hlocated
      exact ⟨m, hmem, hm, hshape⟩
    · rintro ⟨m, hmem, hm, hshape⟩
      obtain ⟨position, first, hfirst, hok, _⟩ :=
        exists_firstAt_decides index shape hc hmem hm
      -- The first of the methods has the shape of any of them, so also that of `m`.
      exact hok ((huniform first hfirst.mem hfirst.holds m hmem hm).trans hshape)

end ClassTable

namespace Sample

/-- `it/Tally` with a virtual method in front of the static one of the same name and signature. -/
def twoShapesClass : Class :=
  { tallyClass ⟨0x40⟩ with
    methods := ⟨"tally", "(III)I", .virtual, Builtin.objectHashCode⟩ :: (tallyClass ⟨0x40⟩).methods }

def twoShapesTable : ClassTable := (ClassRegistry.empty.register twoShapesClass).toTable

end Sample

namespace ClassTable

/-- The static method is declared and found by shape, and a request for it is refused. -/
theorem static_behind_virtual_refused :
    let key : MemberKey := ⟨"it", "Tally", "tally", "(III)I"⟩
    let env := Environment.ofTable Sample.twoShapesTable []
    Sample.twoShapesTable.get? key.classpath key.classname = some Sample.twoShapesClass ∧
      (∃ m ∈ Sample.twoShapesClass.methods, m.IsNamed key.name key.signature ∧
        m.shape = .static) ∧
      env.getStaticMethodId Sample.twoShapesClass.handle key.name key.signature =
        (some ⟨⟨0x40⟩, 1⟩, []) ∧
      Sample.twoShapesTable.locateImport (.ofKey 0 key .static) =
        .error (.otherShape key .static .virtual) := by
  refine ⟨rfl, ?_, rfl, rfl⟩
  exact ⟨_, List.mem_cons_of_mem _ (List.mem_singleton.mpr rfl), ⟨rfl, rfl⟩, rfl⟩

end ClassTable

end NativeBridge
