import NativeBridge.Proofs.CallGuards
import NativeBridge.Proofs.InstanceHeader
import NativeBridge.Proofs.MethodChoice
import NativeBridge.Proofs.ResolutionHistory

/-!
# Which methods can be reached

A method is called through an identifier that a lookup answers, and there are two lookups: one for
static methods and one for all others. The call must then be of the shape of the method. A static
method is found whatever else the class declares. Of a virtual and a non-virtual method of one name
and signature only the first is found, and the identifier found is refused by calls of the shape of
the second, which no identifier leads to.
-/

namespace NativeBridge

/-- One lookup answers for both shapes. -/
def CallShape.Alike (shape other : CallShape) : Prop := shape = .static ↔ other = .static

namespace Class

/-- The method at the position is the only one of the class with its name, signature and shape. -/
structure OnlyAt (c : Class) (position : Nat) (m : ManagedMethod) : Prop where
  declared : c.methods[position]? = some m
  only : ∀ i other, c.methods[i]? = some other → other.IsNamed m.name m.signature →
    other.shape = m.shape → i = position

/-- An earlier method of the same name and signature that the lookup for the method answers with
too. -/
structure ShadowedBy (c : Class) (position : Nat) (m : ManagedMethod) (earlier : Nat)
    (other : ManagedMethod) : Prop where
  before : earlier < position
  declared : c.methods[earlier]? = some other
  named : other.IsNamed m.name m.signature
  alike : other.shape.Alike m.shape

/-- The method at the position stands behind one that shadows it. -/
def Shadowed (c : Class) (position : Nat) (m : ManagedMethod) : Prop :=
  ∃ earlier other, c.ShadowedBy position m earlier other

section Shadows

variable {c : Class} {position earlier : Nat} {m other : ManagedMethod}

lemma firstAt_alike_iff (hm : c.methods[position]? = some m) :
    c.FirstAt (fun m' => m'.IsNamed m.name m.signature ∧ m'.shape.Alike m.shape) position m ↔
      ¬c.Shadowed position m := by
  constructor
  · rintro hfirst ⟨i, other, hshadow⟩
    exact hfirst.earlier i hshadow.before other hshadow.declared ⟨hshadow.named, hshadow.alike⟩
  · intro hclear
    refine ⟨hm, ⟨⟨rfl, rfl⟩, Iff.rfl⟩, ?_⟩
    rintro i hi other hother ⟨hnamed, halike⟩
    exact hclear ⟨i, other, hi, hother, hnamed, halike⟩

lemma Shadowed.exists_firstAt (h : c.Shadowed position m) :
    ∃ earlier other, c.ShadowedBy position m earlier other ∧
      c.FirstAt (fun m' => m'.IsNamed m.name m.signature ∧ m'.shape.Alike m.shape) earlier
        other := by
  obtain ⟨i, shadow, hshadow⟩ := h
  obtain ⟨first, other, hfirst⟩ := Class.exists_firstAt
    (p := fun m' => m'.IsNamed m.name m.signature ∧ m'.shape.Alike m.shape)
    (List.mem_of_getElem? hshadow.declared) ⟨hshadow.named, hshadow.alike⟩
  have hle : first ≤ i := Nat.le_of_not_lt fun hlt =>
    hfirst.earlier i hlt shadow hshadow.declared ⟨hshadow.named, hshadow.alike⟩
  exact ⟨first, other, ⟨Nat.lt_of_le_of_lt hle hshadow.before, hfirst.declared, hfirst.holds.1,
    hfirst.holds.2⟩, hfirst⟩

lemma ShadowedBy.shape_ne (h : c.ShadowedBy position m earlier other)
    (honly : c.OnlyAt position m) : other.shape ≠ m.shape := fun hshape =>
  Nat.ne_of_lt h.before (honly.only earlier other h.declared h.named hshape)

lemma OnlyAt.not_shadowed_of_static (honly : c.OnlyAt position m) (hstatic : m.shape = .static) :
    ¬c.Shadowed position m := by
  rintro ⟨earlier, other, hshadow⟩
  exact hshadow.shape_ne honly ((hshadow.alike.mpr hstatic).trans hstatic.symm)

end Shadows

end Class

namespace Environment

def methodIdFor (env : Environment) (shape : CallShape) :
    Handle → String → String → Option MethodId × List Violation :=
  match shape with
  | .static => env.getStaticMethodId
  | .virtual | .nonvirtual => env.getMethodId

/-- A lookup answers with the identifier, for some class, name and signature. -/
def Obtains (env : Environment) (id : MethodId) : Prop :=
  ∃ shape cls name signature, (env.methodIdFor shape cls name signature).1 = some id

section Lookups

variable {env : Environment} {c : Class} {id : MethodId} {name signature : String}

lemma methodIdFor_eq_methodIdWhere (env : Environment) (shape : CallShape) :
    ∃ accept : CallShape → Bool, (∀ other, accept other = true ↔ other.Alike shape) ∧
      env.methodIdFor shape = env.methodIdWhere accept := by
  cases shape with
  | static => exact ⟨(· = .static), fun other => by simp [CallShape.Alike], rfl⟩
  | virtual => exact ⟨(· ≠ .static), fun other => by simp [CallShape.Alike], rfl⟩
  | nonvirtual => exact ⟨(· ≠ .static), fun other => by simp [CallShape.Alike], rfl⟩

lemma methodIdFor_fst_eq_iff (hc : env.classAt? c.handle = some c) {shape : CallShape} :
    (env.methodIdFor shape c.handle name signature).1 = some id ↔ id.owner = c.handle ∧
      ∃ m, c.FirstAt (fun m => m.IsNamed name signature ∧ m.shape.Alike shape) id.index m := by
  obtain ⟨accept, haccept, hlookup⟩ := env.methodIdFor_eq_methodIdWhere shape
  have htest : ∀ m : ManagedMethod,
      (m.name == name && m.signature == signature && accept m.shape) = true ↔
        m.IsNamed name signature ∧ m.shape.Alike shape := by
    intro m
    simp [ManagedMethod.IsNamed, haccept]
  rw [hlookup, methodIdWhere, hc]
  constructor
  · intro hfound
    obtain ⟨⟨found, m⟩, hfind, rfl⟩ := Option.map_eq_some_iff.mp hfound
    obtain ⟨howner, hfirst⟩ := (Class.find?_declaredMethods_eq_some_iff _ htest).mp hfind
    exact ⟨howner, m, hfirst⟩
  · rintro ⟨howner, m, hfirst⟩
    have hfind := (Class.find?_declaredMethods_eq_some_iff _ htest).mpr ⟨howner, hfirst⟩
    exact Option.map_eq_some_iff.mpr ⟨_, hfind, rfl⟩

lemma methodIdFor_snd (hc : env.classAt? c.handle = some c) (shape : CallShape) :
    (env.methodIdFor shape c.handle name signature).2 = [] := by
  obtain ⟨accept, _, hlookup⟩ := env.methodIdFor_eq_methodIdWhere shape
  rw [hlookup, methodIdWhere, hc]

lemma owner_eq_of_methodIdFor {shape : CallShape} {cls : Handle}
    (h : (env.methodIdFor shape cls name signature).1 = some id) : id.owner = cls := by
  obtain ⟨accept, _, hlookup⟩ := env.methodIdFor_eq_methodIdWhere shape
  rw [hlookup, methodIdWhere] at h
  cases hcls : env.classAt? cls with
  | none => simp [hcls] at h
  | some c =>
    rw [hcls] at h
    obtain ⟨⟨found, m⟩, hfind, rfl⟩ := Option.map_eq_some_iff.mp h
    exact (Class.findShaped?_eq_some_iff.mp hfind).1.trans (handle_of_classAt? hcls)

end Lookups

section Reach

variable {env : Environment} {c : Class} {position : Nat} {m : ManagedMethod}

lemma methodIdFor_eq_iff (hc : env.classAt? c.handle = some c)
    (hm : c.methods[position]? = some m) :
    env.methodIdFor m.shape c.handle m.name m.signature = (some ⟨c.handle, position⟩, []) ↔
      ¬c.Shadowed position m := by
  rw [Prod.ext_iff, methodIdFor_snd hc, and_iff_left rfl, methodIdFor_fst_eq_iff hc,
    and_iff_right rfl, ← Class.firstAt_alike_iff hm]
  constructor
  · rintro ⟨m', hfirst⟩
    obtain rfl : m' = m := Option.some.inj (hfirst.declared.symm.trans hm)
    exact hfirst
  · exact fun hfirst => ⟨m, hfirst⟩

lemma obtains_iff (hc : env.classAt? c.handle = some c) (hm : c.methods[position]? = some m) :
    env.Obtains ⟨c.handle, position⟩ ↔ ¬c.Shadowed position m := by
  constructor
  · rintro ⟨shape, cls, name, signature, hfound⟩
    -- The lookup was through the class of the method, for its own name and signature.
    obtain rfl := owner_eq_of_methodIdFor hfound
    obtain ⟨_, m', hfirst⟩ := (methodIdFor_fst_eq_iff hc).mp hfound
    obtain rfl : m' = m := Option.some.inj (hfirst.declared.symm.trans hm)
    obtain ⟨⟨rfl, rfl⟩, halike⟩ := hfirst.holds
    rintro ⟨earlier, other, hshadow⟩
    exact hfirst.earlier earlier hshadow.before other hshadow.declared
      ⟨hshadow.named, hshadow.alike.trans halike⟩
  · intro hclear
    exact ⟨m.shape, c.handle, m.name, m.signature,
      congrArg Prod.fst ((methodIdFor_eq_iff hc hm).mpr hclear)⟩

lemma methodAt?_of_findMethod? {t : ClassTable} {key : MemberKey} {id : MethodId}
    {method : ManagedMethod} (ht : t.Within env.classAt?)
    (h : t.findMethod? key = some (id, method)) : env.methodAt? id = some method := by
  obtain ⟨c, hc, howner, hfirst⟩ := ClassTable.findMethod?_eq_some_iff.mp h
  unfold methodAt?
  rw [howner, ht.get? hc]
  exact hfirst.declared

lemma call_of_other_shape (hc : env.classAt? c.handle = some c)
    (hm : c.methods[position]? = some m) {target : CallTarget} (hshape : m.shape ≠ target.shape)
    (arguments : CallArguments) (memory : Memory) :
    env.call ⟨target, some ⟨c.handle, position⟩, arguments⟩ memory =
      ⟨⟨.error (.shapeMismatch m.name target.shape m.shape), arguments⟩, memory, []⟩ :=
  callWith_of_refuses (.shape ⟨rfl, c, classAt?_eq_some_iff.mp hc, hm⟩ hshape) memory

/-- The lookup for a shadowed method answers with a method that shadows it, and calls of its own
shape are refused with that identifier. -/
lemma exists_shadowing (hc : env.classAt? c.handle = some c) (honly : c.OnlyAt position m)
    (h : c.Shadowed position m) :
    ∃ earlier other, c.ShadowedBy position m earlier other ∧ other.shape ≠ m.shape ∧
      env.methodIdFor m.shape c.handle m.name m.signature = (some ⟨c.handle, earlier⟩, []) ∧
      ∀ target arguments memory, target.shape = m.shape →
        env.call ⟨target, some ⟨c.handle, earlier⟩, arguments⟩ memory =
          ⟨⟨.error (.shapeMismatch m.name m.shape other.shape), arguments⟩, memory, []⟩ := by
  obtain ⟨earlier, other, hshadow, hfirst⟩ := h.exists_firstAt
  have hother : other.shape ≠ m.shape := hshadow.shape_ne honly
  refine ⟨earlier, other, hshadow, hother, ?_, ?_⟩
  · exact Prod.ext ((methodIdFor_fst_eq_iff hc).mpr ⟨rfl, other, hfirst⟩) (methodIdFor_snd hc _)
  · intro target arguments memory htarget
    rw [← htarget] at hother ⊢
    rw [call_of_other_shape hc hshadow.declared hother, hshadow.named.1]

/-- The only method of its name, signature and shape is found by the lookup for its shape, and by
any lookup at all, unless an earlier one shadows it. A static method is never shadowed; an instance
method is by one of the other shape, whose identifier is then found and refused by calls of the
method's shape. Calls of the method's shape with its own identifier enter it. -/
theorem method_reached_iff (env : Environment) (c : Class) (position : Nat) (m : ManagedMethod)
    (hheap : env.table.Within env.classAt?) (hc : c ∈ env.table.classes)
    (honly : c.OnlyAt position m) :
    let id : MethodId := ⟨c.handle, position⟩
    let found := env.methodIdFor m.shape c.handle m.name m.signature
    (found = (some id, []) ↔ ¬c.Shadowed position m) ∧
    (env.Obtains id ↔ ¬c.Shadowed position m) ∧
    (m.shape = .static → ¬c.Shadowed position m) ∧
    (c.Shadowed position m → ∃ earlier other, c.ShadowedBy position m earlier other ∧
      other.shape ≠ m.shape ∧ found = (some ⟨c.handle, earlier⟩, []) ∧
      ∀ target arguments memory, target.shape = m.shape →
        env.call ⟨target, some ⟨c.handle, earlier⟩, arguments⟩ memory =
          ⟨⟨.error (.shapeMismatch m.name m.shape other.shape), arguments⟩, memory, []⟩) ∧
    ∀ target arguments memory, target.shape = m.shape → target.receiver? ≠ some .null →
      (∀ cls, target.class? = some cls → cls = c.handle) →
      (∀ slots, arguments = .packed slots → slots.length = m.argCount) →
      ∃ values prelude, env.Enters env.nestedCall ⟨target, some id, arguments⟩ memory m values
        prelude (env.call ⟨target, some id, arguments⟩ memory) := by
  intro id found
  have hlives : env.classAt? c.handle = some c := hheap c hc
  refine ⟨methodIdFor_eq_iff hlives honly.declared, obtains_iff hlives honly.declared,
    honly.not_shadowed_of_static, exists_shadowing hlives honly, ?_⟩
  intro target arguments memory hshape hreceiver hcls hcount
  have hadmits : env.Admits ⟨target, some id, arguments⟩ id m := by
    have howner := classAt?_eq_some_iff.mp hlives
    refine ⟨⟨rfl, c, howner, honly.declared⟩, hshape.symm, hreceiver, ?_, hcount⟩
    intro cls hgiven
    obtain rfl := hcls cls hgiven
    exact ⟨c, howner, rfl⟩
  exact ⟨_, _, enters_of_admits hadmits memory⟩

end Reach

end Environment

namespace Sample

def runVirtual : ManagedMethod :=
  ⟨"run", "(I)I", .virtual, Probe.make .virtual "I>I" [.int] (some .int)⟩

def runNonvirtual : ManagedMethod :=
  ⟨"run", "(I)I", .nonvirtual, Probe.make .nonvirtual "I>I" [.int] (some .int)⟩

/-- A class that registers the virtual method and then the non-virtual one. -/
def runnerClass : Class :=
  { Builtin.bare "demo" "Runner" 8 ⟨0x80⟩ with methods := [runVirtual, runNonvirtual] }

def runnerEnvironment : Environment :=
  .ofTable (ClassRegistry.empty.register runnerClass).toTable []

lemma runnerEnvironment_within : runnerEnvironment.table.Within runnerEnvironment.classAt? := by
  intro cls hcls
  obtain rfl : cls = runnerClass := List.mem_singleton.mp hcls
  rfl

lemma runnerClass_onlyAt {position : Nat} {m : ManagedMethod}
    (hm : runnerClass.methods[position]? = some m) : runnerClass.OnlyAt position m := by
  refine ⟨hm, ?_⟩
  intro i other hother _ hshape
  match position, i, hm, hother with
  | 0, 0, _, _ => rfl
  | 1, 1, _, _ => rfl
  | 0, 1, rfl, rfl => cases hshape
  | 1, 0, rfl, rfl => cases hshape

end Sample

namespace Environment

/-- The virtual method is found, and a virtual call with one argument enters it. -/
theorem runner_virtual_reached :
    let env := Sample.runnerEnvironment
    let c : MethodCall :=
      ⟨.virtual ⟨0x100⟩, some ⟨⟨0x80⟩, 0⟩, .packed [(Value.int 7).toSlot]⟩
    env.getMethodId ⟨0x80⟩ "run" "(I)I" = (c.method, []) ∧ env.Obtains ⟨⟨0x80⟩, 0⟩ ∧
      ∀ memory, ∃ values prelude,
        env.Enters env.nestedCall c memory Sample.runVirtual values prelude (env.call c memory) := by
  intro env c
  have hclear : ¬Sample.runnerClass.Shadowed 0 Sample.runVirtual := by
    rintro ⟨earlier, other, hshadow⟩
    exact Nat.not_lt_zero earlier hshadow.before
  obtain ⟨hfound, hobtains, _, _, hcalls⟩ := method_reached_iff env Sample.runnerClass 0
    Sample.runVirtual Sample.runnerEnvironment_within (List.mem_singleton.mpr rfl)
    (Sample.runnerClass_onlyAt rfl)
  refine ⟨hfound.mpr hclear, hobtains.mpr hclear, fun memory => ?_⟩
  refine hcalls c.target c.arguments memory rfl (by decide) ?_ ?_
  · intro cls hcls
    cases hcls
  · intro slots hslots
    cases hslots
    rfl

/-- The non-virtual method is the only one of its name, signature and shape. The lookup for it
answers with the virtual one, no lookup answers with its own identifier, and non-virtual calls with
the identifier answered are refused. -/
theorem nonvirtual_behind_virtual_unreachable :
    let env := Sample.runnerEnvironment
    env.table.Within env.classAt? ∧ Sample.runnerClass ∈ env.table.classes ∧
      Sample.runnerClass.OnlyAt 1 Sample.runNonvirtual ∧
      env.getMethodId ⟨0x80⟩ "run" "(I)I" = (some ⟨⟨0x80⟩, 0⟩, []) ∧
      ¬env.Obtains ⟨⟨0x80⟩, 1⟩ ∧
      ∀ receiver arguments memory,
        (env.call ⟨.nonvirtual receiver ⟨0x80⟩, some ⟨⟨0x80⟩, 0⟩, arguments⟩
          memory).value.result = .error (.shapeMismatch "run" .nonvirtual .virtual) := by
  intro env
  have hlives : env.classAt? Sample.runnerClass.handle = some Sample.runnerClass := rfl
  have hshadowed : Sample.runnerClass.Shadowed 1 Sample.runNonvirtual := by
    refine ⟨0, Sample.runVirtual, Nat.zero_lt_one, rfl, ⟨rfl, rfl⟩, ?_⟩
    simp [CallShape.Alike, Sample.runVirtual, Sample.runNonvirtual]
  refine ⟨Sample.runnerEnvironment_within, List.mem_singleton.mpr rfl,
    Sample.runnerClass_onlyAt rfl, rfl, ?_, ?_⟩
  · have hobtains : env.Obtains ⟨⟨0x80⟩, 1⟩ ↔
        ¬Sample.runnerClass.Shadowed 1 Sample.runNonvirtual := obtains_iff hlives rfl
    exact fun h => hobtains.mp h hshadowed
  · intro receiver arguments memory
    have hvirtual : Sample.runVirtual.shape ≠ (CallTarget.nonvirtual receiver ⟨0x80⟩).shape := by
      simp [Sample.runVirtual, CallTarget.shape]
    have hrefused : env.call ⟨.nonvirtual receiver ⟨0x80⟩, some ⟨⟨0x80⟩, 0⟩, arguments⟩ memory =
        ⟨⟨.error (.shapeMismatch "run" .nonvirtual .virtual), arguments⟩, memory, []⟩ :=
      call_of_other_shape hlives rfl hvirtual arguments memory
    rw [hrefused]

end Environment

end NativeBridge
