import NativeBridge.Environment.Call
import NativeBridge.Proofs.FieldAccess
import NativeBridge.Proofs.InstanceImage
import NativeBridge.Proofs.RegistryIndex
import NativeBridge.Sample.Account

/-!
# The header of an instance

An instance begins with the handle of its class, and the fields of a plain object lie in the same
bytes. This file follows writes to these fields. A write that begins behind the header leaves the
class of the instance alone, and every check of the class answers as before. The registry keeps
fields inside the instance but not out of the header: a field that begins in the header can replace
the class, and the class is safe exactly when there is no such field.
-/

namespace NativeBridge

namespace Instance

lemma exists_handleOf_write_ne (b : Block) {offset : Nat} (hheader : offset < headerSize)
    (hsize : offset < b.size) :
    ∃ byte, handleOf (b.write offset [byte]) 0 ≠ handleOf b 0 := by
  have h8 : offset < 8 := hheader
  refine ⟨b.byte offset + 1, ?_⟩
  intro hsame
  have hreads : (b.write offset [b.byte offset + 1]).read 0 8 = b.read 0 8 :=
    (handleOf_eq_iff.mp hsame).trans (handleOf_eq_iff.mp rfl).symm
  have hget := congrArg (fun bytes => bytes[offset]?) hreads
  have hfits : offset + 1 ≤ b.size := hsize
  simp [Block.read, Block.write, List.getElem?_range h8, hfits] at hget

end Instance

/-- A value to be written to an instance field of a class. -/
structure Class.FieldWrite (c : Class) where
  position : Nat
  field : Field
  offset : UInt64
  declared : c.fields[position]? = some field
  placed : field.place = .instance offset
  bytes : List UInt8

/-- Every instance field of the class begins behind the header. -/
def Class.FieldsBehindHeader (c : Class) : Prop :=
  ∀ f ∈ c.fields, ∀ offset, f.place = .instance offset → headerSize ≤ offset.toNat

lemma ClassRegistry.fieldsInside_of_insert? {r r' : ClassRegistry} {c : Class}
    (h : r.insert? c = .ok r') : c.FieldsInside := by
  rw [← Class.strayField?_eq_none_iff]
  unfold insert? at h
  split at h
  · cases h
  · cases hstray : c.strayField? with
    | none => rfl
    | some stray =>
      rw [hstray] at h
      cases h

/-- A plain object of the class lives at the handle, with all its bytes. -/
structure Memory.PlainAt (m : Memory) (object : Handle) (c : Class) (b : Block) : Prop where
  live : m.instance? object = some (.plain b)
  size : c.instanceSize.toNat ≤ b.size
  header : Instance.handleOf b 0 = c.handle

lemma Memory.isNull_of_instance? {m : Memory} {object : Handle} {i : Instance}
    (h : m.instance? object = some i) : object.isNull = false := by
  unfold Memory.instance? at h
  split at h
  · cases h
  · simp_all

lemma Memory.plainAt_zeroed {m : Memory} {object : Handle} {c : Class}
    (h : m.instance? object = some (.zeroed c)) :
    ∃ b, m.PlainAt object c b ∧ headerSize ≤ b.size := by
  refine ⟨(Instance.zeroed c).image, ⟨h, ?_, Instance.classHandle_zeroed c⟩, ?_⟩
  · rw [Instance.size_image_zeroed]
    exact Nat.le_max_right _ _
  · rw [Instance.size_image_zeroed]
    exact Nat.le_max_left _ _

namespace Environment

def afterWrite (env : Environment) (object : Handle) {c : Class} (m : Memory)
    (w : c.FieldWrite) : Memory :=
  match env.setField m object (some ⟨c.handle, w.position⟩) w.bytes with
  | .ok m' => m'
  | .error _ => m

def afterWrites (env : Environment) (object : Handle) {c : Class} (m : Memory)
    (writes : List c.FieldWrite) : Memory :=
  writes.foldl (env.afterWrite object) m

/-- The checks of the class of the instance at a handle answer the same in both memories. -/
structure SameClass (env : Environment) (object : Handle) (m m' : Memory) : Prop where
  objectClass : env.getObjectClass m' object = env.getObjectClass m object
  isInstance : ∀ cls, env.isInstance m' object cls = env.isInstance m object cls
  fieldAddress : ∀ id f width,
    env.fieldAddress m' id f object width = env.fieldAddress m id f object width
  array : env.arrayAt? m' object = env.arrayAt? m object
  string : env.stringAt? m' object = env.stringAt? m object

variable {env : Environment} {m : Memory} {object : Handle} {c : Class} {b : Block}

lemma classOf?_of_plainAt (h : m.PlainAt object c b) :
    env.classOf? m object = env.classAt? c.handle := by
  unfold classOf?
  rw [h.live, Option.bind_some, Instance.classHandle, h.header]

lemma getObjectClass_of_plainAt (h : m.PlainAt object c b) :
    env.getObjectClass m object = (c.handle, []) := by
  simp only [getObjectClass, h.live, Instance.classHandle, h.header]

lemma arrayAt?_of_plainAt (h : m.PlainAt object c b) : env.arrayAt? m object = none := by
  unfold arrayAt?
  rw [h.live]
  cases env.classOf? m object <;> rfl

lemma stringAt?_of_plainAt (h : m.PlainAt object c b) : env.stringAt? m object = none := by
  unfold stringAt?
  rw [h.live]
  cases env.classOf? m object <;> rfl

lemma sameClass_of_plainAt {m' : Memory} {b' : Block} (h : m.PlainAt object c b)
    (h' : m'.PlainAt object c b') : env.SameClass object m m' := by
  have hclass : env.classOf? m' object = env.classOf? m object := by
    rw [classOf?_of_plainAt h, classOf?_of_plainAt h']
  refine ⟨?_, ?_, ?_, ?_, ?_⟩
  · rw [getObjectClass_of_plainAt h, getObjectClass_of_plainAt h']
  · intro cls
    rw [isInstance, hclass, isInstance]
  · intro id f width
    rw [Environment.fieldAddress, hclass, Environment.fieldAddress]
  · rw [arrayAt?_of_plainAt h, arrayAt?_of_plainAt h']
  · rw [stringAt?_of_plainAt h, stringAt?_of_plainAt h']

lemma setField_of_plainAt (hknown : env.classAt? c.handle = some c) (h : m.PlainAt object c b)
    (w : c.FieldWrite) :
    env.setField m object (some ⟨c.handle, w.position⟩) w.bytes =
      if c.instanceSize < w.offset + UInt64.ofNat w.bytes.length then
        .error ⟨.fieldOverrun w.field.name (w.offset + UInt64.ofNat w.bytes.length)
          c.instanceSize, []⟩
      else .ok (m.write object (.plain (b.write w.offset.toNat w.bytes))) := by
  have hlive : env.LiveAt m object c (.plain b) := by
    refine ⟨h.live, ?_⟩
    rw [Instance.classHandle, h.header, hknown]
  exact setField_of_live hlive w.declared w.placed w.bytes

lemma plainAt_afterWrite (hknown : env.classAt? c.handle = some c) (h : m.PlainAt object c b)
    (w : c.FieldWrite) (hw : headerSize ≤ w.offset.toNat) :
    ∃ b', (env.afterWrite object m w).PlainAt object c b' := by
  unfold afterWrite
  rw [setField_of_plainAt hknown h w]
  by_cases hoverrun : c.instanceSize < w.offset + UInt64.ofNat w.bytes.length
  · rw [if_pos hoverrun]
    exact ⟨b, h⟩
  · rw [if_neg hoverrun]
    refine ⟨b.write w.offset.toNat w.bytes, ?_, ?_, ?_⟩
    · exact m.instance?_write_self object _ (Memory.isNull_of_instance? h.live)
    · rw [Block.size_write]
      exact h.size
    · rw [Instance.handleOf_write_of_le b w.bytes hw]
      exact h.header

lemma plainAt_afterWrites (hknown : env.classAt? c.handle = some c) (h : m.PlainAt object c b)
    (writes : List c.FieldWrite) (hwrites : ∀ w ∈ writes, headerSize ≤ w.offset.toNat) :
    ∃ b', (env.afterWrites object m writes).PlainAt object c b' := by
  induction writes generalizing m b with
  | nil => exact ⟨b, h⟩
  | cons w writes ih =>
    obtain ⟨hw, hrest⟩ := List.forall_mem_cons.mp hwrites
    obtain ⟨b', hb'⟩ := plainAt_afterWrite hknown h w hw
    exact ih hb' hrest

/-- A one-byte write to a field that begins in the header is accepted, since the field begins inside
the instance, and can replace the class. -/
lemma exists_write_replacing_class (hinside : c.FieldsInside)
    (hknown : env.classAt? c.handle = some c) (h : m.PlainAt object c b)
    (hsize : headerSize ≤ b.size) {position : Nat} {f : Field} {offset : UInt64}
    (hdeclared : c.fields[position]? = some f) (hplaced : f.place = .instance offset)
    (hheader : offset.toNat < headerSize) :
    ∃ w : c.FieldWrite, w.position = position ∧ ∃ m',
      env.setField m object (some ⟨c.handle, position⟩) w.bytes = .ok m' ∧
        (env.getObjectClass m' object).1 ≠ c.handle ∧
          env.isInstance m' object c.handle = false := by
  obtain ⟨byte, hbyte⟩ :=
    Instance.exists_handleOf_write_ne b hheader (Nat.lt_of_lt_of_le hheader hsize)
  let w : c.FieldWrite := ⟨position, f, offset, hdeclared, hplaced, [byte]⟩
  have hoffset : offset < c.instanceSize :=
    hinside f (List.mem_of_getElem? hdeclared) offset hplaced
  have hfits : ¬c.instanceSize < offset + UInt64.ofNat w.bytes.length := by
    -- One byte behind an offset inside the instance is still a word, so the end does not wrap.
    have hnat : offset.toNat < c.instanceSize.toNat := hoffset
    have hlt : c.instanceSize.toNat < 2 ^ 64 := c.instanceSize.toNat_lt
    rw [UInt64.lt_iff_toNat_lt, UInt64.toNat_add]
    change ¬c.instanceSize.toNat < (offset.toNat + 1) % 2 ^ 64
    omega
  have hset := setField_of_plainAt hknown h w
  rw [if_neg hfits] at hset
  have hlive := m.instance?_write_self object (.plain (b.write offset.toNat [byte]))
    (Memory.isNull_of_instance? h.live)
  have hother : Instance.handleOf (b.write offset.toNat [byte]) 0 ≠ c.handle := by
    rw [← h.header]
    exact hbyte
  refine ⟨w, rfl, _, hset, ?_, ?_⟩
  · simp only [getObjectClass, w, hlive, Instance.classHandle]
    exact hother
  · simp only [isInstance, classOf?, w, hlive, Option.bind_some, Instance.classHandle]
    cases hclass : env.classAt? (Instance.handleOf (b.write offset.toNat [byte]) 0) with
    | none => rfl
    | some c' =>
      rw [Option.map_some, Option.getD_some, beq_eq_false_iff_ne, handle_of_classAt? hclass]
      exact hother

/-- The class of a zeroed instance of a registered class survives every sequence of writes to its
instance fields exactly when all of them begin behind the header. Writes that begin behind the
header leave every check of the class as it was, and every field that begins in the header accepts a
write after which the instance is of another class. -/
theorem getObjectClass_kept_iff {r r' : ClassRegistry} {c : Class} (hc : r.insert? c = .ok r')
    (env : Environment) (hknown : env.classAt? c.handle = some c) (m : Memory) (object : Handle)
    (hobject : m.instance? object = some (.zeroed c)) :
    ((∀ writes : List c.FieldWrite,
        env.getObjectClass (env.afterWrites object m writes) object = (c.handle, [])) ↔
      c.FieldsBehindHeader) ∧
    (∀ writes : List c.FieldWrite, (∀ w ∈ writes, headerSize ≤ w.offset.toNat) →
      env.SameClass object m (env.afterWrites object m writes)) ∧
    ∀ (position : Nat) (f : Field) (offset : UInt64), c.fields[position]? = some f →
      f.place = .instance offset → offset.toNat < headerSize →
        ∃ w : c.FieldWrite, w.position = position ∧ ∃ m',
          env.setField m object (some ⟨c.handle, position⟩) w.bytes = .ok m' ∧
            (env.getObjectClass m' object).1 ≠ c.handle ∧
              env.isInstance m' object c.handle = false := by
  have hinside := ClassRegistry.fieldsInside_of_insert? hc
  obtain ⟨b, hplain, hsize⟩ := Memory.plainAt_zeroed hobject
  have hsame : ∀ writes : List c.FieldWrite, (∀ w ∈ writes, headerSize ≤ w.offset.toNat) →
      env.SameClass object m (env.afterWrites object m writes) := by
    intro writes hwrites
    obtain ⟨b', hplain'⟩ := plainAt_afterWrites hknown hplain writes hwrites
    exact sameClass_of_plainAt hplain hplain'
  refine ⟨⟨?_, ?_⟩, hsame, ?_⟩
  · intro hkept f hf offset hplaced
    -- A single write to a field in the header already makes the class another one.
    by_contra hheader
    obtain ⟨position, hdeclared⟩ := List.mem_iff_getElem?.mp hf
    obtain ⟨w, rfl, m', hset, hclass, _⟩ := exists_write_replacing_class hinside hknown hplain hsize
      hdeclared hplaced (Nat.lt_of_not_le hheader)
    have hafter : env.afterWrites object m [w] = m' := by
      simp only [afterWrites, List.foldl_cons, List.foldl_nil, afterWrite, hset]
    have hone := hkept [w]
    rw [hafter] at hone
    exact hclass (congrArg Prod.fst hone)
  · intro hbehind writes
    have hwrites : ∀ w ∈ writes, headerSize ≤ w.offset.toNat := fun w _ =>
      hbehind w.field (List.mem_of_getElem? w.declared) w.offset w.placed
    rw [(hsame writes hwrites).objectClass, getObjectClass_of_plainAt hplain]
  · intro position f offset hdeclared hplaced hheader
    exact exists_write_replacing_class hinside hknown hplain hsize hdeclared hplaced hheader

end Environment

namespace Sample

def readingClass : Class :=
  { gaugeClass ⟨0x40⟩ with fields := [⟨"reading", "J", .instance 8⟩] }

def readingWrite : readingClass.FieldWrite where
  position := 0
  field := ⟨"reading", "J", .instance 8⟩
  offset := 8
  declared := rfl
  placed := rfl
  bytes := (Value.long (-1)).bytes

/-- `demo/Purse`, whose balance begins with the last byte of the header. -/
def purseClass : Class :=
  { Builtin.bare "demo" "Purse" 16 ⟨0x40⟩ with
    methods := [⟨"deposit", "(I)J", .virtual, deposit⟩]
    fields := [⟨"balance", "J", .instance 7⟩] }

def memoryWith (c : Class) (object : Handle) : Memory :=
  (Memory.empty .standard).write object (.zeroed c)

end Sample

namespace Environment

theorem getObjectClass_reading_kept :
    let c := Sample.readingClass
    let env := ofTable (ClassRegistry.empty.register c).toTable []
    let m := Sample.memoryWith c ⟨0x500⟩
    ClassRegistry.empty.insert? c = .ok (ClassRegistry.empty.register c) ∧
      env.classAt? c.handle = some c ∧ m.instance? ⟨0x500⟩ = some (.zeroed c) ∧
      c.FieldsBehindHeader ∧
      env.getObjectClass (env.afterWrites ⟨0x500⟩ m [Sample.readingWrite]) ⟨0x500⟩ =
        (c.handle, []) := by
  intro c env m
  have hc : ClassRegistry.empty.insert? c = .ok (ClassRegistry.empty.register c) := by rfl
  have hknown : env.classAt? c.handle = some c := by rfl
  have hobject : m.instance? ⟨0x500⟩ = some (.zeroed c) := by rfl
  have hbehind : c.FieldsBehindHeader := by
    intro f hf offset hplace
    obtain rfl := List.mem_singleton.mp hf
    cases hplace
    decide
  obtain ⟨hkept, _, _⟩ := getObjectClass_kept_iff hc env hknown m ⟨0x500⟩ hobject
  exact ⟨hc, hknown, hobject, hbehind, hkept.mpr hbehind [Sample.readingWrite]⟩

/-- The class is registered, and a deposit of one makes another handle the class of its instance. -/
theorem deposit_replaces_class :
    let c := Sample.purseClass
    let env := ofTable (ClassRegistry.empty.register c).toTable []
    let m := Sample.memoryWith c ⟨0x500⟩
    let deposited := env.callVirtualPacked ⟨0x500⟩ (some ⟨c.handle, 0⟩) [(Value.int 1).toSlot] m
    ClassRegistry.empty.insert? c = .ok (ClassRegistry.empty.register c) ∧
      env.getObjectClass m ⟨0x500⟩ = (c.handle, []) ∧
      env.isInstance m ⟨0x500⟩ c.handle = true ∧
      env.setField m ⟨0x500⟩ (some ⟨c.handle, 0⟩) (Value.long 1).bytes = .ok deposited.memory ∧
      deposited.value.result = .ok (some (.long 1)) ∧
      env.getObjectClass deposited.memory ⟨0x500⟩ = (⟨0x100000000000040⟩, []) ∧
      env.isInstance deposited.memory ⟨0x500⟩ c.handle = false := by
  refine ⟨rfl, rfl, rfl, rfl, rfl, rfl, rfl⟩

end Environment

end NativeBridge
