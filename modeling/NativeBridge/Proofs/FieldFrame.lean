import NativeBridge.Proofs.FieldEnd

/-!
# What a write to a field changes

A write to a field behind the header of an instance changes the bytes of the field and nothing else:
the field then has the value written, fields apart from it have the values they had, and so have all
other instances and all static storage. The write needs an instance of the very class that declares
the field, and room for the value in it. A static field needs no instance: its recorded address is
used whatever instance is named, and a write there changes the bytes of the value alone, for every
static field whose storage they belong to.
-/

namespace NativeBridge

/-- Every instance of the class is allocated with the bytes that the class asks for. -/
def Memory.Allocates (m : Memory) (c : Class) : Prop :=
  ∀ object i, m.instance? object = some i → i.classHandle = c.handle →
    c.instanceSize.toNat ≤ i.image.size

def Class.FieldWrite.id {c : Class} (w : c.FieldWrite) : FieldId := ⟨c.handle, w.position⟩

def Apart (offset width offset' width' : Nat) : Prop :=
  offset + width ≤ offset' ∨ offset' + width' ≤ offset

lemma Class.FieldsInside.not_lt_end_iff {c : Class} (h : c.FieldsInside)
    (hsize : c.instanceSize.toNat < 2 ^ 63) {f : Field} (hf : f ∈ c.fields) {offset : UInt64}
    (hplace : f.place = .instance offset) {width : Nat} (hwidth : width ≤ 16) :
    ¬c.instanceSize < offset + UInt64.ofNat width ↔ c.Fits offset width := by
  have hword : ¬c.Wraps offset width := h.not_wraps (by omega) hf hplace hwidth
  rw [Class.not_lt_end_iff hwidth, or_iff_left hword]

namespace Environment

variable {env : Environment} {m : Memory} {object : Handle} {c : Class} {i : Instance}

/-- The instance with the value written in the bytes of a field. -/
def written (i : Instance) (w : c.FieldWrite) : Instance :=
  i.withImage (i.image.write w.offset.toNat w.bytes)

/-- What a successful write to a field of an instance leaves behind. -/
structure FieldWritten (env : Environment) (m m' : Memory) (object : Handle) (i : Instance)
    (w : c.FieldWrite) : Prop where
  /-- The instance lives on, of the same class and size. -/
  live : env.LiveAt m' object c (written i w)
  size : (written i w).image.size = i.image.size
  /-- The bytes of the field are those of the value. -/
  inside : (written i w).image.read w.offset.toNat w.bytes.length = w.bytes
  /-- The other bytes of the instance are as they were. -/
  outside : ∀ place width, place + width ≤ i.image.size →
    Apart place width w.offset.toNat w.bytes.length →
      (written i w).image.read place width = i.image.read place width
  readBack : env.getField m' object (some w.id) w.bytes.length = .ok w.bytes
  /-- Fields that have no byte in common with the one written read as before. -/
  apart : ∀ id f offset width, env.fieldAt? id = some f → f.place = .instance offset → width ≤ 16 →
    Apart offset.toNat width w.offset.toNat w.bytes.length →
      env.getField m' object (some id) width = env.getField m object (some id) width
  otherInstances : ∀ other, other ≠ object → m'.instance? other = m.instance? other
  statics : m'.statics = m.statics

/-- A field is neither read nor written, for this reason, and nothing changes. -/
structure FieldRefused (env : Environment) (m : Memory) (object : Handle) (w : c.FieldWrite)
    (refusal : Refusal AccessError) : Prop where
  read : env.getField m object (some w.id) w.bytes.length = .error refusal
  write : env.setField m object (some w.id) w.bytes = .error refusal
  unchanged : env.afterWrite object m w = m

/-- A static field is read and written at an address, whatever instance is named, or none. -/
structure FieldAtAddress (env : Environment) (m : Memory) (id : FieldId) (address : UInt64) :
    Prop where
  read : ∀ object width,
    env.getField m object (some id) width = .ok (m.load width (.static address)) ∧
      env.getStaticField m (some id) width = .ok (m.load width (.static address))
  write : ∀ object bytes,
    env.setField m object (some id) bytes = .ok (m.store bytes (.static address)) ∧
      env.setStaticField m (some id) bytes = .ok (m.store bytes (.static address))
  /-- A value that ends inside the address range is there after the write. -/
  stored : ∀ bytes, address.toNat + bytes.length ≤ UInt64.size →
    (m.store bytes (.static address)).load bytes.length (.static address) = bytes
  /-- So is every part of it, for a field whose storage begins inside that of the value. -/
  part : ∀ bytes start width other, start + width ≤ bytes.length →
    address.toNat + bytes.length ≤ UInt64.size → other.toNat = address.toNat + start →
      (m.store bytes (.static address)).load width (.static other) = (bytes.drop start).take width
  /-- Static storage that has no byte in common with the value written reads as before. -/
  apart : ∀ bytes other width, Apart other.toNat width address.toNat bytes.length →
    (m.store bytes (.static address)).load width (.static other) = m.load width (.static other)
  instances : ∀ bytes object,
    (m.store bytes (.static address)).instance? object = m.instance? object

lemma fieldRefused_of_fieldAddress {w : c.FieldWrite} {refusal : Refusal AccessError}
    (hknown : env.classAt? c.handle = some c)
    (h : env.fieldAddress m w.id w.field object (UInt64.ofNat w.bytes.length) = .error refusal) :
    env.FieldRefused m object w refusal := by
  have hfield : env.fieldAt? w.id = some w.field := fieldAt?_of_declared hknown w.declared
  have hwrite : env.setField m object (some w.id) w.bytes = .error refusal :=
    writeField_of_refused hfield h "set_field"
  refine ⟨readField_of_refused hfield h "get_field", hwrite, ?_⟩
  unfold Class.FieldWrite.id at hwrite
  rw [afterWrite, hwrite]

lemma fieldRefused_of_other {cls : Class} (w : c.FieldWrite)
    (hknown : env.classAt? c.handle = some c) (h : env.LiveAt m object cls i) (hcls : cls ≠ c) :
    env.FieldRefused m object w ⟨.classMismatch w.field.name cls.fullName,
      [.classMismatch "field_address" s!"{w.field.name} on {cls.fullName}"]⟩ := by
  -- A class is known by its handle, so the header of another instance holds another handle.
  have howner : c.handle ≠ cls.handle := fun hhandle => hcls (h.eq_of_handle hknown hhandle)
  exact fieldRefused_of_fieldAddress hknown (fieldAddress_of_other h w.placed howner _)

lemma fieldRefused_of_overrun {w : c.FieldWrite} (hinside : c.FieldsInside)
    (hsize : c.instanceSize.toNat < 2 ^ 63) (h : env.LiveAt m object c i)
    (hwidth : w.bytes.length ≤ 16)
    (hlong : c.instanceSize.toNat < w.offset.toNat + w.bytes.length) :
    env.FieldRefused m object w ⟨.fieldOverrun w.field.name
      (w.offset + UInt64.ofNat w.bytes.length) c.instanceSize, []⟩ := by
  have hoverrun : c.instanceSize < w.offset + UInt64.ofNat w.bytes.length := by
    by_contra hend
    have hfits := (hinside.not_lt_end_iff hsize (List.mem_of_getElem? w.declared) w.placed
      hwidth).mp hend
    exact Nat.not_le.mpr hlong hfits
  apply fieldRefused_of_fieldAddress h.classAt?
  rw [Class.FieldWrite.id, fieldAddress_of_live h w.placed, if_pos hoverrun]
  rfl

lemma fieldAtAddress_of_static {id : FieldId} {f : Field} {address : UInt64}
    (hfield : env.fieldAt? id = some f) (hplace : f.place = .static address) :
    env.FieldAtAddress m id address := by
  refine ⟨?_, ?_, ?_, ?_, ?_, ?_⟩
  · intro object width
    have hread : ∀ object function, env.readField m function (some id) object width =
        .ok (m.load width (.static address)) := fun object function =>
      readField_of_located hfield (fieldAddress_of_static hplace m id object _) function
    exact ⟨hread object "get_field", hread .null "get_static_field"⟩
  · intro object bytes
    have hwrite : ∀ object function, env.writeField m function (some id) object bytes =
        .ok (m.store bytes (.static address)) := fun object function =>
      writeField_of_located hfield (fieldAddress_of_static hplace m id object _) function
    exact ⟨hwrite object "set_field", hwrite .null "set_static_field"⟩
  · intro bytes hend
    rw [← m.spans] at hend
    exact m.statics.read_write_self address.toNat bytes hend
  · intro bytes start width other hin hend hother
    rw [← m.spans] at hend
    rw [Memory.load, hother]
    exact Block.read_write_of_inside hend hin
  · intro bytes other width hapart
    exact Block.read_write_of_outside hapart
  · intro bytes object
    rfl

section Written

variable {w : c.FieldWrite}

lemma classHandle_written (i : Instance) (hheader : headerSize ≤ w.offset.toNat) :
    (written i w).classHandle = i.classHandle := by
  rw [written, Instance.classHandle_withImage, Instance.handleOf_write_of_le _ _ hheader,
    Instance.handleOf_image]

lemma read_image_written {place width : Nat} (hfit : place + width ≤ i.image.size) :
    (written i w).image.read place width =
      (i.image.write w.offset.toNat w.bytes).read place width := by
  apply Instance.read_image_withImage (Block.size_write _ _ _)
  rw [Block.size_write]
  exact hfit

lemma getField_congr_of_other {m' : Memory} {i' : Instance} (h : env.LiveAt m object c i)
    (h' : env.LiveAt m' object c i') {id : FieldId} {f : Field} {offset : UInt64}
    (hfield : env.fieldAt? id = some f) (hplace : f.place = .instance offset)
    (hother : id.owner ≠ c.handle) (width : Nat) :
    env.getField m' object (some id) width = env.getField m object (some id) width := by
  rw [getField, getField,
    readField_of_refused hfield (fieldAddress_of_other h' hplace hother _),
    readField_of_refused hfield (fieldAddress_of_other h hplace hother _)]

lemma fieldWritten_of_fits (hinside : c.FieldsInside) (hsize : c.instanceSize.toNat < 2 ^ 63)
    (h : env.LiveAt m object c i) (hroom : c.instanceSize.toNat ≤ i.image.size)
    (hheader : headerSize ≤ w.offset.toNat) (hwidth : w.bytes.length ≤ 16)
    (hfits : c.Fits w.offset w.bytes.length) :
    env.FieldWritten m (m.write object (written i w)) object i w := by
  have hfit : w.offset.toNat + w.bytes.length ≤ i.image.size := Nat.le_trans hfits hroom
  have hlive : env.LiveAt (m.write object (written i w)) object c (written i w) := by
    refine ⟨m.instance?_write_self object _ (Memory.isNull_of_instance? h.live), ?_⟩
    rw [classHandle_written i hheader, h.known]
  have hread : (written i w).image.read w.offset.toNat w.bytes.length = w.bytes := by
    rw [read_image_written hfit, Block.read_write_self _ _ _ hfit]
  have houtside : ∀ place width, place + width ≤ i.image.size →
      Apart place width w.offset.toNat w.bytes.length →
        (written i w).image.read place width = i.image.read place width := by
    intro place width hplace hapart
    rw [read_image_written hplace, Block.read_write_of_outside hapart]
  refine ⟨hlive, Instance.size_image_withImage (Block.size_write _ _ _), hread, houtside, ?_, ?_,
    ?_, rfl⟩
  · have hend := (hinside.not_lt_end_iff hsize (List.mem_of_getElem? w.declared) w.placed
      hwidth).mpr hfits
    rw [Class.FieldWrite.id, getField_of_live hlive w.declared w.placed, if_neg hend, hread]
  · intro id f offset width hfield hplace hbound hapart
    -- Whether the other field is refused does not depend on the bytes of the instance.
    by_cases howner : id.owner = c.handle
    · obtain ⟨owner, index⟩ := id
      obtain rfl : owner = c.handle := howner
      have hdeclared : c.fields[index]? = some f := by
        rw [fieldAt?, h.classAt?, Option.bind_some] at hfield
        exact hfield
      have hend := hinside.not_lt_end_iff hsize (List.mem_of_getElem? hdeclared) hplace hbound
      rw [getField_of_live hlive hdeclared hplace, getField_of_live h hdeclared hplace]
      by_cases hoverrun : c.instanceSize < offset + UInt64.ofNat width
      · rw [if_pos hoverrun, if_pos hoverrun]
      · have hinner : offset.toNat + width ≤ i.image.size :=
          Nat.le_trans (hend.mp hoverrun) hroom
        rw [if_neg hoverrun, if_neg hoverrun, houtside offset.toNat width hinner hapart]
    · exact getField_congr_of_other h hlive hfield hplace howner width
  · intro other hother
    exact m.instance?_write_ne (written i w) hother

lemma setField_eq_ok_iff_fits (hinside : c.FieldsInside) (hsize : c.instanceSize.toNat < 2 ^ 63)
    (h : env.LiveAt m object c i) (hwidth : w.bytes.length ≤ 16) {m' : Memory} :
    env.setField m object (some w.id) w.bytes = .ok m' ↔
      c.Fits w.offset w.bytes.length ∧ m' = m.write object (written i w) := by
  have hword : ¬c.Wraps w.offset w.bytes.length :=
    hinside.not_wraps (by omega) (List.mem_of_getElem? w.declared) w.placed hwidth
  rw [Class.FieldWrite.id, setField_eq_ok_iff h w.declared w.placed hwidth, or_iff_left hword]
  rfl

end Written

/-- A value behind the header of a live instance is written exactly when the instance is of the very
class of the field and has room for the value, and then to the bytes of the field and nowhere else.
Without an instance, on an instance of another class and for want of room the field is neither read
nor written; the first two are reported, once each. A static field is read and written at its
recorded address, whatever instance is named. -/
theorem setField_changes_field_only {r r' : ClassRegistry} {c : Class} (hc : r.insert? c = .ok r')
    (hsize : c.instanceSize.toNat < 2 ^ 63) (env : Environment)
    (hknown : env.classAt? c.handle = some c) (m : Memory) (hroom : m.Allocates c) :
    (∀ w : c.FieldWrite, headerSize ≤ w.offset.toNat → w.bytes.length ≤ 16 →
      ∀ object cls i, env.LiveAt m object cls i →
        ((∃ m', env.setField m object (some w.id) w.bytes = .ok m') ↔
          cls = c ∧ w.offset.toNat + w.bytes.length ≤ c.instanceSize.toNat) ∧
        ∀ m', env.setField m object (some w.id) w.bytes = .ok m' →
          env.FieldWritten m m' object i w) ∧
    (∀ w : c.FieldWrite, w.bytes.length ≤ 16 →
      env.FieldRefused m .null w
        ⟨.missingInstance w.field.name, [.nullHandle "field_address" w.field.name]⟩ ∧
      (∀ object cls i, env.LiveAt m object cls i → cls ≠ c →
        env.FieldRefused m object w ⟨.classMismatch w.field.name cls.fullName,
          [.classMismatch "field_address" s!"{w.field.name} on {cls.fullName}"]⟩) ∧
      ∀ object i, env.LiveAt m object c i →
        c.instanceSize.toNat < w.offset.toNat + w.bytes.length →
          env.FieldRefused m object w ⟨.fieldOverrun w.field.name
            (w.offset + UInt64.ofNat w.bytes.length) c.instanceSize, []⟩) ∧
    ∀ index f address, c.fields[index]? = some f → f.place = .static address →
      env.FieldAtAddress m ⟨c.handle, index⟩ address := by
  have hinside := ClassRegistry.fieldsInside_of_insert? hc
  refine ⟨?_, ?_, ?_⟩
  · intro w hheader hwidth object cls i hlive
    by_cases hcls : cls = c
    · subst hcls
      have hset : ∀ m', env.setField m object (some w.id) w.bytes = .ok m' ↔
          cls.Fits w.offset w.bytes.length ∧ m' = m.write object (written i w) := fun m' =>
        setField_eq_ok_iff_fits hinside hsize hlive hwidth
      refine ⟨⟨?_, fun hfits => ⟨_, (hset _).mpr ⟨hfits.2, rfl⟩⟩⟩, ?_⟩
      · rintro ⟨m', hm'⟩
        exact ⟨rfl, ((hset m').mp hm').1⟩
      · intro m' hm'
        obtain ⟨hfits, rfl⟩ := (hset m').mp hm'
        have hobject := hroom object i hlive.live (handle_of_classAt? hlive.known).symm
        exact fieldWritten_of_fits hinside hsize hlive hobject hheader hwidth hfits
    · have hrefused := (fieldRefused_of_other w hknown hlive hcls).write
      refine ⟨⟨?_, fun hsame => absurd hsame.1 hcls⟩, ?_⟩
      · rintro ⟨m', hm'⟩
        cases hrefused.symm.trans hm'
      · intro m' hm'
        cases hrefused.symm.trans hm'
  · intro w hwidth
    refine ⟨?_, ?_, ?_⟩
    · exact fieldRefused_of_fieldAddress hknown (fieldAddress_of_null w.placed w.id _)
    · intro object cls i hlive hcls
      exact fieldRefused_of_other w hknown hlive hcls
    · intro object i hlive hlong
      exact fieldRefused_of_overrun hinside hsize hlive hwidth hlong
  · intro index f address hdeclared hplace
    exact fieldAtAddress_of_static (fieldAt?_of_declared hknown hdeclared) hplace

end Environment

namespace Sample

/-- `it/Gauge` with two neighbouring fields behind the header, and two static ones of which the
second lies in the storage of the first. -/
def meterClass (handle : Handle) : Class :=
  { gaugeClass handle with
    fields := [⟨"level", "I", .instance 8⟩, ⟨"limit", "I", .instance 12⟩,
      ⟨"total", "J", .static 0x9000⟩, ⟨"high", "I", .static 0x9004⟩] }

def limitWrite (bytes : List UInt8) : (meterClass ⟨0x40⟩).FieldWrite where
  position := 1
  field := ⟨"limit", "I", .instance 12⟩
  offset := 12
  declared := rfl
  placed := rfl
  bytes := bytes

/-- A memory with an instance of the class, and one of another class of the same name. -/
def meters : Memory :=
  (memoryWith (meterClass ⟨0x40⟩) ⟨0x500⟩).write ⟨0x600⟩ (.zeroed (meterClass ⟨0x41⟩))

end Sample

namespace Environment

/-- Of two neighbouring fields one is written and the other is not; a value that is too long is
refused, and so is an instance of another class of the same name. The storage of a static field is
found through either instance, and a write to it shows in the field that lies inside. -/
theorem limit_written_alone :
    let c := Sample.meterClass ⟨0x40⟩
    let twin := Sample.meterClass ⟨0x41⟩
    let env := ofTable (ClassRegistry.empty.register c).toTable [twin]
    let m := Sample.meters
    let w := Sample.limitWrite (Value.int (-1)).bytes
    let long := Sample.limitWrite (Value.long (-1)).bytes
    (∃ m', env.setField m ⟨0x500⟩ (some w.id) w.bytes = .ok m' ∧
      env.getField m' ⟨0x500⟩ (some w.id) 4 = .ok (Value.int (-1)).bytes ∧
      env.getField m' ⟨0x500⟩ (some ⟨c.handle, 0⟩) 4 =
        env.getField m ⟨0x500⟩ (some ⟨c.handle, 0⟩) 4 ∧
      m'.instance? ⟨0x600⟩ = some (.zeroed twin)) ∧
    env.setField m ⟨0x500⟩ (some long.id) long.bytes =
      .error ⟨.fieldOverrun "limit" 20 16, []⟩ ∧
    twin.fullName = c.fullName ∧
    env.setField m ⟨0x600⟩ (some w.id) w.bytes = .error ⟨.classMismatch "limit" "it/Gauge",
      [.classMismatch "field_address" "limit on it/Gauge"]⟩ ∧
    env.getField m ⟨0x600⟩ (some ⟨c.handle, 2⟩) 8 = env.getField m .null (some ⟨c.handle, 2⟩) 8 ∧
    ∃ m', env.setStaticField m (some ⟨c.handle, 2⟩) (Value.long (-1)).bytes = .ok m' ∧
      env.getStaticField m' (some ⟨c.handle, 3⟩) 4 = .ok (Value.int (-1)).bytes := by
  intro c twin env m w long
  have hc : ClassRegistry.empty.insert? c = .ok (ClassRegistry.empty.register c) := by rfl
  have hlive : env.LiveAt m ⟨0x500⟩ c (.zeroed c) := liveAt_zeroed rfl rfl
  have htwin : env.LiveAt m ⟨0x600⟩ twin (.zeroed twin) := liveAt_zeroed rfl rfl
  have hroom : m.Allocates c := by
    intro object i hi _
    have hzeroed : i = .zeroed c ∨ i = .zeroed twin := by
      by_cases hp : object = ⟨0x500⟩
      · rw [hp, hlive.live] at hi
        exact .inl (Option.some.inj hi).symm
      · by_cases hq : object = ⟨0x600⟩
        · rw [hq, htwin.live] at hi
          exact .inr (Option.some.inj hi).symm
        · simp [Memory.instance?, m, Sample.meters, Sample.memoryWith, Memory.write, Memory.empty,
            hp, hq] at hi
    obtain rfl | rfl := hzeroed
    · rw [Instance.size_image_zeroed]
      exact Nat.le_max_right _ _
    · rw [Instance.size_image_zeroed]
      exact Nat.le_max_right _ _
  obtain ⟨hwritten, hrefused, hstatic⟩ :=
    setField_changes_field_only hc (by decide) env rfl m hroom
  obtain ⟨hsuccess, hframe⟩ := hwritten w (by decide) (by decide) ⟨0x500⟩ c _ hlive
  obtain ⟨m', hm'⟩ := hsuccess.mpr ⟨rfl, by decide⟩
  have hafter := hframe m' hm'
  have hother : twin ≠ c := fun hsame => absurd (congrArg Class.handle hsame) (by decide)
  have htotal := hstatic 2 _ 0x9000 rfl rfl
  refine ⟨⟨m', hm', hafter.readBack, ?_, ?_⟩, ?_, rfl, ?_, ?_, _, (htotal.write .null _).2, ?_⟩
  · exact hafter.apart ⟨c.handle, 0⟩ _ 8 4 rfl rfl (by decide) (by unfold Apart; decide)
  · rw [hafter.otherInstances ⟨0x600⟩ (by decide)]
    exact htwin.live
  · exact ((hrefused long (by decide)).2.2 ⟨0x500⟩ _ hlive (by decide)).write
  · exact ((hrefused w (by decide)).2.1 ⟨0x600⟩ twin _ htwin hother).write
  · rw [(htotal.read ⟨0x600⟩ 8).1, (htotal.read .null 8).1]
  · have hhigh : env.FieldAtAddress (m.store (Value.long (-1)).bytes (.static 0x9000))
        ⟨c.handle, 3⟩ 0x9004 := fieldAtAddress_of_static rfl rfl
    rw [(hhigh.read .null 4).2, htotal.part _ 4 4 0x9004 (by decide) (by decide) (by decide)]
    rfl

end Environment

end NativeBridge
