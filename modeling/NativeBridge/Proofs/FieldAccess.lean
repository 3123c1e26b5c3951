import Mathlib.Tactic.Common
import NativeBridge.Environment.Field
import NativeBridge.Proofs.InstanceImage

/-!
# Access to the fields of live instances

A field is accessed through an identifier, which is first located and then read or written. This
file says what location finds: the address of a static field, and for an instance field the offset
in an instance of its own class, unless the value would end outside the instance. An access yields
the bytes at the offset, or the memory in which they are replaced.
-/

namespace NativeBridge

def Class.overrun (c : Class) (f : Field) (offset width : UInt64) : Refusal AccessError :=
  ⟨.fieldOverrun f.name (offset + width) c.instanceSize, []⟩

namespace Environment

/-- The instance and its class that a handle names. -/
structure LiveAt (env : Environment) (m : Memory) (object : Handle) (c : Class) (i : Instance) :
    Prop where
  live : m.instance? object = some i
  known : env.classAt? i.classHandle = some c

variable {env : Environment} {m : Memory} {object : Handle} {c : Class} {i : Instance}

lemma handle_of_classAt? {h : Handle} (hc : env.classAt? h = some c) : c.handle = h := by
  unfold classAt? at hc
  split at hc
  · cases hc
  · simpa using List.find?_some hc

namespace LiveAt

lemma classOf? (h : env.LiveAt m object c i) : env.classOf? m object = some c := by
  rw [Environment.classOf?, h.live, Option.bind_some, h.known]

lemma classAt? (h : env.LiveAt m object c i) : env.classAt? c.handle = some c := by
  rw [handle_of_classAt? h.known]
  exact h.known

end LiveAt

lemma LiveAt.eq_of_handle {cls : Class} (h : env.LiveAt m object cls i)
    (hknown : env.classAt? c.handle = some c) (hhandle : c.handle = cls.handle) : cls = c := by
  have hcls := h.classAt?
  rw [← hhandle, hknown] at hcls
  exact (Option.some.inj hcls).symm

lemma liveAt_zeroed (hknown : env.classAt? c.handle = some c)
    (hobject : m.instance? object = some (.zeroed c)) : env.LiveAt m object c (.zeroed c) := by
  refine ⟨hobject, ?_⟩
  rw [Instance.classHandle_zeroed, hknown]

section Located

variable {id : FieldId} {f : Field} {bytes : List UInt8} {width : Nat}
  {refusal : Refusal AccessError} {address : FieldAddress}

lemma locateField_of_fieldAt? (hfield : env.fieldAt? id = some f) (m : Memory)
    (function : String) (object : Handle) (width : Nat) :
    env.locateField m function (some id) object width =
      env.fieldAddress m id f object (UInt64.ofNat width) := by
  simp only [locateField, checkedField, Option.bind_some, hfield, Option.map_some]

lemma readField_of_refused (hfield : env.fieldAt? id = some f)
    (h : env.fieldAddress m id f object (UInt64.ofNat width) = .error refusal) (function : String) :
    env.readField m function (some id) object width = .error refusal := by
  rw [readField, locateField_of_fieldAt? hfield, h]

lemma writeField_of_refused (hfield : env.fieldAt? id = some f)
    (h : env.fieldAddress m id f object (UInt64.ofNat bytes.length) = .error refusal)
    (function : String) :
    env.writeField m function (some id) object bytes = .error refusal := by
  rw [writeField, locateField_of_fieldAt? hfield, h]

lemma readField_of_located (hfield : env.fieldAt? id = some f)
    (h : env.fieldAddress m id f object (UInt64.ofNat width) = .ok address) (function : String) :
    env.readField m function (some id) object width = .ok (m.load width address) := by
  rw [readField, locateField_of_fieldAt? hfield, h]

lemma writeField_of_located (hfield : env.fieldAt? id = some f)
    (h : env.fieldAddress m id f object (UInt64.ofNat bytes.length) = .ok address)
    (function : String) :
    env.writeField m function (some id) object bytes = .ok (m.store bytes address) := by
  rw [writeField, locateField_of_fieldAt? hfield, h]

end Located

section Declared

variable {index : Nat} {f : Field}

lemma fieldAt?_of_declared (hknown : env.classAt? c.handle = some c)
    (hdeclared : c.fields[index]? = some f) : env.fieldAt? ⟨c.handle, index⟩ = some f := by
  rw [fieldAt?, hknown, Option.bind_some, hdeclared]

lemma fieldAddress_of_static {address : UInt64} (hplace : f.place = .static address) (m : Memory)
    (id : FieldId) (object : Handle) (width : UInt64) :
    env.fieldAddress m id f object width = .ok (.static address) := by
  simp only [fieldAddress, hplace]

variable {offset : UInt64}

lemma fieldAddress_of_null (hplace : f.place = .instance offset) (id : FieldId) (width : UInt64) :
    env.fieldAddress m id f .null width =
      .error ⟨.missingInstance f.name, [.nullHandle "field_address" f.name]⟩ := by
  simp only [fieldAddress, hplace, Environment.classOf?, Memory.instance?, Handle.isNull_null,
    if_true, Option.bind_none]

lemma fieldAddress_of_other (h : env.LiveAt m object c i) (hplace : f.place = .instance offset)
    {id : FieldId} (hother : id.owner ≠ c.handle) (width : UInt64) :
    env.fieldAddress m id f object width =
      .error ⟨.classMismatch f.name c.fullName,
        [.classMismatch "field_address" s!"{f.name} on {c.fullName}"]⟩ := by
  simp only [fieldAddress, hplace, h.classOf?, ne_eq, hother, not_false_eq_true, if_true]

lemma fieldAddress_of_live (h : env.LiveAt m object c i) (hplace : f.place = .instance offset)
    (index : Nat) (width : UInt64) :
    env.fieldAddress m ⟨c.handle, index⟩ f object width =
      if c.instanceSize < offset + width then .error (c.overrun f offset width)
      else .ok (.inside object offset) := by
  simp only [fieldAddress, hplace, h.classOf?, ne_eq, not_true_eq_false, if_false]
  rfl

lemma getField_of_live (h : env.LiveAt m object c i) (hdeclared : c.fields[index]? = some f)
    (hplace : f.place = .instance offset) (width : Nat) :
    env.getField m object (some ⟨c.handle, index⟩) width =
      if c.instanceSize < offset + UInt64.ofNat width then
        .error (c.overrun f offset (UInt64.ofNat width))
      else .ok (i.image.read offset.toNat width) := by
  have hfield := fieldAt?_of_declared h.classAt? hdeclared
  have haddress := fieldAddress_of_live h hplace index (UInt64.ofNat width)
  by_cases hoverrun : c.instanceSize < offset + UInt64.ofNat width
  · rw [if_pos hoverrun] at haddress ⊢
    exact readField_of_refused hfield haddress "get_field"
  · rw [if_neg hoverrun] at haddress ⊢
    rw [getField, readField_of_located hfield haddress, Memory.load, h.live]
    rfl

lemma setField_of_live (h : env.LiveAt m object c i) (hdeclared : c.fields[index]? = some f)
    (hplace : f.place = .instance offset) (bytes : List UInt8) :
    env.setField m object (some ⟨c.handle, index⟩) bytes =
      if c.instanceSize < offset + UInt64.ofNat bytes.length then
        .error (c.overrun f offset (UInt64.ofNat bytes.length))
      else .ok (m.write object (i.withImage (i.image.write offset.toNat bytes))) := by
  have hfield := fieldAt?_of_declared h.classAt? hdeclared
  have haddress := fieldAddress_of_live h hplace index (UInt64.ofNat bytes.length)
  by_cases hoverrun : c.instanceSize < offset + UInt64.ofNat bytes.length
  · rw [if_pos hoverrun] at haddress ⊢
    exact writeField_of_refused hfield haddress "set_field"
  · rw [if_neg hoverrun] at haddress ⊢
    rw [setField, writeField_of_located hfield haddress]
    simp only [Memory.store, h.live]

end Declared

end Environment

end NativeBridge
