import NativeBridge.Environment.Basic

/-!
# Field access

A static field lives at its recorded address and needs no instance. An instance field lives at its
offset from the start of an instance of exactly the class that declares it, and the value accessed
must end inside the instance. The end is computed in the 64-bit arithmetic of the machine.
-/

namespace NativeBridge

/-- Where the storage of a field is. -/
inductive FieldAddress where
  /-- At an absolute address. -/
  | static (address : UInt64)
  /-- At an offset inside an instance. -/
  | inside (object : Handle) (offset : UInt64)
deriving DecidableEq, Repr

namespace Environment

/-- The storage of a field for a value of `width` bytes. The instance matters for instance fields
only. -/
def fieldAddress (env : Environment) (m : Memory) (id : FieldId) (f : Field) (object : Handle)
    (width : UInt64) : Except (Refusal AccessError) FieldAddress :=
  match f.place with
  | .static address => .ok (.static address)
  | .instance offset =>
    match env.classOf? m object with
    | none => .error ⟨.missingInstance f.name, [.nullHandle "field_address" f.name]⟩
    | some c =>
      if id.owner ≠ c.handle then
        .error ⟨.classMismatch f.name c.fullName,
          [.classMismatch "field_address" s!"{f.name} on {c.fullName}"]⟩
      else if c.instanceSize < offset + width then
        .error ⟨.fieldOverrun f.name (offset + width) c.instanceSize, []⟩
      else .ok (.inside object offset)

/-- The field an identifier names, refused when there is no identifier. -/
def checkedField (env : Environment) (function : String) (field : Option FieldId) :
    Except (Refusal AccessError) (FieldId × Field) :=
  match field.bind fun id => (env.fieldAt? id).map fun f => (id, f) with
  | some found => .ok found
  | none => .error ⟨.missingInstance "field id", [.nullHandle function "null field id"]⟩

/-- The storage of the field an identifier names. -/
def locateField (env : Environment) (m : Memory) (function : String) (field : Option FieldId)
    (object : Handle) (width : Nat) : Except (Refusal AccessError) FieldAddress :=
  match env.checkedField function field with
  | .error r => .error r
  | .ok (id, f) => env.fieldAddress m id f object (UInt64.ofNat width)

end Environment

namespace Memory

def load (m : Memory) (width : Nat) : FieldAddress → List UInt8
  | .static address => m.statics.read address.toNat width
  | .inside object offset =>
    (((m.instance? object).map Instance.image).getD (.zeros 0)).read offset.toNat width

/-- The memory after bytes are written to a field's storage. -/
def store (m : Memory) (bytes : List UInt8) : FieldAddress → Memory
  | .static address => m.writeStatic address bytes
  | .inside object offset =>
    match m.instance? object with
    | some i => m.write object (i.withImage (i.image.write offset.toNat bytes))
    | none => m

end Memory

namespace Environment

/-- Reads `width` bytes of a field, on behalf of `function`. -/
def readField (env : Environment) (m : Memory) (function : String) (field : Option FieldId)
    (object : Handle) (width : Nat) : Except (Refusal AccessError) (List UInt8) :=
  match env.locateField m function field object width with
  | .error r => .error r
  | .ok address => .ok (m.load width address)

/-- The memory after bytes are written to a field, on behalf of `function`. -/
def writeField (env : Environment) (m : Memory) (function : String) (field : Option FieldId)
    (object : Handle) (bytes : List UInt8) : Except (Refusal AccessError) Memory :=
  match env.locateField m function field object bytes.length with
  | .error r => .error r
  | .ok address => .ok (m.store bytes address)

def getField (env : Environment) (m : Memory) (object : Handle) (field : Option FieldId)
    (width : Nat) : Except (Refusal AccessError) (List UInt8) :=
  env.readField m "get_field" field object width

def setField (env : Environment) (m : Memory) (object : Handle) (field : Option FieldId)
    (bytes : List UInt8) : Except (Refusal AccessError) Memory :=
  env.writeField m "set_field" field object bytes

def getStaticField (env : Environment) (m : Memory) (field : Option FieldId) (width : Nat) :
    Except (Refusal AccessError) (List UInt8) :=
  env.readField m "get_static_field" field .null width

def setStaticField (env : Environment) (m : Memory) (field : Option FieldId)
    (bytes : List UInt8) : Except (Refusal AccessError) Memory :=
  env.writeField m "set_static_field" field .null bytes

end Environment

end NativeBridge
