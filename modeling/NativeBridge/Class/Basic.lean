import NativeBridge.Class.Member
import NativeBridge.Class.Symbol
import NativeBridge.Call.Host

/-!
# Class descriptors

A class descriptor lists the host methods, the native methods and the fields of one type. A
descriptor never changes after it is built, and the handle it was built at identifies it: two
descriptors with the same name at different handles are different classes. Members are found by
name and signature, the first declared one winning.
-/

namespace NativeBridge

/-- A method implemented by the host and callable from foreign modules. -/
structure ManagedMethod where
  name : String
  /-- An opaque lookup key, compared as text. -/
  signature : String
  shape : CallShape
  function : HostFunction shape

/-- The number of parameters after the prelude. -/
def ManagedMethod.argCount (m : ManagedMethod) : Nat := m.function.argCount

/-- A method implemented inside a foreign module. -/
structure NativeMethod where
  name : String
  signature : String
  /-- The name of the module that implements the method. -/
  moduleName : String
deriving DecidableEq, Repr

/-- Where a field is kept. -/
inductive FieldPlace where
  /-- At an absolute address. -/
  | static (address : UInt64)
  /-- At an offset from the start of the instance. -/
  | instance (offset : UInt64)
deriving DecidableEq, Repr

/-- A field of a class. -/
structure Field where
  name : String
  signature : String
  place : FieldPlace
deriving DecidableEq, Repr

namespace Field

/-- Whether the field is kept once for the whole class. -/
def isStatic (f : Field) : Bool :=
  match f.place with
  | .static _ => true
  | .instance _ => false

/-- The offset of an instance field. -/
def offset? (f : Field) : Option UInt64 :=
  match f.place with
  | .static _ => none
  | .instance offset => some offset

theorem offset?_eq_some_iff {f : Field} {offset : UInt64} :
    f.offset? = some offset ↔ f.place = .instance offset := by
  unfold offset?
  cases f.place <;> simp

/-- The recorded address of a static field or offset of an instance field. -/
def location (f : Field) : UInt64 :=
  match f.place with
  | .static address => address
  | .instance offset => offset

end Field

/-- The descriptor of one type. -/
structure Class where
  handle : Handle
  classpath : String
  classname : String
  /-- The number of bytes of one instance, header included. -/
  instanceSize : UInt64
  methods : List ManagedMethod
  natives : List NativeMethod
  fields : List Field

namespace Class

def fullName (c : Class) : String := qualifiedName c.classpath c.classname

/-- Whether the class has exactly this path and name. -/
def isNamed (c : Class) (classpath classname : String) : Bool :=
  c.classpath == classpath && c.classname == classname

/-- Whether the instances of the class are arrays. -/
def isArray (c : Class) : Bool := c.classname.toList.head? == some '['

/-- The host methods with their identifiers, in declaration order. -/
def declaredMethods (c : Class) : List (MethodId × ManagedMethod) :=
  c.methods.zipIdx.map fun m => (⟨c.handle, m.2⟩, m.1)

/-- The native methods with their identifiers, in declaration order. -/
def declaredNatives (c : Class) : List (NativeId × NativeMethod) :=
  c.natives.zipIdx.map fun m => (⟨c.handle, m.2⟩, m.1)

/-- The fields with their identifiers, in declaration order. -/
def declaredFields (c : Class) : List (FieldId × Field) :=
  c.fields.zipIdx.map fun f => (⟨c.handle, f.2⟩, f.1)

/-- The first host method with this name and signature, of any shape. -/
def findMethod? (c : Class) (name signature : String) : Option (MethodId × ManagedMethod) :=
  c.declaredMethods.find? fun m => m.2.name == name && m.2.signature == signature

/-- The first host method with this name and signature whose shape is accepted. -/
def findShaped? (c : Class) (name signature : String) (accept : CallShape → Bool) :
    Option (MethodId × ManagedMethod) :=
  c.declaredMethods.find? fun m =>
    m.2.name == name && m.2.signature == signature && accept m.2.shape

/-- The first native method with this name and signature. -/
def findNative? (c : Class) (name signature : String) : Option (NativeId × NativeMethod) :=
  c.declaredNatives.find? fun m => m.2.name == name && m.2.signature == signature

/-- The first field with this name and signature. -/
def findField? (c : Class) (name signature : String) : Option (FieldId × Field) :=
  c.declaredFields.find? fun f => f.2.name == name && f.2.signature == signature

/-- The first field with this name and signature that is static, or that is not, as wanted. -/
def findPlacedField? (c : Class) (name signature : String) (static : Bool) :
    Option (FieldId × Field) :=
  c.declaredFields.find? fun f =>
    f.2.name == name && f.2.signature == signature && f.2.isStatic == static

/-- The symbols a native method of the class may be exported under, in the order they are tried. -/
def symbolCandidates (c : Class) (m : NativeMethod) : List String :=
  [Symbol.short c.fullName m.name, Symbol.long c.fullName m.name m.signature]

/-- The records written while the members of the class are declared. -/
def declarationRecords (c : Class) : List LogRecord :=
  c.methods.map (fun m => ⟨.debug, "descriptor",
    s!"registered {m.shape.text} method {c.fullName}.{m.name}{m.signature} ({m.argCount} args)"⟩) ++
  c.natives.map (fun m => ⟨.debug, "descriptor",
    s!"declared native {c.fullName}.{m.name}{m.signature} in '{m.moduleName}'"⟩)

end Class

end NativeBridge
