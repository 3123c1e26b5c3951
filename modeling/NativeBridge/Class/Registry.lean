import NativeBridge.Class.Basic

/-!
# The class registry

Classes are collected in a registry and then sealed into a table. The registry keeps the classes in
registration order together with an index from full names to positions. It refuses a class whose
full name is taken, and a class with an instance field that begins outside the instance; a refused
class leaves the registry as it was. Sealing forgets the way to add classes and keeps everything
else.
-/

namespace NativeBridge

/-- Why a class is refused. -/
inductive RegistryError where
  | duplicateClass (name : String)
  | fieldOutOfBounds (cls field : String) (offset instanceSize : UInt64)
deriving DecidableEq, Repr

def RegistryError.name : RegistryError → String
  | duplicateClass _ => "DuplicateClass"
  | fieldOutOfBounds .. => "FieldOutOfBounds"

def RegistryError.message : RegistryError → String
  | duplicateClass name => s!"class '{name}' is already registered"
  | fieldOutOfBounds cls field offset instanceSize =>
    s!"field '{cls}.{field}' at offset {offset.toNat} lies outside instance size " ++
      s!"{instanceSize.toNat}"

/-- The first instance field of a class that begins outside its instances. -/
def Class.strayField? (c : Class) : Option (Field × UInt64) :=
  c.fields.findSome? fun f =>
    match f.offset? with
    | some offset => if c.instanceSize ≤ offset then some (f, offset) else none
    | none => none

/-- Classes under collection. -/
structure ClassRegistry where
  /-- The classes in registration order. -/
  classes : List Class
  /-- The position of each class, by full name. -/
  positions : List (String × Nat)

/-- A sealed, read-only collection of classes. -/
structure ClassTable where
  classes : List Class
  positions : List (String × Nat)

namespace ClassRegistry

def empty : ClassRegistry := ⟨[], []⟩

def size (r : ClassRegistry) : Nat := r.classes.length

/-- Adds a class at the end, or says why it is refused. -/
def insert? (r : ClassRegistry) (c : Class) : Except RegistryError ClassRegistry :=
  if (r.positions.lookup c.fullName).isSome then .error (.duplicateClass c.fullName)
  else
    match c.strayField? with
    | some (f, offset) =>
      .error (.fieldOutOfBounds c.fullName f.name offset c.instanceSize)
    | none => .ok ⟨r.classes ++ [c], r.positions ++ [(c.fullName, r.size)]⟩

/-- The registry after an attempt to add a class. -/
def register (r : ClassRegistry) (c : Class) : ClassRegistry :=
  match r.insert? c with
  | .ok r' => r'
  | .error _ => r

/-- The records written by an attempt to add a class. -/
def registrationRecords (r : ClassRegistry) (c : Class) : List LogRecord :=
  match r.insert? c with
  | .ok _ => [⟨.debug, "registry",
      s!"registered class {c.fullName} ({c.methods.length} managed, {c.natives.length} native, " ++
        s!"{c.fields.length} fields)"⟩]
  | .error (.duplicateClass name) =>
    [⟨.error, "registry", s!"duplicate class registration: {name}"⟩]
  | .error (.fieldOutOfBounds ..) => []

/-- Adds classes one after the other, stopping at the first that is refused. -/
def insertAll? (r : ClassRegistry) : List Class → Except RegistryError ClassRegistry
  | [] => .ok r
  | c :: cs =>
    match r.insert? c with
    | .ok r' => r'.insertAll? cs
    | .error e => .error e

/-- The records written by adding classes until one is refused. -/
def insertAllRecords (r : ClassRegistry) : List Class → List LogRecord
  | [] => []
  | c :: cs =>
    r.registrationRecords c ++
      match r.insert? c with
      | .ok r' => r'.insertAllRecords cs
      | .error _ => []

def toTable (r : ClassRegistry) : ClassTable := ⟨r.classes, r.positions⟩

def sealingRecords (r : ClassRegistry) : List LogRecord :=
  [⟨.debug, "registry", s!"sealed class table with {r.size} classes"⟩]

/-- Submitted classes in the order they are registered in: by full name, submissions of one name in
the order they were made. -/
def inventoryOrder (submitted : List Class) : List Class :=
  submitted.mergeSort fun a b => decide (a.fullName ≤ b.fullName)

/-- The registry of every submitted class, or the first refusal. -/
def ofInventory? (submitted : List Class) : Except RegistryError ClassRegistry :=
  empty.insertAll? (inventoryOrder submitted)

end ClassRegistry

namespace ClassTable

def size (t : ClassTable) : Nat := t.classes.length

def find? (t : ClassTable) (fullName : String) : Option Class :=
  (t.positions.lookup fullName).bind fun position => t.classes[position]?

/-- The class found under the full name that a path and a name spell. -/
def get? (t : ClassTable) (classpath classname : String) : Option Class :=
  t.find? (qualifiedName classpath classname)

def findMethod? (t : ClassTable) (key : MemberKey) : Option (MethodId × ManagedMethod) :=
  (t.get? key.classpath key.classname).bind fun c => c.findMethod? key.name key.signature

def findField? (t : ClassTable) (key : MemberKey) : Option (FieldId × Field) :=
  (t.get? key.classpath key.classname).bind fun c => c.findField? key.name key.signature

end ClassTable

end NativeBridge
