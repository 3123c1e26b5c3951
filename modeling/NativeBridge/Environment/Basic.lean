import NativeBridge.Call.Request
import NativeBridge.Class.Registry
import NativeBridge.Memory.Store

/-!
# The environment

An environment gives foreign code access to one sealed class table. This file holds the lookups.
They follow the convention of the boundary: a lookup that finds nothing answers with a null handle
or no identifier, and a lookup through a null handle also reports a violation.
-/

namespace NativeBridge

/-- How calls made by a host function are answered. -/
abbrev NestedCall := MethodCall → Memory → Run CallOutcome

/-- An environment over one class table. Handles may also name classes outside the table. Host
functions that call one another fill the stack of the host, and what then happens is not up to the
environment: calls nested up to a depth are calls like any other, and what answers deeper ones is
arbitrary. -/
structure Environment where
  handle : Handle
  table : ClassTable
  /-- Classes that live outside the table. -/
  detached : List Class
  /-- How deeply calls may be nested. -/
  depth : Nat
  /-- Answers the calls that are nested more deeply. -/
  beyond : NestedCall

def interfaceVersion : Int32 := 0x10000

namespace Environment

/-- Answers every call like one without a method. -/
def refuseNested : NestedCall := fun c m => ⟨⟨.error (.nullHandle "method"), c.arguments⟩, m, []⟩

/-- The environment over a table, with further classes outside it. -/
def ofTable (table : ClassTable) (detached : List Class) : Environment :=
  ⟨⟨0x540000000000⟩, table, detached, 256, refuseNested⟩

/-- The class a handle names; the null handle names none. -/
def classAt? (env : Environment) (h : Handle) : Option Class :=
  if h.isNull then none
  else (env.table.classes ++ env.detached).find? fun c => c.handle = h

def methodAt? (env : Environment) (id : MethodId) : Option ManagedMethod :=
  (env.classAt? id.owner).bind fun c => c.methods[id.index]?

def fieldAt? (env : Environment) (id : FieldId) : Option Field :=
  (env.classAt? id.owner).bind fun c => c.fields[id.index]?

/-- The class in the table with this full name, null if there is none. -/
def findClass (env : Environment) (name : String) : Handle :=
  ((env.table.find? name).map Class.handle).getD .null

/-- The record written when no class has the name. -/
def findClassRecords (env : Environment) (name : String) : List LogRecord :=
  match env.table.find? name with
  | some _ => []
  | none => [⟨.debug, "env", s!"find_class: '{name}' not found"⟩]

/-- The first method of a class with this name and signature and an accepted shape. -/
def methodIdWhere (env : Environment) (accept : CallShape → Bool) (cls : Handle)
    (name signature : String) : Option MethodId × List Violation :=
  match env.classAt? cls with
  | none => (none, [.nullHandle "get_method_id" name])
  | some c => ((c.findShaped? name signature accept).map Prod.fst, [])

/-- The first virtual or non-virtual method of a class with this name and signature. -/
def getMethodId (env : Environment) (cls : Handle) (name signature : String) :
    Option MethodId × List Violation :=
  env.methodIdWhere (· ≠ .static) cls name signature

/-- The first static method of a class with this name and signature. -/
def getStaticMethodId (env : Environment) (cls : Handle) (name signature : String) :
    Option MethodId × List Violation :=
  env.methodIdWhere (· = .static) cls name signature

/-- The first field of a class with this name and signature that is static, or not, as wanted. -/
def fieldIdWhere (env : Environment) (static : Bool) (cls : Handle) (name signature : String) :
    Option FieldId × List Violation :=
  match env.classAt? cls with
  | none => (none, [.nullHandle "get_field_id" name])
  | some c => ((c.findPlacedField? name signature static).map Prod.fst, [])

/-- The first instance field of a class with this name and signature. -/
def getFieldId (env : Environment) (cls : Handle) (name signature : String) :
    Option FieldId × List Violation :=
  env.fieldIdWhere false cls name signature

/-- The first static field of a class with this name and signature. -/
def getStaticFieldId (env : Environment) (cls : Handle) (name signature : String) :
    Option FieldId × List Violation :=
  env.fieldIdWhere true cls name signature

def classOf? (env : Environment) (m : Memory) (object : Handle) : Option Class :=
  (m.instance? object).bind fun i => env.classAt? i.classHandle

/-- Whether a handle names an instance of exactly this class. -/
def isInstance (env : Environment) (m : Memory) (object cls : Handle) : Bool :=
  ((env.classOf? m object).map fun c => c.handle == cls).getD false

/-- The handle that an instance's header holds; null, with a violation, for the null handle. -/
def getObjectClass (_ : Environment) (m : Memory) (object : Handle) :
    Handle × List Violation :=
  match m.instance? object with
  | some i => (i.classHandle, [])
  | none => (.null, [.nullHandle "get_object_class" "null object"])

/-- The array a handle names, if its class is an array class. -/
def arrayAt? (env : Environment) (m : Memory) (object : Handle) : Option ArrayObject :=
  match env.classOf? m object, m.instance? object with
  | some c, some (.array a) => if c.isArray then some a else none
  | _, _ => none

/-- The string a handle names, if its class is the class of strings. -/
def stringAt? (env : Environment) (m : Memory) (object : Handle) : Option StringObject :=
  match env.classOf? m object, m.instance? object with
  | some c, some (.string s) => if StringObject.accepts c then some s else none
  | _, _ => none

end Environment

end NativeBridge
