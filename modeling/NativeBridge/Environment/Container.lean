import NativeBridge.Environment.Basic
import NativeBridge.Class.ArrayDescriptor
import NativeBridge.Memory.Elements

/-!
# Strings and arrays through the environment

Foreign code makes strings and arrays by class name and reads them through untyped handles. Before
the contents are touched the instance's class is checked; a null handle and an instance of another
class are reported and refused.
-/

namespace NativeBridge.Environment

/-- The refusal of a handle that names no instance. -/
def nullInstance (function : String) : Refusal AccessError :=
  ⟨.missingInstance function, [.nullHandle function "null instance"]⟩

/-- The refusal of an instance whose class the function does not accept. -/
def foreignInstance (function className : String) : Refusal AccessError :=
  ⟨.instanceClass function className,
    [.classMismatch function ("instance of " ++ className)]⟩

/-- The array a handle names, on behalf of `function`. -/
def checkedArray (env : Environment) (m : Memory) (object : Handle) (function : String) :
    Except (Refusal AccessError) ArrayObject :=
  match env.classOf? m object with
  | none => .error (nullInstance function)
  | some c =>
    match env.arrayAt? m object with
    | some a => .ok a
    | none => .error (foreignInstance function c.fullName)

/-- The string a handle names, on behalf of `function`. -/
def checkedString (env : Environment) (m : Memory) (object : Handle) (function : String) :
    Except (Refusal AccessError) StringObject :=
  match env.classOf? m object with
  | none => .error (nullInstance function)
  | some c =>
    match env.stringAt? m object with
    | some s => .ok s
    | none => .error (foreignInstance function c.fullName)

/-- The length of a string in UTF-16 units; zero for anything else. -/
def getStringLength (env : Environment) (m : Memory) (string : Handle) : Int32 × List Violation :=
  match env.checkedString m string "get_string_length" with
  | .ok s => (Int32.ofNat s.utf16Length, [])
  | .error r => (0, r.reports)

/-- The number of elements of an array; zero for anything else. -/
def getArrayLength (env : Environment) (m : Memory) (array : Handle) : Int32 × List Violation :=
  match env.checkedArray m array "get_array_length" with
  | .ok a => (a.count, [])
  | .error r => (0, r.reports)

def getArrayRegion (env : Environment) (m : Memory) (array : Handle) (width : Nat)
    (start : Int32) (length : Nat) : Except (Refusal AccessError) (List (List UInt8)) :=
  match env.checkedArray m array "get_array_region" with
  | .error r => .error r
  | .ok a => a.getRegion width start length

/-- The memory after a region of an array is written. -/
def setArrayRegion (env : Environment) (m : Memory) (array : Handle) (width : Nat)
    (start : Int32) (values : List (List UInt8)) : Except (Refusal AccessError) Memory :=
  match env.checkedArray m array "set_array_region" with
  | .error r => .error r
  | .ok a =>
    match a.setRegion width start values with
    | .error r => .error r
    | .ok a' => .ok (m.write array (.array a'))

/-- The class with this full name, refused when the table has none. -/
def classNamed (env : Environment) (name : String) : Except CallError Class :=
  match env.table.find? name with
  | some c => .ok c
  | none => .error (.unknownClass name)

def newString (env : Environment) (text : List Char) : Except CallError StringObject :=
  match env.table.get? stringClasspath stringClassname with
  | none => .error (.unknownClass (stringClasspath ++ "/" ++ stringClassname))
  | some c => (StringObject.ofText? c text).mapError .object

/-- A new zeroed array of the named array class. -/
def newArray (env : Environment) (arrayClass : String) (count : Int32) :
    Except CallError ArrayObject :=
  match ElementType.ofArrayClass? arrayClass with
  | none => .error (.unknownClass arrayClass)
  | some element =>
    match env.classNamed arrayClass with
    | .error e => .error e
    | .ok array =>
      match env.classNamed element.name with
      | .error e => .error e
      | .ok elementClass =>
        (ArrayObject.make? array elementClass count (Int32.ofNat element.width)).mapError .object

end NativeBridge.Environment
