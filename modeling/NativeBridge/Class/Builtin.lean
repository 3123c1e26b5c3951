import NativeBridge.Class.ArrayDescriptor
import NativeBridge.Class.Registry
import NativeBridge.Memory.Instance

/-!
# Builtin classes

Every process has a class of objects, a class of strings, a class for each primitive type, an array
class over each primitive type and an array class over objects. Strings answer their length, their
emptiness and their hash; asked of anything else, each reports a violation and answers as for the
empty string.
-/

namespace NativeBridge.Builtin

/-- The hash of an object: the two halves of its address, one laid over the other. -/
def addressHash (h : Handle) : Int32 :=
  (h.address ^^^ (h.address >>> 32)).toUInt32.toInt32

/-- `Object.hashCode`. -/
def objectHashCode : HostFunction .virtual where
  name := "Object.hashCode"
  parameters := []
  returns := some .int
  body prelude _ := .finishWith (.int (addressHash prelude.receiver))

/-- A function of the receiver's bytes that answers `otherwise`, with a violation, when the receiver
is not a string. -/
def stringFunction (name : String) (returns : ValueType)
    (ofBytes : List UInt8 → Value) (otherwise : Value)
    (typed : ∀ bytes, (ofBytes bytes).type = returns := by exact fun _ => rfl)
    (otherwiseTyped : otherwise.type = returns := by rfl) :
    HostFunction .virtual where
  name := name
  parameters := []
  returns := some returns
  body prelude _ := .textOf prelude.receiver fun text =>
    match text with
    | some bytes => .finish (some (ofBytes bytes)) (congrArg some (typed bytes))
    | none => .report (.classMismatch name "receiver is not a String")
        (.finish (some otherwise) (congrArg some otherwiseTyped))

/-- `String.length`: the number of UTF-16 units. -/
def stringLength : HostFunction .virtual :=
  stringFunction "String.length" .int
    (fun bytes => .int (Int32.ofNat (StringObject.units bytes).length)) (.int 0)

/-- `String.isEmpty`: whether there are no bytes. -/
def stringIsEmpty : HostFunction .virtual :=
  stringFunction "String.isEmpty" .boolean
    (fun bytes => .boolean (if bytes.isEmpty then 1 else 0)) (.boolean 1)

/-- `String.hashCode`: the polynomial hash of the UTF-16 units. -/
def stringHashCode : HostFunction .virtual :=
  stringFunction "String.hashCode" .int
    (fun bytes => .int (Utf16.hash (StringObject.units bytes))) (.int 0)

def bare (classpath classname : String) (instanceSize : UInt64) (handle : Handle) : Class :=
  { handle, classpath, classname, instanceSize, methods := [], natives := [], fields := [] }

/-- `java/lang/Object`. -/
def objectClass (handle : Handle) : Class :=
  { bare "java/lang" "Object" 8 handle with
    methods := [⟨"hashCode", "()I", .virtual, objectHashCode⟩] }

/-- `java/lang/String`. -/
def stringClass (handle : Handle) : Class :=
  { bare stringClasspath stringClassname containerSize handle with
    methods := [
      ⟨"length", "()I", .virtual, stringLength⟩,
      ⟨"isEmpty", "()Z", .virtual, stringIsEmpty⟩,
      ⟨"hashCode", "()I", .virtual, stringHashCode⟩] }

def primitiveClass (p : Primitive) (handle : Handle) : Class :=
  bare "" p.name (UInt64.ofNat p.width) handle

def primitiveArrayClass (p : Primitive) (handle : Handle) : Class :=
  bare "" (String.ofList ['[', p.letter]) containerSize handle

def objectArrayClass (handle : Handle) : Class :=
  bare "" "[Ljava/lang/Object;" containerSize handle

/-- The builtin classes, each waiting for the handle it is built at. -/
def all : List (Handle → Class) :=
  [objectClass, stringClass] ++
    primitives.flatMap (fun p => [primitiveClass p, primitiveArrayClass p]) ++
    [objectArrayClass]

def named? (name : String) : Option (Handle → Class) :=
  all.find? fun build => (build .null).fullName == name

end NativeBridge.Builtin
