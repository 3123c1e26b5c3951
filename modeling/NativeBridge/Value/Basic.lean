import NativeBridge.Handle
import NativeBridge.Word.Floating
import NativeBridge.Word.LittleEndian

/-!
# Typed values

The nine types of value that cross the boundary. Integers have fixed width and wrap, floating-point
numbers are bit patterns, and every kind of reference is a handle. Each type has a width and a
little-endian encoding of exactly that many bytes.
-/

namespace NativeBridge

/-- The type of a value. -/
inductive ValueType where
  | boolean | byte | char | short | int | long | float | double | object
deriving DecidableEq, Repr

/-- A value with its type. A boolean is a byte of which zero alone is false. -/
inductive Value where
  | boolean (v : UInt8)
  | byte (v : Int8)
  | char (v : UInt16)
  | short (v : Int16)
  | int (v : Int32)
  | long (v : Int64)
  | float (v : Binary32)
  | double (v : Binary64)
  | object (v : Handle)
deriving DecidableEq, Repr

/-- The number of bytes of a value of this type. -/
def ValueType.width : ValueType → Nat
  | .boolean | .byte => 1
  | .char | .short => 2
  | .int | .float => 4
  | .long | .double | .object => 8

namespace ValueType

def all : List ValueType :=
  [boolean, byte, char, short, int, long, float, double, object]

def letter : ValueType → Char
  | boolean => 'Z'
  | byte => 'B'
  | char => 'C'
  | short => 'S'
  | int => 'I'
  | long => 'J'
  | float => 'F'
  | double => 'D'
  | object => 'L'

def ofLetter? (c : Char) : Option ValueType := all.find? fun t => t.letter = c

end ValueType

namespace Value

def type : Value → ValueType
  | boolean _ => .boolean
  | byte _ => .byte
  | char _ => .char
  | short _ => .short
  | int _ => .int
  | long _ => .long
  | float _ => .float
  | double _ => .double
  | object _ => .object

/-- The bits of a value as an unsigned number of the value's width. -/
def bits : Value → Nat
  | boolean v => v.toNat
  | byte v => v.toUInt8.toNat
  | char v => v.toNat
  | short v => v.toUInt16.toNat
  | int v => v.toUInt32.toNat
  | long v => v.toUInt64.toNat
  | float v => v.bits.toNat
  | double v => v.bits.toNat
  | object v => v.address.toNat

/-- The bytes of a value, least significant first. -/
def bytes (v : Value) : List UInt8 := LittleEndian.encode v.type.width v.bits

@[simp] theorem length_bytes (v : Value) : v.bytes.length = v.type.width := by simp [bytes]

/-- The truth of a boolean value; nothing for another type. -/
def asBoolean : Value → Option Bool
  | boolean v => some (v != 0)
  | _ => none

def asInt : Value → Option Int32
  | int v => some v
  | _ => none

def asLong : Value → Option Int64
  | long v => some v
  | _ => none

def asFloat : Value → Option Binary32
  | float v => some v
  | _ => none

def asDouble : Value → Option Binary64
  | double v => some v
  | _ => none

def asObject : Value → Option Handle
  | object v => some v
  | _ => none

end Value

/-- The value of the given type with the given bits; bits beyond the type's width are dropped. -/
def ValueType.ofBits : ValueType → Nat → Value
  | .boolean, n => .boolean (UInt8.ofNat n)
  | .byte, n => .byte (UInt8.ofNat n).toInt8
  | .char, n => .char (UInt16.ofNat n)
  | .short, n => .short (UInt16.ofNat n).toInt16
  | .int, n => .int (UInt32.ofNat n).toInt32
  | .long, n => .long (UInt64.ofNat n).toInt64
  | .float, n => .float ⟨UInt32.ofNat n⟩
  | .double, n => .double ⟨UInt64.ofNat n⟩
  | .object, n => .object ⟨UInt64.ofNat n⟩

/-- The value of the given type with the given bytes, least significant first. -/
def ValueType.ofBytes (t : ValueType) (bytes : List UInt8) : Value :=
  t.ofBits (LittleEndian.decode bytes)

@[simp] theorem ValueType.type_ofBits (t : ValueType) (n : Nat) : (t.ofBits n).type = t := by
  cases t <;> rfl

/-- The value with the given bits keeps those that its type has room for. -/
theorem ValueType.bits_ofBits (t : ValueType) (n : Nat) :
    (t.ofBits n).bits = n % Nat.pow 256 t.width := by
  cases t with
  | boolean => exact UInt8.toNat_ofNat'
  | byte => exact (congrArg UInt8.toNat (UInt8.toUInt8_toInt8 _)).trans UInt8.toNat_ofNat'
  | char => exact UInt16.toNat_ofNat'
  | short => exact (congrArg UInt16.toNat (UInt16.toUInt16_toInt16 _)).trans UInt16.toNat_ofNat'
  | int => exact (congrArg UInt32.toNat (UInt32.toUInt32_toInt32 _)).trans UInt32.toNat_ofNat'
  | long => exact (congrArg UInt64.toNat (UInt64.toUInt64_toInt64 _)).trans UInt64.toNat_ofNat'
  | float => exact UInt32.toNat_ofNat'
  | double => exact UInt64.toNat_ofNat'
  | object => exact UInt64.toNat_ofNat'

/-- Reading a value's bits at its own type gives the value back. -/
theorem Value.ofBits_bits (v : Value) : v.type.ofBits v.bits = v := by
  cases v <;> simp [type, bits, ValueType.ofBits]

end NativeBridge
