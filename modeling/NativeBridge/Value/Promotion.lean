import NativeBridge.Value.Basic

/-!
# Default argument promotion

A variable argument list carries four classes of argument only. Integers narrower than `int` arrive
as `int`, unsigned ones extended with zeros and signed ones with their sign; `float` arrives as
`double`; handles arrive as pointers. Reading an argument at a narrower type drops the high bits, or
rounds a double to the nearest single.
-/

namespace NativeBridge

/-- The class of a promoted argument. -/
inductive PromotedClass where
  | int | long | double | pointer
deriving DecidableEq, Repr

/-- An argument as it arrives in a variable argument list. -/
inductive Promoted where
  | int (v : Int32)
  | long (v : Int64)
  | double (v : Binary64)
  | pointer (v : Handle)
deriving DecidableEq, Repr

namespace PromotedClass

def text : PromotedClass → String
  | int => "int"
  | long => "long"
  | double => "double"
  | pointer => "pointer"

/-- What an argument of this class carries. -/
abbrev Carrier : PromotedClass → Type
  | int => Int32
  | long => Int64
  | double => Binary64
  | pointer => Handle

/-- The zero of a class; the null handle for pointers. -/
def zero : (c : PromotedClass) → c.Carrier
  | int => (0 : Int32)
  | long => (0 : Int64)
  | double => (⟨0⟩ : Binary64)
  | pointer => Handle.null

/-- The argument of this class with the given content. -/
def wrap : (c : PromotedClass) → c.Carrier → Promoted
  | int, v => .int v
  | long, v => .long v
  | double, v => .double v
  | pointer, v => .pointer v

end PromotedClass

namespace Promoted

def promotedClass : Promoted → PromotedClass
  | int _ => .int
  | long _ => .long
  | double _ => .double
  | pointer _ => .pointer

/-- The content of an argument, if it was passed as the wanted class. -/
def as? : (wanted : PromotedClass) → Promoted → Option wanted.Carrier
  | .int, int v => some v
  | .long, long v => some v
  | .double, double v => some v
  | .pointer, pointer v => some v
  | _, _ => none

end Promoted

/-- The value as it arrives in a variable argument list. -/
def Value.promote : Value → Promoted
  | boolean v => .int v.toUInt32.toInt32
  | byte v => .int v.toInt32
  | char v => .int v.toUInt32.toInt32
  | short v => .int v.toInt32
  | int v => .int v
  | long v => .long v
  | float v => .double v.widen
  | double v => .double v
  | object v => .pointer v

namespace ValueType

/-- The class an argument of this type is promoted to. -/
def promotedClass : ValueType → PromotedClass
  | boolean | byte | char | short | int => .int
  | long => .long
  | float | double => .double
  | object => .pointer

/-- The value of this type that a promoted argument of its class is narrowed to. -/
def narrow : (t : ValueType) → t.promotedClass.Carrier → Value
  | boolean, v => .boolean v.toUInt32.toUInt8
  | byte, v => .byte v.toInt8
  | char, v => .char v.toUInt32.toUInt16
  | short, v => .short v.toInt16
  | int, v => .int v
  | long, v => .long v
  | float, v => .float v.narrow
  | double, v => .double v
  | object, v => .object v

end ValueType

end NativeBridge
