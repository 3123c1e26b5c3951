import NativeBridge.Call.Host

/-!
# Probe functions

A probe is a host function that makes its call visible: its result is a checksum of all its
arguments, or the handle it was called on. A probe is described by a key, the letters of its
parameters and of its result on the two sides of an arrow head, and exists in every shape.
-/

namespace NativeBridge

def ParamType.letter : ParamType → Char
  | boolean => 'Z'
  | byte => 'B'
  | char => 'C'
  | short => 'S'
  | int => 'I'
  | long => 'J'
  | float => 'F'
  | double => 'D'
  | object => 'L'
  | cls => 'K'
  | string => 'T'
  | array => 'A'
  | observed => 'R'

def ParamType.ofLetter? : Char → Option ParamType
  | 'Z' => some boolean
  | 'B' => some byte
  | 'C' => some char
  | 'S' => some short
  | 'I' => some int
  | 'J' => some long
  | 'F' => some float
  | 'D' => some double
  | 'L' => some object
  | 'K' => some cls
  | 'T' => some string
  | 'A' => some array
  | 'R' => some observed
  | _ => none

namespace Probe

/-- The contribution of an argument to the checksum: integers by value, floating-point numbers by
their bits with one pattern for every NaN, and handles by whether they are null. -/
def contribution : Value → Int64
  | .boolean v => v.toUInt64.toInt64
  | .byte v => v.toInt64
  | .char v => v.toUInt64.toInt64
  | .short v => v.toInt64
  | .int v => v.toInt64
  | .long v => v
  | .float v => (if v.isNaN then 0x7fc00000 else v.bits.toUInt64).toInt64
  | .double v => (if v.isNaN then 0x7ff8000000000000 else v.bits).toInt64
  | .object v => if v.isNull then 0 else 1

/-- The checksum of arguments, in wrapping 64-bit arithmetic. -/
def checksum (arguments : List Value) : Int64 :=
  arguments.foldl (fun h v => h * 31 + contribution v) 0

/-- The result of the given type for a checksum and the handle called on. -/
def result (h : Int64) (subject : Handle) : ParamType → Value
  | .boolean => .boolean (h.toUInt64.toUInt8 &&& 1)
  | .byte => .byte h.toInt8
  | .char => .char h.toUInt64.toUInt16
  | .short => .short h.toInt16
  | .int | .observed => .int h.toInt32
  | .long => .long h
  | .float => .float (Binary32.ofInt h.toInt16.toInt)
  | .double => .double (Binary64.ofInt h.toInt32.toInt)
  | .object | .cls | .string | .array => .object subject

@[simp] theorem type_result (h : Int64) (subject : Handle) (p : ParamType) :
    (result h subject p).type = p.valueType := by
  cases p <;> rfl

/-- The handle a prelude is called on: the receiver if there is one, else the class. -/
def subject {shape : CallShape} (prelude : Prelude shape) : Handle :=
  (prelude.receiver? <|> prelude.class?).getD .null

/-- The probe with the given parameters and result. -/
def make (shape : CallShape) (key : String) (parameters : List ParamType)
    (result? : Option ParamType) : HostFunction shape where
  name := key
  parameters := parameters
  returns := result?.map ParamType.valueType
  body prelude arguments :=
    .finish (result?.map (result (checksum arguments) (subject prelude)))
      (by cases result? <;> simp)

def keys : List String := [
  ">V", ">Z", ">B", ">C", ">S", ">I", ">J", ">F", ">D", ">L", ">K", ">T", ">A", "Z>Z", "B>B",
  "C>C", "S>S", "I>I", "J>J", "F>F", "D>D", "I>V", "L>L", "K>K", "T>T", "A>A", "II>I", "JI>J",
  "FD>D", "LI>L", "RRR>I", "IJD>D", "TAK>V", "IJDI>J", "ZBCS>I", "ZBCSF>D", "IJFDL>J",
  "FDFDFD>F", "ZBCSIJ>J", "ZBCSIJF>V", "IIIIIII>I", "ZBCSIJFD>J", "LLLLLLLL>L", "RRRRRRRR>J"]

/-- The probe of the given shape with this key. -/
def named? (shape : CallShape) (key : String) : Option (HostFunction shape) :=
  if keys.contains key then
    let letters := key.toList
    let parameters := (letters.takeWhile (· ≠ '>')).filterMap ParamType.ofLetter?
    let result? := letters.getLast?.bind ParamType.ofLetter?
    some (make shape key parameters result?)
  else none

end Probe

end NativeBridge
