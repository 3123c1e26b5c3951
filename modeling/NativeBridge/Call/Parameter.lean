import NativeBridge.LogRecord
import NativeBridge.Value.Slot
import NativeBridge.Call.Shape
import NativeBridge.Call.VarArgs

/-!
# Parameters and argument extraction

A host function lists its parameters after the prelude. Its arguments arrive in one of two forms:
packed slots, one per parameter, or a variable argument list. Both forms are read one parameter
after the other in declaration order, and every argument is read before the function starts. This
file defines the two extractions and the events an observer of a call can see.
-/

namespace NativeBridge

/-- The type of a parameter. Class, string and array handles travel like object handles. An observed
integer is an `int` whose extraction is itself an event. -/
inductive ParamType where
  | boolean | byte | char | short | int | long | float | double | object | cls | string | array
  | observed
deriving DecidableEq, Repr

def ParamType.valueType : ParamType → ValueType
  | boolean => .boolean
  | byte => .byte
  | char => .char
  | short => .short
  | int | observed => .int
  | long => .long
  | float => .float
  | double => .double
  | object | cls | string | array => .object

/-- A host function starting to run: its name, the prelude handles it received and its arguments
with the types of their parameters. -/
structure Entry where
  function : String
  env : Handle
  receiver : Option Handle
  cls : Option Handle
  arguments : List (ParamType × Value)
deriving DecidableEq, Repr

/-- What an observer of the host sees, in order. -/
inductive Event where
  /-- A safety violation was reported. -/
  | violation (v : Violation)
  /-- A log record was written. -/
  | logged (record : LogRecord)
  /-- The argument of an observed parameter was extracted. -/
  | read (v : Value)
  /-- A host function was entered. -/
  | entered (entry : Entry)
deriving DecidableEq, Repr

/-- The violation carried by an event, if it is one. -/
def Event.violation? : Event → Option Violation
  | .violation v => some v
  | _ => none

/-- The violations among events, in order. -/
def violationsOf (events : List Event) : List Violation := events.filterMap Event.violation?

namespace ParamType

/-- The argument a packed slot holds for a parameter of this type. -/
def ofSlot (p : ParamType) (s : Slot) : Value := p.valueType.ofSlot s

/-- The event of extracting `v` for a parameter of this type, if that is observed. -/
def extractionEvents (p : ParamType) (v : Value) : List Event :=
  if p = .observed then [.read v] else []

end ParamType

/-- Arguments taken from a variable argument list, with the rest of the list. -/
structure Extraction where
  arguments : List Value
  rest : VarArgs
  events : List Event

/-- Reads one argument per parameter from a variable argument list. -/
def extractVariadic : List ParamType → VarArgs → Extraction
  | [], a => ⟨[], a, []⟩
  | p :: ps, a =>
    let r := a.nextValue p.valueType
    let e := extractVariadic ps r.rest
    ⟨r.value :: e.arguments, e.rest,
      r.violations.map .violation ++ p.extractionEvents r.value ++ e.events⟩

/-- Reads one argument per parameter from packed slots, of which there is at least one for each
parameter. -/
def extractPacked (params : List ParamType) (slots : List Slot) : List Value :=
  List.zipWith ParamType.ofSlot params slots

/-- The arguments that a cursor reads from packed slots, one slot for each parameter, and the slots
behind it. Nothing is read when the cursor would have to pass the last slot. -/
def readSlots : List ParamType → List Slot → Option (List Value × List Slot)
  | [], slots => some ([], slots)
  | _ :: _, [] => none
  | p :: params, slot :: slots =>
    (readSlots params slots).map fun r => (p.ofSlot slot :: r.1, r.2)

/-- The events of reading the given arguments for the given parameters from packed slots. -/
def packedExtractionEvents (params : List ParamType) (arguments : List Value) : List Event :=
  (List.zipWith ParamType.extractionEvents params arguments).flatten

/-- A cursor with a slot for each parameter reads what the extraction does. -/
theorem readSlots_of_length_le {params : List ParamType} {slots : List Slot}
    (h : params.length ≤ slots.length) :
    readSlots params slots = some (extractPacked params slots, slots.drop params.length) := by
  induction params generalizing slots with
  | nil => rfl
  | cons p params ih =>
    cases slots with
    | nil => simp at h
    | cons slot slots =>
      rw [readSlots, ih (by simpa using h)]
      rfl

end NativeBridge
