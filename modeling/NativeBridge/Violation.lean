import NativeBridge.Text.Hex
import NativeBridge.Decimal.Notation
import NativeBridge.Value.Promotion

/-!
# Safety violations

Foreign callers can break the protocol of the boundary: pass a null handle, name an instance of the
wrong class, index outside an array, or pass arguments that do not match. The host never turns that
into undefined behaviour. It reports a violation, which says what was broken and where, and goes on
with a defined result.
-/

namespace NativeBridge

/-- The kinds of violation. -/
inductive ViolationKind where
  | nullHandle | classMismatch | indexOutOfBounds | argumentUnderflow | argumentClassMismatch
deriving DecidableEq, Repr

def ViolationKind.text : ViolationKind → String
  | nullHandle => "NullHandle"
  | classMismatch => "ClassMismatch"
  | indexOutOfBounds => "IndexOutOfBounds"
  | argumentUnderflow => "ArgumentUnderflow"
  | argumentClassMismatch => "ArgumentClassMismatch"

/-- A broken rule of the boundary. -/
inductive Violation where
  /-- A null handle where `function` needs a live instance or descriptor. -/
  | nullHandle (function subject : String)
  /-- A handle whose class `function` does not accept. -/
  | classMismatch (function subject : String)
  /-- An element index outside an array of `count` elements. -/
  | elementOutOfBounds (index count : Int32)
  /-- A region that leaves an array of `count` elements. -/
  | regionOutOfBounds (start : Int32) (length : Nat) (count : Int32)
  /-- A read of class `wanted` at the one-based `position` beyond `count` arguments. -/
  | argumentUnderflow (wanted : PromotedClass) (position count : Nat)
  /-- A read of class `wanted` at the one-based `position`, where `passed` is another class. -/
  | argumentClassMismatch (wanted : PromotedClass) (position : Nat) (passed : Promoted)
deriving DecidableEq, Repr

/-- A promoted argument in diagnostic output; `pointer` writes handles. -/
def Promoted.text (pointer : Handle → String) : Promoted → String
  | .int v => s!"Int({v.toInt})"
  | .long v => s!"Long({v.toInt})"
  | .double v => "Double(" ++ Decimal.text v ++ ")"
  | .pointer v => "Pointer(" ++ pointer v ++ ")"

namespace Violation

def kind : Violation → ViolationKind
  | nullHandle .. => .nullHandle
  | classMismatch .. => .classMismatch
  | elementOutOfBounds .. => .indexOutOfBounds
  | regionOutOfBounds .. => .indexOutOfBounds
  | argumentUnderflow .. => .argumentUnderflow
  | argumentClassMismatch .. => .argumentClassMismatch

def function : Violation → String
  | nullHandle function _ => function
  | classMismatch function _ => function
  | elementOutOfBounds .. => "element_ptr"
  | regionOutOfBounds .. => "check_region"
  | argumentUnderflow .. => "VarArgs::take"
  | argumentClassMismatch .. => "VarArgs::take"

/-- What was found; `pointer` writes handles. -/
def details (pointer : Handle → String) : Violation → String
  | nullHandle _ subject => subject
  | classMismatch _ subject => subject
  | elementOutOfBounds index count => s!"index {index.toInt} for length {count.toInt}"
  | regionOutOfBounds start length count =>
    s!"region {start.toInt}+{length} for length {count.toInt}"
  | argumentUnderflow wanted position count =>
    s!"read {wanted.text} as argument #{position} of {count}"
  | argumentClassMismatch wanted position passed =>
    s!"argument #{position} read as {wanted.text}, passed as " ++ passed.text pointer

/-- The whole report; `pointer` writes handles. -/
def text (pointer : Handle → String) (v : Violation) : String :=
  v.kind.text ++ " in " ++ v.function ++ ": " ++ v.details pointer

end Violation

/-- An operation that was refused: why, and the violations reported on the way. -/
structure Refusal (ε : Type) where
  cause : ε
  reports : List Violation

end NativeBridge
