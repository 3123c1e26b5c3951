import NativeBridge.Call.Parameter
import NativeBridge.Memory.Error

/-!
# Method calls

A method call names a target, a method and its arguments. The target decides the shape: a receiver
for virtual methods, a class for static ones, both for non-virtual ones. The arguments are packed
slots or a variable argument list.
-/

namespace NativeBridge

/-- What a method is called on. -/
inductive CallTarget where
  | virtual (receiver : Handle)
  | static (cls : Handle)
  | nonvirtual (receiver cls : Handle)
deriving DecidableEq, Repr

/-- The arguments of a call, in one of the two forms. -/
inductive CallArguments where
  | packed (slots : List Slot)
  | variadic (arguments : VarArgs)
deriving DecidableEq, Repr

/-- A request to call a method; no method means a null method identifier. -/
structure MethodCall where
  target : CallTarget
  method : Option MethodId
  arguments : CallArguments
deriving DecidableEq, Repr

namespace CallTarget

/-- The shape a method must have to be called on this target. -/
def shape : CallTarget → CallShape
  | virtual _ => .virtual
  | static _ => .static
  | nonvirtual _ _ => .nonvirtual

def receiver? : CallTarget → Option Handle
  | virtual receiver => some receiver
  | static _ => none
  | nonvirtual receiver _ => some receiver

def class? : CallTarget → Option Handle
  | virtual _ => none
  | static cls => some cls
  | nonvirtual _ cls => some cls

/-- The frame of a call on this target from the given environment. -/
def frame (target : CallTarget) (env : Handle) : CallFrame :=
  ⟨env, target.receiver?.getD .null, target.class?.getD .null⟩

end CallTarget

/-- Why a call is refused. -/
inductive CallError where
  /-- A required handle was null. -/
  | nullHandle (what : String)
  | shapeMismatch (method : String) (expected actual : CallShape)
  | arityMismatch (method : String) (expected actual : Nat)
  /-- The class the method was called through does not declare it. -/
  | classMismatch (method cls : String)
  /-- The class is not in the table. -/
  | unknownClass (name : String)
  /-- An instance could not be made. -/
  | object (e : ObjectError)
deriving DecidableEq, Repr

def CallError.name : CallError → String
  | nullHandle _ => "NullHandle"
  | shapeMismatch .. => "ShapeMismatch"
  | arityMismatch .. => "ArityMismatch"
  | classMismatch .. => "ClassMismatch"
  | unknownClass _ => "UnknownClass"
  | object _ => "Object"

def CallError.message : CallError → String
  | nullHandle what => s!"null {what} handle"
  | shapeMismatch method expected actual =>
    s!"'{method}' is a {actual.text} method, called as {expected.text}"
  | arityMismatch method expected actual =>
    s!"'{method}' takes {expected} argument(s), {actual} supplied"
  | classMismatch method cls => s!"'{method}' is not declared by {cls}"
  | unknownClass name => s!"unknown class '{name}'"
  | object e => e.message

/-- How a call ended: its result, or why it was refused, and the arguments as the call left them. -/
structure CallOutcome where
  result : Except CallError (Option Value)
  arguments : CallArguments

end NativeBridge
