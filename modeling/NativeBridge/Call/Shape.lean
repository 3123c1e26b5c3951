import NativeBridge.Handle

/-!
# Call shapes

A host method is called in one of three shapes, which differ in the handles the call context passes
before the arguments: the environment always, the receiver for instance methods, the class for
static methods, and both for non-virtual calls.
-/

namespace NativeBridge

/-- Which handles precede the arguments of a method. -/
inductive CallShape where
  | virtual | static | nonvirtual
deriving DecidableEq, Repr

/-- A handle that the call context passes. -/
inductive ContextHandle where
  | environment | receiver | cls
deriving DecidableEq, Repr

namespace CallShape

def text : CallShape → String
  | virtual => "virtual"
  | static => "static"
  | nonvirtual => "nonvirtual"

def all : List CallShape := [virtual, static, nonvirtual]

/-- The shape that is written like this in messages. -/
def ofText? (text : String) : Option CallShape := all.find? fun s => s.text = text

/-- How a shape is written in diagnostic output. -/
def diagnosticText : CallShape → String
  | virtual => "Virtual"
  | static => "Static"
  | nonvirtual => "NonVirtual"

/-- The handles passed before the arguments, in order. -/
def context : CallShape → List ContextHandle
  | virtual => [.environment, .receiver]
  | static => [.environment, .cls]
  | nonvirtual => [.environment, .receiver, .cls]

/-- The number of handles passed before the arguments. -/
def preludeLength (s : CallShape) : Nat := s.context.length

/-- The shape a foreign module declares by a numeric tag, if the tag is known. -/
def ofTag? (tag : UInt8) : Option CallShape :=
  if tag = 0 then some .virtual
  else if tag = 1 then some .static
  else if tag = 2 then some .nonvirtual
  else none

end CallShape

/-- The handles a call supplies. Each shape uses only those its prelude contains. -/
structure CallFrame where
  env : Handle
  receiver : Handle
  cls : Handle
deriving DecidableEq, Repr

/-- The handles an instance method receives. -/
structure VirtualPrelude where
  env : Handle
  receiver : Handle

/-- The handles a static method receives. -/
structure StaticPrelude where
  env : Handle
  cls : Handle

/-- The handles a non-virtual method receives. -/
structure NonvirtualPrelude where
  env : Handle
  receiver : Handle
  cls : Handle

/-- The handles that precede the arguments of a method of the given shape. A function written for
one shape cannot be registered under another, because the types differ. -/
def Prelude : CallShape → Type
  | .virtual => VirtualPrelude
  | .static => StaticPrelude
  | .nonvirtual => NonvirtualPrelude

namespace CallFrame

/-- The part of the frame that a method of the given shape receives. -/
def prelude (frame : CallFrame) : (shape : CallShape) → Prelude shape
  | .virtual => ({ env := frame.env, receiver := frame.receiver } : VirtualPrelude)
  | .static => ({ env := frame.env, cls := frame.cls } : StaticPrelude)
  | .nonvirtual =>
    ({ env := frame.env, receiver := frame.receiver, cls := frame.cls } : NonvirtualPrelude)

end CallFrame

namespace Prelude

def env : {shape : CallShape} → Prelude shape → Handle
  | .virtual, p => VirtualPrelude.env p
  | .static, p => StaticPrelude.env p
  | .nonvirtual, p => NonvirtualPrelude.env p

def receiver? : {shape : CallShape} → Prelude shape → Option Handle
  | .virtual, p => some (VirtualPrelude.receiver p)
  | .static, _ => none
  | .nonvirtual, p => some (NonvirtualPrelude.receiver p)

def class? : {shape : CallShape} → Prelude shape → Option Handle
  | .virtual, _ => none
  | .static, p => some (StaticPrelude.cls p)
  | .nonvirtual, p => some (NonvirtualPrelude.cls p)

end Prelude

end NativeBridge
