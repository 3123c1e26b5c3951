import NativeBridge.Call.Request

/-!
# Host functions

A host function is a parameter list and a body. The body receives the prelude and the extracted
arguments and answers with a program: a tree of requests to the host, each with a continuation for
the answer, that ends in a result of the function's return type. A program decides what to ask from
the answers so far, and touches nothing except through its requests.
-/

namespace NativeBridge

/-- What a host function returns: a value of a type, or nothing. Handles of every kind are returned
as objects. -/
abbrev ReturnType := Option ValueType

/-- What a host function with the given return type does after it is entered. -/
inductive HostProgram (returns : ReturnType) where
  /-- Ends with a result of the return type; a function that returns nothing ends with none. -/
  | finish (result : Option Value) (typed : result.map Value.type = returns)
  /-- Reports a safety violation. -/
  | report (violation : Violation) (next : HostProgram returns)
  /-- Asks for the class of an instance, null for the null handle. -/
  | classOf (object : Handle) (next : Handle → HostProgram returns)
  /-- Looks up an instance field of a class. -/
  | fieldId (cls : Handle) (name signature : String)
      (next : Option FieldId → HostProgram returns)
  /-- Looks up a static method of a class. -/
  | staticMethodId (cls : Handle) (name signature : String)
      (next : Option MethodId → HostProgram returns)
  /-- Reads a field as a value of the given type. -/
  | readField (object : Handle) (field : Option FieldId) (type : ValueType)
      (next : Except AccessError Value → HostProgram returns)
  /-- Writes a field. -/
  | writeField (object : Handle) (field : Option FieldId) (value : Value)
      (next : Except AccessError Unit → HostProgram returns)
  /-- Reads the bytes of a string instance; nothing for the null handle or another instance. -/
  | textOf (object : Handle) (next : Option (List UInt8) → HostProgram returns)
  /-- Calls a method. -/
  | call (request : MethodCall) (next : CallOutcome → HostProgram returns)

def HostProgram.finishWith (v : Value) : HostProgram (some v.type) := .finish (some v) rfl

/-- A function of the host that can be registered as a method of the given shape. -/
structure HostFunction (shape : CallShape) where
  /-- The name it is traced under. -/
  name : String
  /-- The parameters after the prelude. -/
  parameters : List ParamType
  returns : ReturnType
  body : Prelude shape → List Value → HostProgram returns

/-- The number of parameters after the prelude. -/
def HostFunction.argCount {shape : CallShape} (f : HostFunction shape) : Nat :=
  f.parameters.length

/-- The number of parameters, prelude included. -/
def HostFunction.arity {shape : CallShape} (f : HostFunction shape) : Nat :=
  shape.preludeLength + f.argCount

/-- The record of the function being entered with the given prelude and arguments. -/
def HostFunction.entry {shape : CallShape} (f : HostFunction shape) (prelude : Prelude shape)
    (arguments : List Value) : Entry :=
  ⟨f.name, prelude.env, prelude.receiver?, prelude.class?, f.parameters.zip arguments⟩

end NativeBridge
