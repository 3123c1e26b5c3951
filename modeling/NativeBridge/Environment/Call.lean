import NativeBridge.Environment.Field

/-!
# Calling methods

A call is checked before anything runs: the method must exist and have the shape of the target, the
receiver must not be null, the class must be the one that declares the method, and packed arguments
must be as many as the parameters. The first condition that fails decides the error. A call that
passes is entered exactly once, and what the host function then asks for is answered from the
environment; calls it makes itself go through the same checks, up to the depth of the environment.
-/

namespace NativeBridge

namespace Environment

/-- The method of a call, refused when it is missing or of another shape than the target. -/
def checkedMethod (env : Environment) (method : Option MethodId) (expected : CallShape) :
    Except (Refusal CallError) (MethodId × ManagedMethod) :=
  match method.bind fun id => (env.methodAt? id).map fun m => (id, m) with
  | none => .error ⟨.nullHandle "method", []⟩
  | some (id, m) =>
    if m.shape = expected then .ok (id, m)
    else .error ⟨.shapeMismatch m.name expected m.shape, []⟩

/-- Refuses a null receiver where the target has one. -/
def checkReceiver (target : CallTarget) : Except (Refusal CallError) Unit :=
  match target.receiver? with
  | some receiver =>
    if receiver.isNull then .error ⟨.nullHandle "receiver", [.nullHandle "call" "null receiver"]⟩
    else .ok ()
  | none => .ok ()

/-- Refuses a class that does not declare the method, where the target has a class. -/
def checkDeclaredBy (env : Environment) (id : MethodId) (m : ManagedMethod)
    (target : CallTarget) : Except (Refusal CallError) Unit :=
  match target.class? with
  | none => .ok ()
  | some cls =>
    match env.classAt? cls with
    | none => .error ⟨.nullHandle "class", []⟩
    | some c =>
      if id.owner = c.handle then .ok () else .error ⟨.classMismatch m.name c.fullName, []⟩

/-- Refuses packed arguments that are not one per parameter. -/
def checkArity (m : ManagedMethod) : CallArguments → Except (Refusal CallError) Unit
  | .packed slots =>
    if m.argCount = slots.length then .ok ()
    else .error ⟨.arityMismatch m.name m.argCount slots.length, []⟩
  | .variadic _ => .ok ()

/-- The method a call may enter, or the first reason to refuse the call. -/
def checkCall (env : Environment) (c : MethodCall) :
    Except (Refusal CallError) ManagedMethod :=
  match env.checkedMethod c.method c.target.shape with
  | .error r => .error r
  | .ok (id, m) =>
    match checkReceiver c.target with
    | .error r => .error r
    | .ok () =>
      match env.checkDeclaredBy id m c.target with
      | .error r => .error r
      | .ok () =>
        match checkArity m c.arguments with
        | .error r => .error r
        | .ok () => .ok m

end Environment

namespace HostProgram

/-- Runs a program: each request is answered from the environment and the memory, and `nested`
answers the calls. -/
def run {returns : ReturnType} (env : Environment) (nested : NestedCall) :
    HostProgram returns → Memory → Run (Option Value)
  | .finish result _, m => ⟨result, m, []⟩
  | .report v next, m => (next.run env nested m).after [.violation v]
  | .classOf object next, m =>
    let found := env.getObjectClass m object
    ((next found.1).run env nested m).after (found.2.map .violation)
  | .fieldId cls name signature next, m =>
    let found := env.getFieldId cls name signature
    ((next found.1).run env nested m).after (found.2.map .violation)
  | .staticMethodId cls name signature next, m =>
    let found := env.getStaticMethodId cls name signature
    ((next found.1).run env nested m).after (found.2.map .violation)
  | .readField object field type next, m =>
    match env.getField m object field type.width with
    | .ok bytes => (next (.ok (type.ofBytes bytes))).run env nested m
    | .error r => ((next (.error r.cause)).run env nested m).after (r.reports.map .violation)
  | .writeField object field value next, m =>
    match env.setField m object field value.bytes with
    | .ok m' => (next (.ok ())).run env nested m'
    | .error r => ((next (.error r.cause)).run env nested m).after (r.reports.map .violation)
  | .textOf object next, m =>
    (next ((env.stringAt? m object).map StringObject.bytes)).run env nested m
  | .call request next, m =>
    let answer := nested request m
    ((next answer.value).run env nested answer.memory).after answer.events

end HostProgram

namespace ManagedMethod

/-- Enters the host function with extracted arguments. -/
def enter (env : Environment) (nested : NestedCall) (method : ManagedMethod) (frame : CallFrame)
    (arguments : List Value) (m : Memory) : Run (Option Value) :=
  let prelude := frame.prelude method.shape
  ((method.function.body prelude arguments).run env nested m).after
    [.entered (method.function.entry prelude arguments)]

/-- Calls the host function with packed arguments, of which there is at least one slot for each
parameter. -/
def invokePacked (env : Environment) (nested : NestedCall) (method : ManagedMethod)
    (frame : CallFrame) (slots : List Slot) (m : Memory) : Run (Option Value) :=
  let arguments := extractPacked method.function.parameters slots
  (method.enter env nested frame arguments m).after
    (packedExtractionEvents method.function.parameters arguments)

/-- Calls the host function with a variable argument list, and returns the list as it was left. -/
def invokeVariadic (env : Environment) (nested : NestedCall) (method : ManagedMethod)
    (frame : CallFrame) (arguments : VarArgs) (m : Memory) : Run (Option Value × VarArgs) :=
  let extraction := extractVariadic method.function.parameters arguments
  ((method.enter env nested frame extraction.arguments m).map fun v =>
    (v, extraction.rest)).after extraction.events

end ManagedMethod

namespace Environment

def invoke (env : Environment) (nested : NestedCall) (method : ManagedMethod) (frame : CallFrame)
    (arguments : CallArguments) (m : Memory) : Run CallOutcome :=
  match arguments with
  | .packed slots =>
    (method.invokePacked env nested frame slots m).map fun v => ⟨.ok v, .packed slots⟩
  | .variadic list =>
    (method.invokeVariadic env nested frame list m).map fun v => ⟨.ok v.1, .variadic v.2⟩

/-- Makes a call, with `nested` answering the calls the host function makes. -/
def callWith (env : Environment) (nested : NestedCall) (c : MethodCall) (m : Memory) :
    Run CallOutcome :=
  match env.checkCall c with
  | .error r => ⟨⟨.error r.cause, c.arguments⟩, m, r.reports.map .violation⟩
  | .ok method => env.invoke nested method (c.target.frame env.handle) c.arguments m

/-- Makes a call, with further calls nested in it so that there are as many levels as given. -/
def callWithin (env : Environment) : (levels : Nat) → NestedCall
  | 0 => env.beyond
  | levels + 1 => env.callWith (env.callWithin levels)

/-- How calls made by a host function entered from outside are answered. -/
def nestedCall (env : Environment) : NestedCall := env.callWithin env.depth

/-- Makes a call from outside. -/
def call (env : Environment) (c : MethodCall) (m : Memory) : Run CallOutcome :=
  env.callWith env.nestedCall c m

/-- Calls a virtual method with packed arguments. -/
def callVirtualPacked (env : Environment) (receiver : Handle) (method : Option MethodId)
    (slots : List Slot) : Memory → Run CallOutcome :=
  env.call ⟨.virtual receiver, method, .packed slots⟩

/-- Calls a virtual method with a variable argument list. -/
def callVirtualVariadic (env : Environment) (receiver : Handle) (method : Option MethodId)
    (list : VarArgs) : Memory → Run CallOutcome :=
  env.call ⟨.virtual receiver, method, .variadic list⟩

/-- Calls a static method with packed arguments. -/
def callStaticPacked (env : Environment) (cls : Handle) (method : Option MethodId)
    (slots : List Slot) : Memory → Run CallOutcome :=
  env.call ⟨.static cls, method, .packed slots⟩

/-- Calls a static method with a variable argument list. -/
def callStaticVariadic (env : Environment) (cls : Handle) (method : Option MethodId)
    (list : VarArgs) : Memory → Run CallOutcome :=
  env.call ⟨.static cls, method, .variadic list⟩

/-- Calls the implementation a class declares, whatever the receiver's own class, with packed
arguments. -/
def callNonvirtualPacked (env : Environment) (receiver cls : Handle) (method : Option MethodId)
    (slots : List Slot) : Memory → Run CallOutcome :=
  env.call ⟨.nonvirtual receiver cls, method, .packed slots⟩

/-- Calls the implementation a class declares with a variable argument list. -/
def callNonvirtualVariadic (env : Environment) (receiver cls : Handle)
    (method : Option MethodId) (list : VarArgs) : Memory → Run CallOutcome :=
  env.call ⟨.nonvirtual receiver cls, method, .variadic list⟩

end Environment

end NativeBridge
