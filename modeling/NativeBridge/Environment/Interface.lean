import NativeBridge.Environment.Call
import NativeBridge.Environment.Container

/-!
# The native interface table

Foreign modules reach the environment through a table of functions over raw pointers. Each function
first checks that the environment pointer is not null, reads as many argument slots as the method
has parameters, and answers with a status. A result is written to the result slot only on success,
and then all eight bytes of it, zero for a method without a result.
-/

namespace NativeBridge.Interface

def statusOk : Int32 := 0

def statusError : Int32 := -1

/-- The report of a null environment pointer. -/
def nullEnvironment : Violation := .nullHandle "native interface" "null environment"

/-- The argument slots of a method: as many as it has parameters, and none from a null pointer. -/
def argumentSlots (env : Environment) (method : Option MethodId) (arguments : Option (List Slot)) :
    List Slot :=
  let count := ((method.bind env.methodAt?).map ManagedMethod.argCount).getD 0
  (arguments.getD []).take count

/-- What a function of the table answers: the status and the result slot, absent for a null result
pointer. -/
structure Reply where
  status : Int32
  resultSlot : Option Slot
deriving DecidableEq, Repr

def slotOfResult : Option Value → Slot
  | some v => v.toSlot
  | none => .zero

/-- The reply to a finished call, given the result slot as it was before. -/
def reply (outcome : CallOutcome) (resultSlot : Option Slot) : Reply :=
  match outcome.result with
  | .ok v => ⟨statusOk, resultSlot.map fun _ => slotOfResult v⟩
  | .error _ => ⟨statusError, resultSlot⟩

def failureRecords (outcome : CallOutcome) : List LogRecord :=
  match outcome.result with
  | .ok _ => []
  | .error e => [⟨.error, "env", s!"native call failed: {e.message}"⟩]

def request (env : Environment) (target : CallTarget) (method : Option MethodId)
    (arguments : Option (List Slot)) : MethodCall :=
  ⟨target, method, .packed (argumentSlots env method arguments)⟩

/-- Calls a method with arguments from a pointer to slots and the result into a result slot. -/
def callMethod (env : Option Environment) (target : CallTarget) (method : Option MethodId)
    (arguments : Option (List Slot)) (resultSlot : Option Slot) (m : Memory) : Run Reply :=
  match env with
  | none => ⟨⟨statusError, resultSlot⟩, m, [.violation nullEnvironment]⟩
  | some env =>
    let r := env.call (request env target method arguments) m
    ⟨reply r.value resultSlot, r.memory, r.events ++ (failureRecords r.value).map .logged⟩

def callVirtual (env : Option Environment) (receiver : Handle) (method : Option MethodId)
    (arguments : Option (List Slot)) (resultSlot : Option Slot) : Memory → Run Reply :=
  callMethod env (.virtual receiver) method arguments resultSlot

def callStatic (env : Option Environment) (cls : Handle) (method : Option MethodId)
    (arguments : Option (List Slot)) (resultSlot : Option Slot) : Memory → Run Reply :=
  callMethod env (.static cls) method arguments resultSlot

/-- The class with the name spelled by raw bytes; null for a null pointer, for bytes that are not
UTF-8 and for a name that is not in the table. -/
def findClass (env : Option Environment) (name : Option (List UInt8)) :
    Handle × List Event :=
  match env with
  | none => (.null, [.violation nullEnvironment])
  | some env =>
    match name.bind Utf8.decode? with
    | none => (.null, [])
    | some text =>
      let name := String.ofList text
      (env.findClass name, (env.findClassRecords name).map .logged)

/-- The number of elements of an array; zero for anything else. -/
def arrayLength (env : Option Environment) (m : Memory) (array : Handle) : Int32 × List Event :=
  match env with
  | none => (0, [.violation nullEnvironment])
  | some env =>
    let found := env.getArrayLength m array
    (found.1, found.2.map .violation)

end NativeBridge.Interface
