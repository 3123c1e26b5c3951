import NativeBridge.Class.Registry

/-!
# Foreign modules

A foreign module has a name, exports symbols, and asks for host methods. Each request names a method
by class, name and signature, declares the shape it will be called in, and has an index through
which the module finds the slot that receives the method. A module may itself start resolutions of
other modules while one of its symbols is being looked up.
-/

namespace NativeBridge

/-- The address of a native implementation. -/
abbrev CodeAddress := UInt64

/-- A slot of a foreign module that receives a method identifier. -/
structure ImportSlot where
  /-- Which loaded module the slot belongs to. -/
  owner : Nat
  /-- The position of the slot in that module. -/
  index : Nat
deriving DecidableEq, Repr

/-- One host method a foreign module asks for. -/
structure ImportRequest where
  /-- What the module is handed back to find the slot. -/
  index : Nat
  classpath : String
  classname : String
  method : String
  signature : String
  /-- The declared shape, absent when the module declared an unknown one. -/
  shape : Option CallShape
  /-- The first of the request's texts that was not valid UTF-8. -/
  malformed : Option String
deriving DecidableEq, Repr

def ImportRequest.key (r : ImportRequest) : MemberKey :=
  ⟨r.classpath, r.classname, r.method, r.signature⟩

/-- A foreign module as the resolver sees it. -/
structure ModuleInterface where
  /-- The name native methods refer to the module by. -/
  name : String
  /-- The address of an exported symbol. -/
  symbol : String → Option CodeAddress
  imports : List ImportRequest
  /-- The slot of an import index, for the indices that have one. -/
  slot : Nat → Option ImportSlot
  /-- What keeps the module mapped, if the resolver is to hold it. -/
  mapping : Option Nat

mutual

/-- A foreign module together with the resolutions it starts during symbol lookups. -/
inductive ForeignModule where
  | mk (interface : ModuleInterface) (reentry : Reentry)

/-- Resolutions started during symbol lookups, each with the number of the lookup that starts it,
counted from zero. -/
inductive Reentry where
  | none
  | also (lookup : Nat) (module : ForeignModule) (rest : Reentry)

end

def ForeignModule.interface : ForeignModule → ModuleInterface
  | .mk interface _ => interface

end NativeBridge
