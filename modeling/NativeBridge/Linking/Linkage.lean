import NativeBridge.Linking.Module

/-!
# Linkage

The linkage of a process is what resolutions change: the ledger of module names, the address each
native method is bound to, and the method each import slot holds. A name is claimed while its
resolution runs, and stays in the ledger for good once the resolution has succeeded, together with
what keeps the module mapped.
-/

namespace NativeBridge

/-- The state of a module name in the ledger. -/
inductive ModuleState where
  /-- A resolution of the module is running. -/
  | resolving
  /-- The module is resolved; what keeps it mapped is held here. -/
  | resolved (mapping : Option Nat)
deriving DecidableEq, Repr

/-- What resolutions have bound so far. -/
structure Linkage where
  ledger : String → Option ModuleState
  natives : NativeId → Option CodeAddress
  imports : ImportSlot → Option MethodId

namespace Linkage

def empty : Linkage := ⟨fun _ => none, fun _ => none, fun _ => none⟩

/-- Whether a module of this name has been resolved. -/
def isResolved (l : Linkage) (name : String) : Bool :=
  match l.ledger name with
  | some (.resolved _) => true
  | _ => false

/-- The linkage with the ledger's entry for `name` replaced. -/
def mark (l : Linkage) (name : String) (state : Option ModuleState) : Linkage :=
  { l with ledger := fun n => if n = name then state else l.ledger n }

def bindNative (l : Linkage) (id : NativeId) (address : CodeAddress) : Linkage :=
  { l with natives := fun n => if n = id then some address else l.natives n }

/-- The linkage with a method stored in an import slot. -/
def bindImport (l : Linkage) (slot : ImportSlot) (method : MethodId) : Linkage :=
  { l with imports := fun s => if s = slot then some method else l.imports s }

end Linkage

end NativeBridge
