import NativeBridge.Linking.Location

/-!
# Resolution

Resolving a module connects it with a class table in both directions, or fails and leaves everything
as it was. The module's name is claimed in the ledger, its members are located, and only when
nothing is missing are native methods and import slots written. A failure releases the name. While
symbols are looked up the module may start resolutions of other modules; they see the claimed name
and otherwise run as they would on their own.
-/

namespace NativeBridge

/-- Why a module is not resolved. -/
inductive ResolveError where
  /-- A module of this name is resolved, or its resolution is running. -/
  | alreadyResolved (name : String)
  /-- Members that could not be located; nothing was bound. -/
  | unresolved (name : String) (missing : List Miss)
  /-- There is no class table to resolve against. -/
  | registry (e : RegistryError)
deriving DecidableEq, Repr

def ResolveError.name : ResolveError → String
  | alreadyResolved _ => "AlreadyResolved"
  | unresolved .. => "Unresolved"
  | registry _ => "Registry"

def ResolveError.message : ResolveError → String
  | alreadyResolved name => s!"module '{name}' is already resolved"
  | unresolved name missing =>
    s!"module '{name}' has {missing.length} unresolved member(s): " ++
      ", ".intercalate (missing.map Miss.text)
  | registry e => s!"class table unavailable: {e.message}"

/-- What a successful resolution bound. -/
structure ResolveReport where
  name : String
  nativesBound : Nat
  importsBound : Nat
deriving DecidableEq, Repr

/-- One attempt to resolve a module: how it ended, the symbols it looked up, and the attempts that
were made during its lookups. -/
inductive Attempt where
  | mk (interface : ModuleInterface) (result : Except ResolveError ResolveReport)
      (lookups : List String) (nested : List Attempt)

namespace Attempt

def interface : Attempt → ModuleInterface
  | mk i _ _ _ => i

def result : Attempt → Except ResolveError ResolveReport
  | mk _ r _ _ => r

def lookups : Attempt → List String
  | mk _ _ l _ => l

def nested : Attempt → List Attempt
  | mk _ _ _ n => n

end Attempt

/-- What a resolution leaves behind. -/
structure Resolved (α : Type) where
  value : α
  linkage : Linkage
  records : List LogRecord

namespace Linkage

/-- Binds the native methods of a plan, in order. -/
def bindNatives (l : Linkage) (natives : List LocatedNative) : Linkage :=
  natives.foldl (fun l n => l.bindNative n.id n.address) l

/-- Stores the imports of a plan in the module's slots, in order. -/
def bindImports (l : Linkage) (slot : Nat → Option ImportSlot) (imports : List LocatedImport) :
    Linkage :=
  imports.foldl (fun l i =>
    match slot i.index with
    | some s => l.bindImport s i.method
    | none => l) l

def carryOut (l : Linkage) (i : ModuleInterface) (plan : BindingPlan) : Linkage :=
  (l.bindNatives plan.natives).bindImports i.slot plan.imports

end Linkage

namespace BindingPlan

/-- The report of carrying out the plan for a module. -/
def report (plan : BindingPlan) (name : String) : ResolveReport :=
  ⟨name, plan.natives.length, plan.imports.length⟩

/-- The records written while the plan is carried out. -/
def records (plan : BindingPlan) (name : String) : List LogRecord :=
  plan.natives.map (fun n => ⟨.debug, "resolve",
    s!"bound native {n.method.name}{n.method.signature} -> " ++ Hex.literal n.address.toNat⟩) ++
  [⟨.info, "resolve", s!"resolved module '{name}': {plan.natives.length} native(s), " ++
    s!"{plan.imports.length} import(s)"⟩]

end BindingPlan

/-- The records written for members that are missing. -/
def missingRecords (name : String) (missing : List Miss) : List LogRecord :=
  missing.map fun miss => ⟨.error, "resolve", s!"module '{name}': unresolved {miss.text}"⟩

/-- How the resolutions that a lookup starts are run: the number of the lookup and the linkage at
that moment give the attempts made. -/
abbrev LookupHook := Nat → Linkage → Resolved (List Attempt)

/-- Runs what the lookups with the given numbers start, in order. -/
def LookupHook.runAll (hook : LookupHook) : List Nat → Linkage → Resolved (List Attempt)
  | [], l => ⟨[], l, []⟩
  | k :: ks, l =>
    let first := hook k l
    let others := hook.runAll ks first.linkage
    ⟨first.value ++ others.value, others.linkage, first.records ++ others.records⟩

/-- Ends a resolution whose name is claimed: carries out the plan or releases the name. -/
def finishResolution (t : ClassTable) (i : ModuleInterface) (l : Linkage) :
    Resolved (Except ResolveError ResolveReport) :=
  let plan := i.plan t
  match i.misses t with
  | [] =>
    ⟨.ok (plan.report i.name),
      (l.carryOut i plan).mark i.name (some (.resolved i.mapping)), plan.records i.name⟩
  | missing =>
    ⟨.error (.unresolved i.name missing), l.mark i.name none, missingRecords i.name missing⟩

/-- Resolves a module whose lookups start what the hook says. -/
def resolveWith (t : ClassTable) (i : ModuleInterface) (hook : LookupHook) (l : Linkage) :
    Resolved Attempt :=
  match l.ledger i.name with
  | some _ =>
    ⟨.mk i (.error (.alreadyResolved i.name)) [] [], l,
      [⟨.error, "resolve", s!"module '{i.name}' resolved twice"⟩]⟩
  | none =>
    let lookups := i.lookups t
    let during := hook.runAll (List.range lookups.length) (l.mark i.name (some .resolving))
    let ended := finishResolution t i during.linkage
    ⟨.mk i ended.value lookups during.value, ended.linkage, during.records ++ ended.records⟩

mutual

/-- Resolves a module against a table. -/
def ForeignModule.resolve (t : ClassTable) : ForeignModule → Linkage → Resolved Attempt
  | .mk interface reentry, l => resolveWith t interface (reentry.hook t) l

def Reentry.hook (t : ClassTable) : Reentry → Nat → Linkage → Resolved (List Attempt)
  | .none, _, l => ⟨[], l, []⟩
  | .also lookup module rest, k, l =>
    if lookup = k then
      let first := module.resolve t l
      let others := rest.hook t k first.linkage
      ⟨first.value :: others.value, others.linkage, first.records ++ others.records⟩
    else rest.hook t k l

end

/-- Resolves a module against a table that may be unavailable. -/
def ForeignModule.resolveAgainst (t : Except RegistryError ClassTable) (module : ForeignModule)
    (l : Linkage) : Resolved Attempt :=
  match t with
  | .ok table => module.resolve table l
  | .error e => ⟨.mk module.interface (.error (.registry e)) [] [], l, []⟩

end NativeBridge
