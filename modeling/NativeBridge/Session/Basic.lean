import NativeBridge.Class.Inventory
import NativeBridge.Environment.Basic
import NativeBridge.Linking.Descriptor

/-!
# Sessions

A session is the whole state of a host: classes being collected, the table they are sealed into,
classes that live outside the table, live instances with the names they were given, and what
resolutions have bound. Beside its own table it has the process-wide one. Every action leaves its
events in a journal, in order.
-/

namespace NativeBridge

/-- The state of a host. -/
structure Session where
  /-- The classes submitted to the process-wide table. -/
  inventory : List (Handle → Class)
  /-- The process-wide table. -/
  processTable : Except RegistryError ClassTable
  registry : ClassRegistry
  /-- The session's own table, once it is sealed or chosen. -/
  chosenTable : Option ClassTable
  /-- Classes outside the table, by the names they were given. -/
  detached : List (String × Class)
  /-- How many classes have been built. -/
  built : Nat
  /-- How many static fields have storage. -/
  statics : Nat
  memory : Memory
  /-- The live instances, by the names they were given. -/
  instances : List (String × Handle)
  linkage : Linkage
  /-- How many modules have been mapped. -/
  mapped : Nat
  /-- The events since the journal was last taken. -/
  journal : List Event

/-- Something done to a session. -/
abbrev Action (α : Type) := StateM Session α

namespace Session

/-- A session in a process with the given addresses and inventory, in which nothing has happened. -/
def start (space : AddressSpace) (inventory : List (Handle → Class)) : Session where
  inventory := inventory
  processTable := ClassTable.ofInventory? space inventory
  registry := .empty
  chosenTable := none
  detached := []
  built := inventory.length
  statics := 0
  memory := .empty space
  instances := []
  linkage := .empty
  mapped := 0
  journal := []

/-- The table in use: the chosen one, or that of the classes registered so far. -/
def table (s : Session) : ClassTable := s.chosenTable.getD s.registry.toTable

def processClasses (s : Session) : List Class :=
  match s.processTable with
  | .ok t => t.classes
  | .error _ => []

/-- The environment over the table in use. Classes that were registered, kept outside the table or
submitted to the process stay alive whichever table is in use. -/
def env (s : Session) : Environment :=
  .ofTable s.table (s.registry.classes ++ s.detached.map Prod.snd ++ s.processClasses)

/-- Every class the session knows, with its full name; that of a detached class follows the name it
was given. -/
def namedClasses (s : Session) : List (String × Class) :=
  s.registry.classes.map (fun c => (c.fullName, c)) ++
  s.detached.map (fun d => ("#" ++ d.1 ++ ":" ++ d.2.fullName, d.2)) ++
  s.processClasses.map (fun c => (c.fullName, c))

/-- The class at a handle, with its name in the session. -/
def namedClass? (s : Session) (h : Handle) : Option (String × Class) :=
  s.namedClasses.find? fun c => c.2.handle == h

def className (s : Session) (h : Handle) : String :=
  ((s.namedClass? h).map fun c => c.2.fullName).getD ""

def instanceName? (s : Session) (h : Handle) : Option String :=
  (s.instances.find? fun i => i.2 == h).map Prod.fst

/-- A handle in reports: the name of an instance or a class, or else the address. -/
def handleText (s : Session) (h : Handle) : String :=
  match s.instanceName? h, s.namedClass? h with
  | some name, _ => name
  | none, some c => "class:" ++ c.1
  | none, none => Hex.literal h.address.toNat

def methodText? (s : Session) (id : MethodId) : Option String :=
  (s.namedClass? id.owner).bind fun c =>
    c.2.methods[id.index]?.map fun m => s!"method:{c.1}.{m.name}{m.signature}#{id.index}"

def fieldText? (s : Session) (id : FieldId) : Option String :=
  (s.namedClass? id.owner).bind fun c =>
    c.2.fields[id.index]?.map fun f => s!"field:{c.1}.{f.name}:{f.signature}#{id.index}"

end Session

namespace Action

def report (events : List Event) : Action Unit :=
  modify fun s => { s with journal := s.journal ++ events }

def reportRecords (records : List LogRecord) : Action Unit := report (records.map .logged)

def reportViolations (violations : List Violation) : Action Unit :=
  report (violations.map .violation)

def takeJournal : Action (List Event) := do
  let events := (← get).journal
  modify fun s => { s with journal := [] }
  return events

def build (make : Handle → Class) : Action Class := do
  let s ← get
  let c := make (s.memory.space.classHandle s.built)
  modify fun s => { s with built := s.built + 1 }
  reportRecords c.declarationRecords
  return c

/-- Makes storage for a static field of 16 bytes, with a value in the first slot. -/
def placeStatic (v : Value) : Action UInt64 := do
  let s ← get
  let address := s.memory.space.staticAddress s.statics
  let storage := v.toSlot.bytes ++ Slot.zero.bytes
  modify fun s =>
    { s with statics := s.statics + 1, memory := s.memory.writeStatic address storage }
  return address

def register (c : Class) : Action (Option RegistryError) := do
  let registry := (← get).registry
  reportRecords (registry.registrationRecords c)
  modify fun s => { s with registry := registry.register c }
  return match registry.insert? c with
    | .ok _ => none
    | .error e => some e

/-- Seals the registered classes into the table in use. -/
def sealTable : Action Unit := do
  let registry := (← get).registry
  reportRecords registry.sealingRecords
  modify fun s => { s with chosenTable := some registry.toTable }

def useProcessTable : Action Unit :=
  modify fun s => { s with chosenTable := s.processTable.toOption }

/-- Collects the classes submitted to the process once more, and counts them. -/
def countInventory : Action Nat := do
  let s ← get
  reportRecords (collectionRecords s.memory.space s.inventory)
  return ((ClassTable.ofInventory? s.memory.space s.inventory).toOption.map ClassTable.size).getD 0

def detach (name : String) (c : Class) : Action Unit :=
  modify fun s => { s with detached := s.detached ++ [(name, c)] }

/-- The class with this full name, null if there is none. -/
def findClass (name : String) : Action Handle := do
  let env := (← get).env
  reportRecords (env.findClassRecords name)
  return env.findClass name

def lookup {α : Type} (find : Environment → Memory → α × List Violation) : Action α := do
  let s ← get
  let found := find s.env s.memory
  reportViolations found.2
  return found.1

/-- What a check of the environment and the memory yields. -/
def check {ε α : Type} (test : Environment → Memory → Except (Refusal ε) α) :
    Action (Except ε α) := do
  let s ← get
  match test s.env s.memory with
  | .ok a => return .ok a
  | .error r =>
    reportViolations r.reports
    return .error r.cause

/-- Replaces the memory if a change of it is not refused. -/
def change {ε : Type} (test : Environment → Memory → Except (Refusal ε) Memory) :
    Action (Except ε Unit) := do
  match ← check test with
  | .ok memory =>
    modify fun s => { s with memory }
    return .ok ()
  | .error e => return .error e

def perform {α : Type} (operation : Environment → Memory → Run α) : Action α := do
  let s ← get
  let r := operation s.env s.memory
  modify fun s => { s with memory := r.memory }
  report r.events
  return r.value

def name (name : String) (i : Instance) : Action Unit :=
  modify fun s =>
    let placed := s.memory.place i
    { s with memory := placed.2, instances := (name, placed.1) :: s.instances }

def link {α : Type} (resolution : Linkage → Resolved α) : Action α := do
  let r := resolution (← get).linkage
  modify fun s => { s with linkage := r.linkage }
  reportRecords r.records
  return r.value

/-- Numbers for the next modules that are mapped. -/
def mapModules (count : Nat) : Action Nat := do
  let first := (← get).mapped
  modify fun s => { s with mapped := first + count }
  return first

end Action

end NativeBridge
