import NativeBridge.Class.Inventory
import NativeBridge.CommandLine.Arguments
import NativeBridge.Greeter.Basic
import NativeBridge.Linking.Inspection
import NativeBridge.Text.Occurrence

/-!
# The program

The program runs one command against the class table of its process: the builtin classes and the
greeter. A command shows lines, or fails with a message, and leaves log records on the way; the log
filter decides which of the records are shown. Lines go to standard output, records and the message
of a failure to standard error.
-/

namespace NativeBridge.CommandLine

def programName : String := "jnishim"

/-- What `--version` shows. -/
def versionLine : String := programName ++ " 0.1.0"

/-- The targets of the host's log records begin with this. -/
def hostTarget : String := "jnishim_runtime::"

/-- The target that filters see of a record: the program's own name, or a part of the host. -/
def targetOf (record : LogRecord) : String :=
  if record.origin = programName then programName else hostTarget ++ record.origin

def recordLine (record : LogRecord) : String :=
  "[" ++ Text.column 5 record.level.text ++ " " ++ record.origin ++ "] " ++ record.text

/-- The record of a violation, the given number of which were reported before. -/
def violationRecord (before : Nat) (v : Violation) : LogRecord :=
  ⟨.error, "safety", "[SAFETY VIOLATION #" ++ Text.zeroPadded 4 (before + 1) ++ "] " ++
    v.text fun h => Hex.literal h.address.toNat⟩

/-- The records that events leave, when the given number of violations were reported before. -/
def recordsOfEvents (before : Nat) : List Event → List LogRecord
  | [] => []
  | .violation v :: rest => violationRecord before v :: recordsOfEvents (before + 1) rest
  | .logged record :: rest => record :: recordsOfEvents before rest
  | .read _ :: rest => recordsOfEvents before rest
  | .entered _ :: rest => recordsOfEvents before rest

/-- What a command leaves behind. -/
structure Report where
  records : List LogRecord
  result : Except String (List String)

/-- The report with records that come before all others. -/
def Report.after (records : List LogRecord) (r : Report) : Report :=
  { r with records := records ++ r.records }

def inventory : List (Handle → Class) :=
  inventoryOfParts [Builtin.all, [Greeter.greeterClass Greeter.demoModule true none]]

/-- Runs `use` on the class table of the process, which is made at that moment. -/
def withTable (use : ClassTable → Report) : Report :=
  (match ClassTable.ofInventory? .standard inventory with
    | .ok table => use table
    | .error e => ⟨[], .error e.message⟩).after (inventoryRecords .standard inventory)

/-- Runs `use` on the library at a path. -/
def withLibrary (disk : LibraryDisk) (path : String) (use : Library → Report) : Report :=
  match Library.open? disk path with
  | .ok library => (use library).after library.openingRecords
  | .error e => ⟨[], .error e.message⟩

def memberLines (l : Linkage) (c : Class) : List String :=
  c.methods.map (fun m =>
    "    " ++ m.shape.text ++ " " ++ m.name ++ m.signature ++ s!" [{m.argCount} args]") ++
  c.declaredNatives.map (fun d =>
    let state := if (l.natives d.1).isSome then "bound" else "unbound"
    "    " ++ Text.column 10 "native" ++ " " ++ d.2.name ++ d.2.signature ++ " from " ++
      d.2.moduleName ++ " (" ++ state ++ ")") ++
  c.fields.map (fun f =>
    "    " ++ Text.column 10 (if f.isStatic then "static" else "field") ++ " " ++ f.name ++ " " ++
      f.signature ++ " @ " ++ Hex.literal f.location.toNat)

def classLines (verbose : Bool) (l : Linkage) (c : Class) : List String :=
  s!"{c.fullName} ({c.instanceSize.toNat} bytes)" :: if verbose then memberLines l c else []

/-- Lists the classes whose name contains the filter. -/
def listClasses (verbose : Bool) (filter : Option String) : Report :=
  withTable fun table =>
    let shown := table.classes.filter fun c => (filter.map (Text.contains c.fullName)).getD true
    ⟨[], .ok (shown.flatMap (classLines verbose .empty))⟩

def inspectModule (disk : LibraryDisk) (path : String) : Report :=
  (withLibrary disk path fun library =>
    withTable fun table => ⟨[], .ok (library.interface.inspect table).lines⟩).after
      [⟨.debug, programName, s!"inspecting {path}"⟩]

/-- Resolves a library against a table and goes on with what that binds. -/
def withResolved (table : ClassTable) (library : Library)
    (use : ResolveReport → Linkage → Report) : Report :=
  let resolved := library.toModule.resolve table .empty
  (match resolved.value.result with
    | .ok report => use report resolved.linkage
    | .error e => ⟨[], .error e.message⟩).after resolved.records

def resolveModule (disk : LibraryDisk) (path : String) : Report :=
  withLibrary disk path fun library =>
    withTable fun table =>
      withResolved table library fun report _ =>
        ⟨[], .ok [s!"Resolved {report.name}: {report.nativesBound} native(s), " ++
          s!"{report.importsBound} import(s)"]⟩

/-- Calls every native method of the greeter once. -/
def exerciseGreeter (env : Environment) (l : Linkage) (owner : Nat) : Report :=
  match env.table.find? "demo/Greeter" with
  | none => ⟨[], .error "demo/Greeter is not registered"⟩
  | some greeter =>
    let shouted := Greeter.shout env l owner greeter.handle 20 (.empty .standard)
    match env.newString "hello, world".toList with
    | .error e => ⟨recordsOfEvents 0 shouted.events, .error e.message⟩
    | .ok text =>
      let placed := shouted.memory.place (.string text)
      let measured := Greeter.measure env l owner placed.1 placed.2
      ⟨recordsOfEvents 0 (shouted.events ++ measured.events), .ok [
        s!"add(2, 40) = {(Greeter.add 2 40).toInt}",
        s!"shout(20) = {shouted.value.toInt}",
        "measure(\"hello, world\") = " ++ toString measured.value.toInt]⟩

/-- Resolves the greeter's module at a path and calls its native methods. -/
def demonstrate (disk : LibraryDisk) (path : String) : Report :=
  withLibrary disk path fun library =>
    if library.name ≠ Greeter.demoModule then
      ⟨[], .error s!"expected a module named {Greeter.demoModule}, got {library.name}"⟩
    else
      withTable fun table =>
        withResolved table library fun _ l =>
          exerciseGreeter (.ofTable table []) l library.file.mapping

def Command.report (disk : LibraryDisk) : Command → Report
  | .classes verbose filter => listClasses verbose filter
  | .inspect path => inspectModule disk path
  | .resolve path => resolveModule disk path
  | .demo path => demonstrate disk path
  | .mangle className method signature =>
    ⟨[], .ok [Symbol.short className method, Symbol.long className method signature]⟩

/-- What a run of the program leaves behind. -/
structure Outcome where
  exitCode : UInt32
  output : String
  errors : String
deriving DecidableEq, Repr

def linesText (lines : List String) : String := String.join (lines.map (· ++ "\n"))

def shownLines (filter : LogFilter) (records : List LogRecord) : List String :=
  (records.filter fun r => filter.admits (targetOf r) r.level r.text).map recordLine

def usageLines : List String := [
  "Usage: " ++ programName ++ " [--log-level LEVEL] COMMAND",
  "Commands:",
  "  classes [-v] [--filter TEXT]      list registered classes",
  "  inspect MODULE                    show what resolving a module needs",
  "  resolve MODULE                    bind a module against the class table",
  "  demo MODULE                       resolve the greeter's module and call it",
  "  mangle CLASS METHOD SIGNATURE     show the symbols of a native method"]

/-- The log specification that holds when none is given. -/
def defaultLogSpec : String := "warn"

/-- The filter of an invocation, and the problems of the log specification if it is used. -/
def filterOf (logSpec : Option String) (invocation : Invocation) :
    LogFilter × List LogSpecProblem :=
  match invocation.threshold with
  | some threshold => (.uniform threshold, [])
  | none => LogFilter.ofSpec (logSpec.getD defaultLogSpec)

def Invocation.outcome (disk : LibraryDisk) (logSpec : Option String) (i : Invocation) :
    Outcome :=
  let filter := filterOf logSpec i
  let report := i.command.report disk
  let errors := filter.2.map LogSpecProblem.message ++ shownLines filter.1 report.records
  match report.result with
  | .ok lines => ⟨0, linesText lines, linesText errors⟩
  | .error message => ⟨1, "", linesText (errors ++ ["Error: " ++ message])⟩

/-- Runs the program on its arguments; `logSpec` is the log specification of the surroundings. -/
def run (disk : LibraryDisk) (logSpec : Option String) (arguments : List String) : Outcome :=
  match parse arguments with
  | .ok invocation => invocation.outcome disk logSpec
  | .error .version => ⟨0, linesText [versionLine], ""⟩
  | .error .help => ⟨0, linesText usageLines, ""⟩
  | .error .misuse => ⟨2, "", linesText usageLines⟩

end NativeBridge.CommandLine
