import NativeBridge.Linking.Descriptor

/-!
# Shared libraries

A foreign module is usually a shared library. Its name is the last component of its path, which is
what native methods refer to it by, and a library that imports host methods exports its import table
under a fixed symbol. Opening a library needs a usable name first and the file second.
-/

namespace NativeBridge

/-- The symbol under which a library exports its import table. -/
def importTableSymbol : String := "jnishim_module_imports"

/-- The contents of a shared library. -/
structure LibraryFile where
  symbol : String → Option CodeAddress
  /-- The import table, if the library exports one. -/
  importTable : Option (List ImportDescriptor)
  /-- What keeps the library mapped. -/
  mapping : Nat

/-- The libraries that can be opened: the contents for a path, or the reason it cannot be opened. -/
abbrev LibraryDisk := String → Except String LibraryFile

/-- Why a library is not opened. -/
inductive LoadError where
  | cannotOpen (path reason : String)
  /-- The path has no last component to take the name from. -/
  | invalidName (path : String)
deriving DecidableEq, Repr

def LoadError.name : LoadError → String
  | cannotOpen .. => "Open"
  | invalidName _ => "InvalidName"

def LoadError.message : LoadError → String
  | cannotOpen path reason => s!"failed to load {path}: {reason}"
  | invalidName path => s!"cannot derive a module name from {path}"

/-- The components of a path between slashes, without empty ones. -/
def pathComponents (path : List Char) : List (List Char) :=
  (path.splitOnP (· = '/')).filter fun c => !c.isEmpty

/-- The last component of a path. A final dot counts as the directory it stands in, and a path that
ends in two dots, or has no component, has no last component. -/
def fileName? (path : String) : Option String :=
  match (pathComponents path.toList).reverse.dropWhile (· = ['.']) with
  | [] => none
  | last :: _ => if last = ['.', '.'] then none else some (String.ofList last)

/-- An open library. -/
structure Library where
  name : String
  path : String
  file : LibraryFile

namespace Library

/-- The import table, empty if the library exports none. -/
def importTable (lib : Library) : List ImportDescriptor := lib.file.importTable.getD []

def open? (disk : LibraryDisk) (path : String) : Except LoadError Library :=
  match fileName? path with
  | none => .error (.invalidName path)
  | some name =>
    match disk path with
    | .error reason => .error (.cannotOpen path reason)
    | .ok file => .ok ⟨name, path, file⟩

/-- The records written when a library has been opened. -/
def openingRecords (lib : Library) : List LogRecord :=
  (match lib.file.importTable with
    | some _ => []
    | none => [⟨.debug, "loader", s!"{lib.name} exports no import table"⟩]) ++
  [⟨.info, "loader", s!"loaded foreign module '{lib.name}' from {lib.path} " ++
    s!"({lib.importTable.length} import(s))"⟩]

/-- A symbol name as the loader looks it up: one NUL that ends the name is not part of it. -/
def lookupName (name : String) : String :=
  if name.toList.getLast? = some '\x00' then String.ofList name.toList.dropLast else name

def interface (lib : Library) : ModuleInterface where
  name := lib.name
  symbol name := lib.file.symbol (lookupName name)
  imports := importRequests lib.importTable
  slot index := lib.importTable[index]?.map ImportDescriptor.slot
  mapping := some lib.file.mapping

/-- A library as a module that starts no resolutions of its own. -/
def toModule (lib : Library) : ForeignModule := .mk lib.interface .none

end Library

end NativeBridge
