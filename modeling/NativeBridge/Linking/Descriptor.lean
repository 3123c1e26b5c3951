import NativeBridge.Linking.Resolution
import NativeBridge.Text.Utf8

/-!
# Modules described by raw tables

A loader that maps modules itself describes them with raw tables: byte strings behind pointers that
may be null, numeric shape tags, and a slot per import. Reading a table yields one request per
entry, in order. An entry with a byte string that is not UTF-8 is kept and marked, so that
resolution fails on it instead of binding something else.
-/

namespace NativeBridge

/-- A byte string behind a pointer; absent when the pointer is null. -/
abbrev RawText := Option (List UInt8)

def RawText.ofText (text : String) : RawText := some (Utf8.encode text.toList)

/-- The text of a byte string: empty for a null pointer, nothing for bytes that are not UTF-8. -/
def RawText.decode? : RawText → Option String
  | none => some ""
  | some bytes => (Utf8.decode? bytes).map String.ofList

/-- One entry of an import table. -/
structure ImportDescriptor where
  classpath : RawText
  classname : RawText
  method : RawText
  signature : RawText
  /-- The declared shape, as a number. -/
  tag : UInt8
  slot : ImportSlot
deriving DecidableEq, Repr

namespace ImportDescriptor

/-- The byte strings of an entry with their names, in the order they are checked. -/
def texts (d : ImportDescriptor) : List (String × RawText) :=
  [("classpath", d.classpath), ("classname", d.classname), ("method", d.method),
    ("signature", d.signature)]

/-- The name of the first byte string that is not UTF-8. -/
def malformed? (d : ImportDescriptor) : Option String :=
  (d.texts.find? fun t => t.2.decode?.isNone).map Prod.fst

/-- The request made by the entry at the given position. -/
def request (d : ImportDescriptor) (position : Nat) : ImportRequest where
  index := position
  classpath := d.classpath.decode?.getD ""
  classname := d.classname.decode?.getD ""
  method := d.method.decode?.getD ""
  signature := d.signature.decode?.getD ""
  shape := CallShape.ofTag? d.tag
  malformed := d.malformed?

end ImportDescriptor

def importRequests (table : List ImportDescriptor) : List ImportRequest :=
  table.zipIdx.map fun d => d.1.request d.2

/-- A module described by a loader. -/
structure ModuleDescriptor where
  /-- The name, as bytes. -/
  name : RawText
  symbol : String → Option CodeAddress
  /-- The import table; absent when the pointer is null. -/
  imports : Option (List ImportDescriptor)

namespace ModuleDescriptor

/-- The import table, empty for a null pointer. -/
def table (d : ModuleDescriptor) : List ImportDescriptor := d.imports.getD []

/-- The name as text, broken bytes shown as the replacement character. -/
def nameText (d : ModuleDescriptor) : String :=
  match d.name with
  | none => ""
  | some bytes => String.ofList (Utf8.decodeLossy bytes)

/-- What a described module shows the resolver. -/
def interface (d : ModuleDescriptor) : ModuleInterface where
  name := d.nameText
  symbol := d.symbol
  imports := importRequests d.table
  slot index := d.table[index]?.map ImportDescriptor.slot
  mapping := none

end ModuleDescriptor

/-- Resolves a module on behalf of a loader, which learns only whether it succeeded. No module means
a null descriptor. -/
def resolveForLoader (t : Except RegistryError ClassTable) (module : Option ForeignModule)
    (l : Linkage) : Resolved (Int32 × Option Attempt) :=
  match module with
  | none =>
    ⟨(-1, none), l, [⟨.error, "resolve", "jnishim_resolve_native: null module descriptor"⟩]⟩
  | some module =>
    let r := module.resolveAgainst t l
    match r.value.result with
    | .ok _ => ⟨(0, some r.value), r.linkage, r.records⟩
    | .error e =>
      ⟨(-1, some r.value), r.linkage,
        r.records ++ [⟨.error, "resolve", s!"jnishim_resolve_native: {e.message}"⟩]⟩

end NativeBridge
