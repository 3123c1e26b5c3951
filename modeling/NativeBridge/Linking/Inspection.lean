import NativeBridge.Linking.Location
import NativeBridge.Text.Column

/-!
# Inspection

An inspection shows what resolving a module would need, without resolving it. Every request is
marked by whether the table has a method of its name and signature, and every native method that
names the module by the symbol it is exported under.
-/

namespace NativeBridge

/-- A request and whether the table has the method it names. -/
structure ImportMark where
  request : ImportRequest
  found : Bool
deriving DecidableEq, Repr

/-- A native method and the first of its symbols that the module exports. -/
structure NativeMark where
  native : DeclaredNative
  symbol : Option String

/-- What an inspection shows. -/
structure Inspection where
  name : String
  imports : List ImportMark
  natives : List NativeMark

namespace ModuleInterface

/-- The first symbol of a native method that the module exports. -/
def exportedSymbol? (i : ModuleInterface) (d : DeclaredNative) : Option String :=
  (d.cls.symbolCandidates d.method).find? fun symbol => (i.symbol symbol).isSome

def inspect (i : ModuleInterface) (t : ClassTable) : Inspection where
  name := i.name
  imports := i.imports.map fun r => ⟨r, (t.findMethod? r.key).isSome⟩
  natives := (t.nativesOf i.name).map fun d => ⟨d, i.exportedSymbol? d⟩

end ModuleInterface

/-- How a member that is there or not is marked. -/
def markText (found : Bool) : String := if found then "[ok]" else "[missing]"

/-- The line of an inspected request; an unknown shape is a question mark. -/
def ImportMark.line (mark : ImportMark) : String :=
  let shape := (mark.request.shape.map CallShape.text).getD "?"
  "    " ++ markText mark.found ++ " " ++ Text.column 10 shape ++ " " ++ mark.request.key.text

/-- The line of an inspected native method: the symbol found, or the first one tried. -/
def NativeMark.line (mark : NativeMark) : String :=
  "    " ++ markText mark.symbol.isSome ++ " " ++ mark.symbol.getD mark.native.shortSymbol

def Inspection.lines (inspection : Inspection) : List String :=
  ["Module: " ++ inspection.name, s!"Imports ({inspection.imports.length}):"] ++
    inspection.imports.map ImportMark.line ++
    ["Natives:"] ++ inspection.natives.map NativeMark.line

end NativeBridge
