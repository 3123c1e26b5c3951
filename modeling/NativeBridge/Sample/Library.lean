import NativeBridge.Linking.Library

/-!
# Sample libraries

Libraries that differ from a well-made module: one exports a symbol but no import table, and one
exports an import table in which almost every entry has a fault of its own.
-/

namespace NativeBridge.Sample

def libraryExporting (symbol : String) (importTable : Option (List ImportDescriptor))
    (mapping : Nat) : LibraryFile where
  symbol name := if name = symbol then some 0x2000 else none
  importTable := importTable
  mapping := mapping

/-- An import table with a sound entry, one of another shape, one of an unknown shape, two that no
class answers, and one with a path that is not UTF-8. -/
def faultyTable (owner : Nat) : List ImportDescriptor :=
  let lang := RawText.ofText "java/lang"
  let string := RawText.ofText "String"
  [⟨lang, string, .ofText "length", .ofText "()I", 0, ⟨owner, 0⟩⟩,
    ⟨lang, string, .ofText "length", .ofText "()I", 1, ⟨owner, 1⟩⟩,
    ⟨lang, string, .ofText "isEmpty", .ofText "()Z", 7, ⟨owner, 2⟩⟩,
    ⟨lang, .ofText "Missing", .ofText "gone", .ofText "()V", 2, ⟨owner, 3⟩⟩,
    ⟨.ofText "", .ofText "[I", .ofText "size", .ofText "()I", 7, ⟨owner, 4⟩⟩,
    ⟨some [0xff, 0xfe], string, .ofText "hashCode", .ofText "()I", 0, ⟨owner, 5⟩⟩]

/-- A library that exports nothing but the faulty table. -/
def faultyLibrary (mapping : Nat) : LibraryFile :=
  libraryExporting importTableSymbol (some (faultyTable mapping)) mapping

end NativeBridge.Sample
