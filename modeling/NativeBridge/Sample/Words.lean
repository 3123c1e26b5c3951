import NativeBridge.Class.Builtin
import NativeBridge.Environment.Basic

/-!
# Strings and integers

A process with the builtin classes of strings, of integers and of arrays of integers. In its memory
live a string that borrows its bytes, of which one piece alone is well formed, and an array.
-/

namespace NativeBridge.Sample

def intType : Primitive := ⟨"int", 'I', 4⟩

def wordTable : ClassTable :=
  (((ClassRegistry.empty.register (Builtin.stringClass ⟨0x40⟩)).register
    (Builtin.primitiveClass intType ⟨0x48⟩)).register
      (Builtin.primitiveArrayClass intType ⟨0x50⟩)).toTable

def wordEnvironment : Environment := .ofTable wordTable []

/-- A byte that leads no sequence, two bytes of a sequence that is cut short, and the letter `a`. -/
def brokenString : StringObject := ⟨⟨0x40⟩, bufferAddress, .null, 0, [0xff, 0xe2, 0x82, 0x61]⟩

def intArray : ArrayObject := ⟨⟨0x50⟩, ⟨0x48⟩, 1, 4, bufferAddress, .ofBytes [1, 2, 3, 4]⟩

def wordMemory : Memory :=
  ((Memory.empty .standard).write ⟨0x500⟩ (.string brokenString)).write ⟨0x600⟩ (.array intArray)

end NativeBridge.Sample
