/-!
# Blocks of bytes

A block is a stretch of memory: a number of bytes, each with its content. Blocks can be very large
and are touched in few places, so the content is kept as a function of the place. A block is read
and written in windows. A window shows what was last written to it, and a write leaves the bytes
outside its window alone.
-/

namespace NativeBridge

/-- A stretch of memory. -/
structure Block where
  /-- The number of bytes. -/
  size : Nat
  /-- The byte at each place. -/
  byte : Nat → UInt8

namespace Block

def zeros (size : Nat) : Block := ⟨size, fun _ => 0⟩

/-- The `width` bytes that start at `offset`. -/
def read (b : Block) (offset width : Nat) : List UInt8 :=
  (List.range width).map fun i => b.byte (offset + i)

/-- The block with the bytes at `offset` replaced. A write that would not fit inside the block
leaves it as it was. -/
def write (b : Block) (offset : Nat) (bytes : List UInt8) : Block :=
  let data := bytes.toArray
  if offset + data.size ≤ b.size then
    ⟨b.size, fun place =>
      if offset ≤ place ∧ place < offset + data.size then data[place - offset]?.getD 0
      else b.byte place⟩
  else b

def ofBytes (bytes : List UInt8) : Block := (zeros bytes.length).write 0 bytes

@[simp] theorem length_read (b : Block) (offset width : Nat) :
    (b.read offset width).length = width := by simp [read]

@[simp] theorem size_write (b : Block) (offset : Nat) (bytes : List UInt8) :
    (b.write offset bytes).size = b.size := by
  simp only [write]
  split <;> rfl

/-- What is written is what the window at its place then shows. -/
theorem read_write_self (b : Block) (offset : Nat) (bytes : List UInt8)
    (h : offset + bytes.length ≤ b.size) :
    (b.write offset bytes).read offset bytes.length = bytes := by
  apply List.ext_getElem
  · simp
  · intro i hi hb
    simp [read, write, h, hb]

/-- A write leaves the bytes outside its window alone. -/
theorem byte_write_of_outside (b : Block) (offset place : Nat) (bytes : List UInt8)
    (h : place < offset ∨ offset + bytes.length ≤ place) :
    (b.write offset bytes).byte place = b.byte place := by
  have hout : ¬(offset ≤ place ∧ place < offset + bytes.length) := by omega
  simp only [write, List.size_toArray]
  split
  · simp [hout]
  · rfl

end Block

end NativeBridge
