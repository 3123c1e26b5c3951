import NativeBridge.Memory.AddressSpace
import NativeBridge.Memory.Instance

/-!
# Memory

The memory of the host holds the live instances, by handle, and static storage, which is flat: a
byte at every address. Instances never lie in static storage. An operation of the host takes a
memory and leaves behind a value, a memory and the events it caused, in order.
-/

namespace NativeBridge

/-- The live instances and the static storage. -/
structure Memory where
  /-- Where instances are placed. -/
  space : AddressSpace
  heap : Handle → Option Instance
  /-- The bytes of static storage, by address. -/
  statics : Block
  spans : statics.size = UInt64.size
  /-- How many instances have been placed. -/
  placed : Nat

namespace Memory

/-- A memory with no instances and zeros in static storage. -/
def empty (space : AddressSpace) : Memory := ⟨space, fun _ => none, .zeros UInt64.size, rfl, 0⟩

/-- The live instance a handle names; the null handle names none. -/
def instance? (m : Memory) (h : Handle) : Option Instance :=
  if h.isNull then none else m.heap h

/-- The memory with the instance at `h` replaced. -/
def write (m : Memory) (h : Handle) (i : Instance) : Memory :=
  { m with heap := fun k => if k = h then some i else m.heap k }

/-- Places a new instance and returns its handle. -/
def place (m : Memory) (i : Instance) : Handle × Memory :=
  let h := m.space.instanceHandle m.placed
  (h, { m.write h i with placed := m.placed + 1 })

/-- The memory with the bytes of static storage at `address` replaced. -/
def writeStatic (m : Memory) (address : UInt64) (bytes : List UInt8) : Memory :=
  { m with
    statics := m.statics.write address.toNat bytes
    spans := (Block.size_write ..).trans m.spans }

theorem instance?_write_self (m : Memory) (h : Handle) (i : Instance) (hn : h.isNull = false) :
    (m.write h i).instance? h = some i := by
  simp [instance?, write, hn]

theorem instance?_write_ne (m : Memory) {h k : Handle} (i : Instance) (hk : k ≠ h) :
    (m.write h i).instance? k = m.instance? k := by
  simp [instance?, write, hk]

end Memory

/-- What an operation leaves behind: its value, the memory and the events it caused. -/
structure Run (α : Type) where
  value : α
  memory : Memory
  events : List Event

namespace Run

/-- The run that also caused the given events, before all others. -/
def after {α : Type} (events : List Event) (r : Run α) : Run α :=
  { r with events := events ++ r.events }

def map {α β : Type} (f : α → β) (r : Run α) : Run β := ⟨f r.value, r.memory, r.events⟩

def violations {α : Type} (r : Run α) : List Violation := violationsOf r.events

end Run

end NativeBridge
