import NativeBridge.Class.Registry
import NativeBridge.Memory.AddressSpace

/-!
# The inventory of a process

Parts of a process submit classes before the process-wide table exists. The inventory lists them
part by part, the latest submission of a part first. Each class is built at a handle of its own, in
the order of the inventory; the classes are then registered by full name and the table is sealed.
-/

namespace NativeBridge

/-- The inventory of parts that each submit classes in the order given. -/
def inventoryOfParts (parts : List (List (Handle → Class))) : List (Handle → Class) :=
  parts.flatMap List.reverse

/-- The submitted classes, each built at its own handle. -/
def buildInOrder (space : AddressSpace) (submitted : List (Handle → Class)) : List Class :=
  submitted.zipIdx.map fun s => s.1 (space.classHandle s.2)

/-- The table of the submitted classes, or the first refusal. -/
def ClassTable.ofInventory? (space : AddressSpace) (submitted : List (Handle → Class)) :
    Except RegistryError ClassTable :=
  (ClassRegistry.ofInventory? (buildInOrder space submitted)).map ClassRegistry.toTable

/-- The records written while the submitted classes are built and registered. -/
def collectionRecords (space : AddressSpace) (submitted : List (Handle → Class)) :
    List LogRecord :=
  let built := buildInOrder space submitted
  built.flatMap Class.declarationRecords ++
    ClassRegistry.empty.insertAllRecords (ClassRegistry.inventoryOrder built)

/-- The records written while the table of the submitted classes is made. -/
def inventoryRecords (space : AddressSpace) (submitted : List (Handle → Class)) :
    List LogRecord :=
  collectionRecords space submitted ++
    match ClassRegistry.ofInventory? (buildInOrder space submitted) with
    | .ok registry => registry.sealingRecords
    | .error _ => []

end NativeBridge
