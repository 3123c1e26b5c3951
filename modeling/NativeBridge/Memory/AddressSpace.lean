import NativeBridge.Handle
import NativeBridge.Text.Hex
import NativeBridge.Word.LittleEndian

/-!
# Address spaces

The host hands out an address to every class, every instance and every piece of static storage.
The addresses of one host all have the same top byte, the mark of its address space. Requests can
mention addresses of their own. The mark is taken from the bytes that no number in the request is
made of, so that no address the request spells is one the host hands out.
-/

namespace NativeBridge

/-- The range of addresses that a host hands out. -/
structure AddressSpace where
  /-- The top byte of every address. -/
  mark : UInt8
deriving DecidableEq, Repr

namespace AddressSpace

/-- The address space of a host that is given no addresses. -/
def standard : AddressSpace := ⟨0xa5⟩

/-- The address at a distance from the start of the range. -/
def address (s : AddressSpace) (distance : Nat) : UInt64 :=
  (s.mark.toUInt64 <<< 56) + UInt64.ofNat distance

/-- The handle of the class built after `n` others. -/
def classHandle (s : AddressSpace) (n : Nat) : Handle := ⟨s.address (0x10000000000 + 0x1000 * n)⟩

/-- The handle of the instance placed after `n` others. -/
def instanceHandle (s : AddressSpace) (n : Nat) : Handle :=
  ⟨s.address (0x20000000000 + 0x10000 * n)⟩

/-- The address of the static storage made after `n` other pieces. -/
def staticAddress (s : AddressSpace) (n : Nat) : UInt64 := s.address (0x30000000000 + 0x100 * n)

/-- The numbers that a run of digits can stand for: as a hexadecimal number and, if every digit is
decimal, as a decimal one, each with its negation. -/
def numbersOfRun (run : List Char) : List Nat :=
  let readings := (Hex.number? run).toList ++ (String.ofList run).toNat?.toList
  readings.flatMap fun n => [n, UInt64.size - n % UInt64.size]

/-- The maximal runs of hexadecimal digits in a text. -/
def digitRuns (text : List Char) : List (List Char) :=
  (text.splitOnP fun c => (Hex.digitValue? c).isNone).filter fun run => !run.isEmpty

/-- The bytes that the numbers in a text are made of. -/
def mentionedBytes (text : String) : List UInt8 :=
  ((digitRuns text.toList).flatMap numbersOfRun).flatMap (LittleEndian.encode 8)

/-- An address space whose mark is not among the bytes of the numbers in a text, as long as there is
such a mark. -/
def avoiding (text : String) : AddressSpace :=
  let mentioned := mentionedBytes text
  let marks := (List.range 255).map fun n => UInt8.ofNat (n + 1)
  ((marks.find? fun mark => !mentioned.contains mark).map AddressSpace.mk).getD standard

end AddressSpace

end NativeBridge
