/-!
# Errors of instances and accesses

Making an instance and accessing its contents fail for a fixed set of causes. Each cause carries
what its message needs.
-/

namespace NativeBridge

/-- Why an instance cannot be made. -/
inductive ObjectError where
  /-- The class does not describe the wanted kind of instance. -/
  | classMismatch (expected actual : String)
  | negativeLength (count : Int32)
  /-- The element size is zero or negative. -/
  | invalidElementSize (size : Int32)
  /-- An allocation cannot have as many bytes as the elements take. -/
  | tooLarge (count elementSize : Int32)
  /-- The text has a NUL byte at this position. -/
  | interiorNul (position : Nat)
deriving DecidableEq, Repr

def ObjectError.name : ObjectError → String
  | classMismatch .. => "ClassMismatch"
  | negativeLength _ => "NegativeLength"
  | invalidElementSize _ => "InvalidElementSize"
  | tooLarge .. => "TooLarge"
  | interiorNul _ => "InteriorNul"

def ObjectError.message : ObjectError → String
  | classMismatch expected actual => s!"class '{actual}' cannot be used as {expected}"
  | negativeLength count => s!"negative array length {count.toInt}"
  | invalidElementSize size => s!"invalid element size {size.toInt}"
  | tooLarge count size => s!"array of {count.toInt} x {size.toInt} bytes is too large"
  | interiorNul position => s!"string has interior NUL at byte {position}"

/-- Why an access to a field or an element fails. -/
inductive AccessError where
  | indexOutOfBounds (index count : Int32)
  /-- The region that begins at `start` leaves the array. -/
  | regionOutOfBounds (start : Int32) (length : Nat) (count : Int32)
  /-- The accessed width is not the array's element size. -/
  | elementSizeMismatch (expected actual : Nat)
  /-- There is no instance where one is needed. -/
  | missingInstance (subject : String)
  /-- The instance is not of the class that declares the field. -/
  | classMismatch (field instanceClass : String)
  /-- The value would end past the end of the instance. -/
  | fieldOverrun (field : String) (fieldEnd instanceSize : UInt64)
  /-- The operation does not accept instances of this class. -/
  | instanceClass (function cls : String)
deriving DecidableEq, Repr

def AccessError.name : AccessError → String
  | indexOutOfBounds .. => "IndexOutOfBounds"
  | regionOutOfBounds .. => "RegionOutOfBounds"
  | elementSizeMismatch .. => "ElementSizeMismatch"
  | missingInstance _ => "MissingInstance"
  | classMismatch .. => "ClassMismatch"
  | fieldOverrun .. => "FieldOverrun"
  | instanceClass .. => "InstanceClass"

def AccessError.message : AccessError → String
  | indexOutOfBounds index count => s!"index {index.toInt} out of bounds for length {count.toInt}"
  | regionOutOfBounds start length count =>
    s!"region [{start.toInt}, {start.toInt}+{length}) out of bounds for length {count.toInt}"
  | elementSizeMismatch expected actual =>
    s!"element size is {expected} bytes, accessed as {actual} bytes"
  | missingInstance subject => s!"instance field '{subject}' accessed without an instance"
  | classMismatch field cls => s!"field '{field}' does not belong to class '{cls}'"
  | fieldOverrun field fieldEnd instanceSize =>
    s!"field '{field}' ends at byte {fieldEnd.toNat} past instance size {instanceSize.toNat}"
  | instanceClass function cls => s!"{function} does not accept an instance of '{cls}'"

end NativeBridge
