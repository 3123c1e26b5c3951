import NativeBridge.Memory.Instance

/-!
# Array elements

Elements are read and written one at a time or in regions, always at a stated width. The width is
checked against the element size first and the place against the bounds second; both sizes and
bounds are compared as machine words. A place outside the
bounds is a safety violation; a wrong width is only an error. An access that fails changes nothing.
-/

namespace NativeBridge.ArrayObject

/-- Refuses an access at a width that is not the element size. -/
def checkWidth (a : ArrayObject) (width : Nat) : Except (Refusal AccessError) Unit :=
  if width = a.stride.toNat then .ok ()
  else .error ⟨.elementSizeMismatch a.stride.toNat width, []⟩

def offsetOf (a : ArrayObject) (place : Int32) : UInt64 := place.toInt64.toUInt64 * a.stride

/-- The byte offset of an element, for an index inside the array. -/
def elementOffset (a : ArrayObject) (index : Int32) : Except (Refusal AccessError) UInt64 :=
  if 0 ≤ index ∧ index < a.count then .ok (a.offsetOf index)
  else .error ⟨.indexOutOfBounds index a.count, [.elementOutOfBounds index a.count]⟩

/-- Reads an element as `width` bytes. -/
def getElement (a : ArrayObject) (width : Nat) (index : Int32) :
    Except (Refusal AccessError) (List UInt8) :=
  match a.checkWidth width with
  | .error r => .error r
  | .ok () =>
    match a.elementOffset index with
    | .error r => .error r
    | .ok offset => .ok (a.elements.read offset.toNat width)

/-- Writes an element; the width is the number of bytes given. -/
def setElement (a : ArrayObject) (index : Int32) (bytes : List UInt8) :
    Except (Refusal AccessError) ArrayObject :=
  match a.checkWidth bytes.length with
  | .error r => .error r
  | .ok () =>
    match a.elementOffset index with
    | .error r => .error r
    | .ok offset => .ok { a with elements := a.elements.write offset.toNat bytes }

/-- The byte offset of a region of `length` elements, for a region inside the array. An empty region
may begin right after the last element. -/
def regionOffset (a : ArrayObject) (start : Int32) (length : Nat) :
    Except (Refusal AccessError) UInt64 :=
  if 0 ≤ start ∧ start.toInt.toNat + length ≤ a.extent.toNat then .ok (a.offsetOf start)
  else
    .error ⟨.regionOutOfBounds start length a.count, [.regionOutOfBounds start length a.count]⟩

/-- Reads a region as a list of elements of `width` bytes. -/
def getRegion (a : ArrayObject) (width : Nat) (start : Int32) (length : Nat) :
    Except (Refusal AccessError) (List (List UInt8)) :=
  match a.checkWidth width with
  | .error r => .error r
  | .ok () =>
    match a.regionOffset start length with
    | .error r => .error r
    | .ok offset =>
      .ok ((List.range length).map fun i => a.elements.read (offset.toNat + i * width) width)

/-- Writes a region; every value has `width` bytes. -/
def setRegion (a : ArrayObject) (width : Nat) (start : Int32) (values : List (List UInt8)) :
    Except (Refusal AccessError) ArrayObject :=
  match a.checkWidth width with
  | .error r => .error r
  | .ok () =>
    match a.regionOffset start values.length with
    | .error r => .error r
    | .ok offset => .ok { a with elements := a.elements.write offset.toNat values.flatten }

end NativeBridge.ArrayObject
