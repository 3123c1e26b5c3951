/-!
# Array descriptors

The name of an array class describes its elements: after an opening bracket stands a primitive
letter, a class name between `L` and a semicolon, or a further array name. Reading a descriptor
gives the name of the element class and the width of an element; references are eight bytes wide.
-/

namespace NativeBridge

/-- A primitive type: the name of its class, its letter in descriptors and its width. -/
structure Primitive where
  name : String
  letter : Char
  width : Nat
deriving DecidableEq, Repr

def primitives : List Primitive := [
  ⟨"boolean", 'Z', 1⟩, ⟨"byte", 'B', 1⟩, ⟨"char", 'C', 2⟩, ⟨"short", 'S', 2⟩,
  ⟨"int", 'I', 4⟩, ⟨"long", 'J', 8⟩, ⟨"float", 'F', 4⟩, ⟨"double", 'D', 8⟩]

def referenceWidth : Nat := 8

/-- The elements of an array class: the name of their class and their width. -/
structure ElementType where
  name : String
  width : Nat
deriving DecidableEq, Repr

namespace ElementType

/-- The class name written between `L` and a final semicolon, if the text has that form. -/
def className? : List Char → Option (List Char)
  | 'L' :: rest => if rest.getLast? = some ';' then some rest.dropLast else none
  | _ => none

/-- The element type described by the characters after the opening bracket. -/
def ofElementChars? (element : List Char) : Option ElementType :=
  match className? element with
  | some name => some ⟨String.ofList name, referenceWidth⟩
  | none =>
    match element with
    | '[' :: rest => some ⟨String.ofList ('[' :: rest), referenceWidth⟩
    | [letter] =>
      (primitives.find? fun p => p.letter = letter).map fun p => ⟨p.name, p.width⟩
    | _ => none

/-- The element type described by the name of an array class. -/
def ofArrayClass? (name : String) : Option ElementType :=
  match name.toList with
  | '[' :: element => ofElementChars? element
  | _ => none

end ElementType

end NativeBridge
