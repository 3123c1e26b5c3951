import NativeBridge.Violation

/-!
# Variable argument lists

A variable argument list is read from front to back. A read names the class it wants. An argument
of that class is returned; an argument of another class is consumed and read as zero; past the end
every read is zero and consumes nothing. The last two cases report a violation each. The list keeps
the number of arguments already read and those still to come, so it can never be read beyond its
end.
-/

namespace NativeBridge

/-- A variable argument list with a read position. -/
structure VarArgs where
  /-- How many arguments have been read. -/
  consumed : Nat
  /-- The arguments still to be read, in order. -/
  pending : List Promoted
deriving DecidableEq, Repr

/-- What one read from a variable argument list yields. -/
structure Reading (α : Type) where
  value : α
  rest : VarArgs
  violations : List Violation
deriving DecidableEq, Repr

namespace VarArgs

/-- The list of the given promoted arguments, nothing read yet. -/
def ofPromoted (arguments : List Promoted) : VarArgs := ⟨0, arguments⟩

/-- The list of the given values after default argument promotion, nothing read yet. -/
def ofValues (values : List Value) : VarArgs := ofPromoted (values.map Value.promote)

/-- The number of arguments passed, read or not. -/
def count (a : VarArgs) : Nat := a.consumed + a.pending.length

def remaining (a : VarArgs) : Nat := a.pending.length

/-- Reads the next argument as the wanted class. -/
def next (wanted : PromotedClass) (a : VarArgs) : Reading wanted.Carrier :=
  match a.pending with
  | [] => ⟨wanted.zero, a, [.argumentUnderflow wanted (a.consumed + 1) a.count]⟩
  | passed :: rest =>
    match passed.as? wanted with
    | some v => ⟨v, ⟨a.consumed + 1, rest⟩, []⟩
    | none =>
      ⟨wanted.zero, ⟨a.consumed + 1, rest⟩,
        [.argumentClassMismatch wanted (a.consumed + 1) passed]⟩

/-- Reads the next argument as a value of the given type, narrowed from its promoted class. -/
def nextValue (t : ValueType) (a : VarArgs) : Reading Value :=
  let r := a.next t.promotedClass
  ⟨t.narrow r.value, r.rest, r.violations⟩

end VarArgs

end NativeBridge
