/-!
# Handles

Everything that crosses the boundary by reference is named by a machine address: instances,
classes and the environment. The address zero names nothing. Members of a class have no address of
their own here; a member is named by the class that declares it and its position in that class.
-/

namespace NativeBridge

/-- A reference across the boundary: a machine address, or null when the address is zero. -/
structure Handle where
  address : UInt64
deriving DecidableEq, Repr, Inhabited

namespace Handle

def null : Handle := ⟨0⟩

def isNull (h : Handle) : Bool := h.address == 0

@[simp] theorem isNull_null : null.isNull = true := rfl

theorem isNull_iff (h : Handle) : h.isNull = true ↔ h = null := by
  cases h
  simp [isNull, null]

end Handle

/-- Names a host method: the declaring class and the position among its methods. -/
structure MethodId where
  owner : Handle
  index : Nat
deriving DecidableEq, Repr

/-- Names a field: the declaring class and the position among its fields. -/
structure FieldId where
  owner : Handle
  index : Nat
deriving DecidableEq, Repr

/-- Names a native method: the declaring class and the position among its native methods. -/
structure NativeId where
  owner : Handle
  index : Nat
deriving DecidableEq, Repr

end NativeBridge
