/-!
# Binary floating-point words

Single- and double-precision numbers are kept as their bit patterns, because that is what the
boundary carries. This file widens a single to a double, which is exact, narrows a double to the
nearest single with ties to the even neighbour, and writes a machine integer as a double. All of
it is exact arithmetic on the three parts of the pattern: sign, exponent and fraction.
-/

namespace NativeBridge

/-- A single-precision number, as its bits. -/
structure Binary32 where
  bits : UInt32
deriving DecidableEq, Repr, Inhabited

/-- A double-precision number, as its bits. -/
structure Binary64 where
  bits : UInt64
deriving DecidableEq, Repr, Inhabited

/-- `n / 2 ^ shift` rounded to the nearest integer, a half going to the even neighbour. -/
def roundShift (n shift : Nat) : Nat :=
  let unit := Nat.pow 2 shift
  let quotient := n / unit
  let twice := 2 * (n % unit)
  if twice > unit ∨ (twice = unit ∧ quotient % 2 = 1) then quotient + 1 else quotient

namespace Binary32

/-- The weight of the last bit of the exponent. -/
def unit : Nat := Nat.pow 2 23

def signUnit : Nat := Nat.pow 2 31

def infinity : Nat := 255 * unit

/-- The bit of the fraction that makes a NaN quiet. -/
def quietBit : Nat := Nat.pow 2 22

/-- One for negative numbers, zero for the others. -/
def sign (x : Binary32) : Nat := x.bits.toNat / signUnit

def exponent (x : Binary32) : Nat := x.bits.toNat / unit % 256

def fraction (x : Binary32) : Nat := x.bits.toNat % unit

def isNaN (x : Binary32) : Bool := x.exponent == 255 && x.fraction != 0

/-- The word with the given sign and the given bits below it. -/
def ofParts (sign magnitude : Nat) : Binary32 := ⟨UInt32.ofNat (sign * signUnit + magnitude)⟩

end Binary32

namespace Binary64

/-- The weight of the last bit of the exponent. -/
def unit : Nat := Nat.pow 2 52

def signUnit : Nat := Nat.pow 2 63

def infinity : Nat := 2047 * unit

/-- The bit of the fraction that makes a NaN quiet. -/
def quietBit : Nat := Nat.pow 2 51

/-- One for negative numbers, zero for the others. -/
def sign (x : Binary64) : Nat := x.bits.toNat / signUnit

def exponent (x : Binary64) : Nat := x.bits.toNat / unit % 2048

def fraction (x : Binary64) : Nat := x.bits.toNat % unit

def isNaN (x : Binary64) : Bool := x.exponent == 2047 && x.fraction != 0

/-- The word with the given sign and the given bits below it. -/
def ofParts (sign magnitude : Nat) : Binary64 := ⟨UInt64.ofNat (sign * signUnit + magnitude)⟩

/-- The bits of a positive integer of at most 53 bits, given with its exponent, that is, those of
the exponent and behind them those of the integer without the first one. -/
def magnitudeOf (n exponent : Nat) : Nat :=
  exponent * unit + (n - Nat.pow 2 n.log2) * Nat.pow 2 (52 - n.log2)

/-- The double equal to an integer of at most 53 bits. -/
def ofInt (n : Int) : Binary64 :=
  let m := n.natAbs
  ofParts (if n < 0 then 1 else 0) (if m = 0 then 0 else magnitudeOf m (1023 + m.log2))

end Binary64

/-- How many fraction bits a double has more than a single. -/
def extraBits : Nat := 29

namespace Binary32

/-- The double with the same value. A NaN becomes a quiet NaN with the same payload. -/
def widen (x : Binary32) : Binary64 :=
  let m := x.fraction
  let scaled := m * Nat.pow 2 extraBits
  Binary64.ofParts x.sign <|
    if x.exponent = 255 then
      if m = 0 then Binary64.infinity
      else Binary64.infinity + (Binary64.quietBit + scaled % Binary64.quietBit)
    else if x.exponent = 0 then
      if m = 0 then 0 else Binary64.magnitudeOf m (874 + m.log2)
    else (x.exponent + 896) * Binary64.unit + scaled

end Binary32

namespace Binary64

/-- The nearest single, ties going to the even neighbour. Numbers too large for a single become
an infinity, and a NaN becomes a quiet NaN with the high bits of its payload. -/
def narrow (x : Binary64) : Binary32 :=
  let m := x.fraction
  let e := x.exponent
  Binary32.ofParts x.sign <|
    if e = 2047 then
      if m = 0 then Binary32.infinity
      else Binary32.infinity + (Binary32.quietBit + m / Nat.pow 2 extraBits % Binary32.quietBit)
    else if 897 ≤ e then
      min ((e - 897) * Binary32.unit + roundShift (unit + m) extraBits) Binary32.infinity
    else if e = 0 then 0
    else roundShift (unit + m) (926 - e)

end Binary64

namespace Binary32

/-- The single equal to an integer of at most 24 bits. -/
def ofInt (n : Int) : Binary32 := (Binary64.ofInt n).narrow

end Binary32

end NativeBridge
