import NativeBridge.Word.Floating

/-!
# Shortest decimals

A finite double is written with the fewest decimal digits that no other double is nearer to. The
reals that round to the number form an interval around it, closed exactly when its significand is
even. The digit counts one to seventeen are tried in turn: the first decimal grid with a point in
the interval wins, of two such points the nearer one, and of two equally near the larger.
-/

namespace NativeBridge.Decimal

/-- A positive rational number. -/
structure Ratio where
  numerator : Nat
  denominator : Nat
deriving Repr

namespace Ratio

/-- `significand * 2 ^ exponent`. -/
def ofBinary (significand : Nat) (exponent : Int) : Ratio :=
  ⟨significand * Nat.pow 2 exponent.toNat, Nat.pow 2 (-exponent).toNat⟩

/-- `x / 10 ^ place`. -/
def scaleDown (x : Ratio) (place : Int) : Ratio :=
  ⟨x.numerator * Nat.pow 10 (-place).toNat, x.denominator * Nat.pow 10 place.toNat⟩

/-- The largest integer not above `x`. -/
def floor (x : Ratio) : Nat := x.numerator / x.denominator

/-- The exponent `e` with `10 ^ e ≤ x < 10 ^ (e + 1)`, for positive `x` down to `10 ^ (-400)`. -/
def decimalExponent (x : Ratio) : Int :=
  if x.denominator ≤ x.numerator then ((Nat.toDigits 10 x.floor).length : Int) - 1
  else
    let place := (List.range 400).find? (fun j => x.denominator ≤ x.numerator * Nat.pow 10 j)
    Int.negOfNat (place.getD 400)

end Ratio

/-- A finite positive double in exact form: a significand and a power of two, with the interval of
reals that round to it in quarters of that power. -/
structure Exact where
  significand : Nat
  exponent : Int
  /-- Quarters below the number that still round to it: one below a power of two, else two. -/
  below : Nat
deriving Repr

/-- The exact form of the magnitude of a finite double. -/
def Exact.ofBinary64 (x : Binary64) : Exact :=
  if x.exponent = 0 then ⟨x.fraction, -1074, 2⟩
  else ⟨Binary64.unit + x.fraction, (x.exponent : Int) - 1075,
    if x.fraction = 0 ∧ 1 < x.exponent then 1 else 2⟩

/-- Decimal digits as a natural number, and the power of ten of its last digit. -/
structure Digits where
  value : Nat
  place : Int
deriving DecidableEq, Repr

/-- Whether `n * 10 ^ place` rounds to the number `x`. -/
def Exact.covers (x : Exact) (place : Int) (n : Nat) : Bool :=
  let low := (Ratio.ofBinary (4 * x.significand - x.below) (x.exponent - 2)).scaleDown place
  let high := (Ratio.ofBinary (4 * x.significand + 2) (x.exponent - 2)).scaleDown place
  if x.significand % 2 = 0 then
    low.numerator ≤ n * low.denominator && n * high.denominator ≤ high.numerator
  else
    low.numerator < n * low.denominator && n * high.denominator < high.numerator

/-- The point of the grid `10 ^ place` that rounds to `x` and is nearest to it, if there is one. -/
def Exact.onGrid? (x : Exact) (place : Int) : Option Digits :=
  let scaled := (Ratio.ofBinary x.significand x.exponent).scaleDown place
  let lower := scaled.floor
  let upper := lower + 1
  let nearerUpper := decide (scaled.denominator ≤ 2 * (scaled.numerator % scaled.denominator))
  match x.covers place lower, x.covers place upper with
  | true, true => some ⟨if nearerUpper then upper else lower, place⟩
  | true, false => some ⟨lower, place⟩
  | false, true => some ⟨upper, place⟩
  | false, false => none

/-- Drops trailing zeros, at most as many as there can be digits. -/
def Digits.trim (d : Digits) : Nat → Digits
  | 0 => d
  | fuel + 1 =>
    if d.value ≠ 0 ∧ d.value % 10 = 0 then trim ⟨d.value / 10, d.place + 1⟩ fuel else d

/-- The shortest digits that read back as the magnitude of the finite non-zero double `x`. -/
def shortest (x : Binary64) : Digits :=
  let exact := Exact.ofBinary64 x
  let top := (Ratio.ofBinary exact.significand exact.exponent).decimalExponent
  let found := (List.range 17).findSome? fun (count : Nat) => exact.onGrid? (top - count)
  (found.getD ⟨0, 0⟩).trim 20

end NativeBridge.Decimal
