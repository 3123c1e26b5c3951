import NativeBridge.Decimal.Shortest

/-!
# Decimal notation of doubles

Diagnostic output writes a double with its shortest digits. Magnitudes from one ten-thousandth up
to, but not including, ten to the sixteenth are positional and always show a fractional part; the
others have an exponent.
-/

namespace NativeBridge.Decimal

/-- The limits of positional notation, as powers of ten of the leading digit. -/
structure Style where
  leastPositional : Int
  greatestPositional : Int

/-- Diagnostic output is positional from `10 ^ (-4)` to below `10 ^ 16`. -/
def diagnostic : Style := ⟨-4, 15⟩

/-- Digits in positional notation, with at least one digit on each side of the point. -/
def positional (digits : List Char) (place : Int) : String :=
  if 0 ≤ place then String.ofList (digits ++ List.replicate place.toNat '0') ++ ".0"
  else
    let fractional := (-place).toNat
    let padded := List.replicate (fractional + 1 - digits.length) '0' ++ digits
    let whole := padded.length - fractional
    String.ofList (padded.take whole) ++ "." ++ String.ofList (padded.drop whole)

/-- Digits with one digit before the point and an exponent; a single digit has no point. -/
def scientific (digits : List Char) (exponent : Int) : String :=
  let mantissa := match digits with
    | d :: e :: rest => String.ofList (d :: '.' :: e :: rest)
    | short => String.ofList short
  mantissa ++ "e" ++ toString exponent

/-- The magnitude of a finite double in the given style. -/
def magnitude (style : Style) (x : Binary64) : String :=
  if x.exponent = 0 ∧ x.fraction = 0 then "0.0"
  else
    let d := shortest x
    let digits := Nat.toDigits 10 d.value
    let exponent := d.place + digits.length - 1
    if style.leastPositional ≤ exponent ∧ exponent ≤ style.greatestPositional then
      positional digits d.place
    else scientific digits exponent

def text (x : Binary64) : String :=
  if x.isNaN then "NaN"
  else
    let unsigned := if x.exponent = 2047 then "inf" else magnitude diagnostic x
    if x.sign = 1 then "-" ++ unsigned else unsigned

end NativeBridge.Decimal
