/-!
# Columns

Listings align a column by filling each entry with spaces, on the right or on the left. An entry
that is already wide enough is left alone.
-/

namespace NativeBridge.Text

/-- The text followed by as many spaces as it lacks to be `width` characters long. -/
def column (width : Nat) (text : String) : String :=
  text ++ String.ofList (List.replicate (width - text.length) ' ')

/-- The text behind as many spaces as it lacks to be `width` characters long. -/
def rightAligned (width : Nat) (text : String) : String :=
  String.ofList (List.replicate (width - text.length) ' ') ++ text

/-- The decimal digits of a number behind as many zeros as they lack to be `width` digits. -/
def zeroPadded (width n : Nat) : String :=
  let digits := Nat.toDigits 10 n
  String.ofList (List.replicate (width - digits.length) '0' ++ digits)

end NativeBridge.Text
