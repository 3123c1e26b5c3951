/-!
# Ranges of code points

Properties of characters are kept as tables of ranges, each with its first and its last code point.
-/

namespace NativeBridge.Text

/-- Whether a code point lies in one of the ranges. -/
def inRanges (ranges : List (Nat × Nat)) (codePoint : Nat) : Bool :=
  ranges.any fun range => range.1 ≤ codePoint && codePoint ≤ range.2

end NativeBridge.Text
