import NativeBridge.Text.Ranges

/-!
# Blanks

The characters that separate words, in any script, and the trimming of them from either end of a
text.
-/

namespace NativeBridge.Text

/-- The ranges, first and last code point, of characters that separate words. -/
def blankRanges : List (Nat × Nat) := [
  (0x9, 0xd), (0x20, 0x20), (0x85, 0x85), (0xa0, 0xa0), (0x1680, 0x1680), (0x2000, 0x200a),
  (0x2028, 0x2029), (0x202f, 0x202f), (0x205f, 0x205f), (0x3000, 0x3000)]

def isBlank (c : Char) : Bool := inRanges blankRanges c.toNat

def trimmed (text : List Char) : List Char :=
  ((text.dropWhile isBlank).reverse.dropWhile isBlank).reverse

end NativeBridge.Text
