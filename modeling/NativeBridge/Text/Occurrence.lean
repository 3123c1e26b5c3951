/-!
# Occurrences of one text in another

A text occurs in another when it stands there without gaps. The empty text occurs everywhere.
-/

namespace NativeBridge.Text

/-- Whether a list of characters stands somewhere inside another. -/
def occursIn (pattern : List Char) : List Char → Bool
  | [] => pattern.isEmpty
  | c :: rest => pattern.isPrefixOf (c :: rest) || occursIn pattern rest

/-- Whether `text` contains `pattern`. -/
def contains (text pattern : String) : Bool := occursIn pattern.toList text.toList

end NativeBridge.Text
