import NativeBridge.Text.Hex
import NativeBridge.Text.Printable

/-!
# Quoted text

Diagnostic output shows text between double quotes. The quote and the backslash are escaped with a
backslash, four common controls have a letter, and every other character that is not printable is
written as its code point in braces.
-/

namespace NativeBridge.Text

/-- How one character is written between double quotes. -/
def quotedChar (c : Char) : String :=
  if c = '\x00' then "\\0"
  else if c = '\t' then "\\t"
  else if c = '\r' then "\\r"
  else if c = '\n' then "\\n"
  else if c = '\\' then "\\\\"
  else if c = '"' then "\\\""
  else if isPrintable c then c.toString
  else "\\u\x7b" ++ String.ofList (Hex.digits c.toNat) ++ "\x7d"

def quoted (text : String) : String :=
  "\"" ++ String.join (text.toList.map quotedChar) ++ "\""

end NativeBridge.Text
