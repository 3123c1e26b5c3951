import NativeBridge.Text.Hex
import NativeBridge.Text.Utf16

/-!
# Symbol names of native methods

A foreign module exports the implementation of a native method under a symbol made from the class,
the method and, for overloaded methods, the argument types. Letters and digits stand for themselves
and a slash becomes an underscore; the underscore, the semicolon and the bracket have two-character
escapes, and any other character is escaped unit by unit in UTF-16.
-/

namespace NativeBridge.Symbol

/-- Whether `c` is an ASCII letter or digit. -/
def isPlain (c : Char) : Bool :=
  ('a' ≤ c && c ≤ 'z') || ('A' ≤ c && c ≤ 'Z') || ('0' ≤ c && c ≤ '9')

def escapeUnit (unit : UInt16) : List Char := '_' :: '0' :: Hex.padded 4 unit.toNat

def escapeChar (c : Char) : List Char :=
  if c = '/' then ['_']
  else if c = '_' then ['_', '1']
  else if c = ';' then ['_', '2']
  else if c = '[' then ['_', '3']
  else if isPlain c then [c]
  else (Utf16.unitsOfChar c).flatMap escapeUnit

def escape (text : List Char) : List Char := text.flatMap escapeChar

/-- The argument types of a signature: what stands between an opening parenthesis at the start and
the first closing one, or the end if there is none. -/
def argumentTypes : List Char → List Char
  | '(' :: rest => rest.takeWhile (· ≠ ')')
  | _ => []

/-- The characters of the symbol of a method that is not overloaded. -/
def shortChars (className method : List Char) : List Char :=
  "Java_".toList ++ escape className ++ '_' :: escape method

/-- The characters of the symbol of an overloaded method. -/
def longChars (className method signature : List Char) : List Char :=
  shortChars className method ++ '_' :: '_' :: escape (argumentTypes signature)

/-- The symbol of a method that is not overloaded. -/
def short (className method : String) : String :=
  String.ofList (shortChars className.toList method.toList)

def long (className method signature : String) : String :=
  String.ofList (longChars className.toList method.toList signature.toList)

end NativeBridge.Symbol
