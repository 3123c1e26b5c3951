import NativeBridge.Pattern.Cursor
import NativeBridge.Pattern.Node
import NativeBridge.Text.Hex

/-!
# Single signs

The smallest parts of a pattern are single characters and escapes, which begin with a backslash. An
escape is a character by its number or by a letter, a class of characters, or a condition on the
place it stands at. Both the pattern itself and the inside of brackets are made of these parts.
-/

namespace NativeBridge.Pattern

/-- What a single sign stands for. -/
inductive Atom where
  | literal (l : Literal)
  | dot (span : Span)
  | assertion (span : Span) (a : Assertion)
  | charClass (c : CharClass)

def Atom.span : Atom → Span
  | literal l => l.span
  | dot span => span
  | assertion span _ => span
  | charClass c => c.span

def Atom.node : Atom → Node
  | literal l => .literal l
  | dot span => .dot span
  | assertion span a => .assertion span a
  | charClass c => .charClass c

namespace Cursor

/-- The characters with a meaning of their own, which a backslash takes away. -/
def metaCharacters : List Char := "\\.+*?()|[]\x7b\x7d^$#&-~".toList

/-- Whether a backslash makes a character stand for itself: every ASCII character does, apart from
letters, digits and the two angle brackets. -/
def standsForItself (c : Char) : Bool :=
  metaCharacters.contains c ||
    (decide (c.toNat < 0x80) && !c.isAlphanum && c != '<' && c != '>')

/-- The characters that a letter behind a backslash stands for. -/
def letterEscapes : List (Char × Char) := [
  ('a', '\x07'), ('f', '\x0c'), ('t', '\t'), ('n', '\n'), ('r', '\r'), ('v', '\x0b')]

/-- The conditions that a sign behind a backslash stands for. -/
def assertionEscapes : List (Char × Assertion) := [
  ('A', .textStart), ('z', .textEnd), ('B', .noWordBoundary), ('<', .wordStart), ('>', .wordEnd)]

/-- The conditions by name that can stand in braces behind the sign of a word boundary. -/
def boundaryNames : List (String × Assertion) := [
  ("start", .wordStart), ("end", .wordEnd), ("start-half", .noWordBefore),
  ("end-half", .noWordAfter)]

/-- The classes that a letter behind a backslash stands for, and whether they are negated. -/
def shortClasses : List (Char × ShortClass × Bool) := [
  ('d', .digit, false), ('s', .space, false), ('w', .word, false),
  ('D', .digit, true), ('S', .space, true), ('W', .word, true)]

/-- The scalar value that hexadecimal digits spell. -/
def scalarOf? (digits : List Char) : Option Char :=
  (Hex.number? digits).bind fun n => if n.isValidChar then some (Char.ofNat n) else none

/-- Reads a fixed number of hexadecimal digits. -/
def readDigits : (count : Nat) → Cursor → Reading (List Char)
  | 0, c => .ok ([], c)
  | count + 1, c =>
    match c.next? with
    | none => fail .escapeUnfinished c.point
    | some digit =>
      if (Hex.digitValue? digit).isNone then fail .hexDigitInvalid c.nextSpan
      else
        match readDigits count c.advance with
        | .ok (digits, behind) => .ok (digit :: digits, behind)
        | .error fault => .error fault

/-- Reads a character by its number, in a fixed count of digits; `first` is the place of the
backslash. -/
def readFixedNumber (first : Place) (count : Nat) (c : Cursor) : Reading Literal :=
  match readDigits count c with
  | .error fault => .error fault
  | .ok (digits, behind) =>
    match scalarOf? digits with
    | none => fail .hexInvalid (behind.since c.place)
    | some char => .ok (⟨behind.since first, char, count == 2⟩, behind)

/-- Reads a character by its number in braces, of which the first one comes next. -/
def readBracedNumber (first : Place) (c : Cursor) : Reading Literal :=
  let (digits, close) := c.advance.takeWhile fun digit => (Hex.digitValue? digit).isSome
  if close.atEnd then fail .escapeUnfinished (close.since c.place)
  else if close.next? ≠ some '\x7d' then fail .hexDigitInvalid close.nextSpan
  else
    let behind := close.advance
    if digits.isEmpty then fail .hexEmpty (behind.since c.place)
    else
      match scalarOf? digits with
      | none => fail .hexInvalid (close.since c.bump.place)
      | some char => .ok (⟨behind.since first, char, false⟩, behind)

/-- Reads a character by its number, behind the letter that says how many digits there are. -/
def readNumber (first : Place) (count : Nat) (c : Cursor) : Reading Atom :=
  let c := c.advance
  let read :=
    if c.atEnd then fail .escapeUnfinished c.point
    else if c.next? = some '\x7b' then c.readBracedNumber first
    else c.readFixedNumber first count
  read.map fun read => (.literal read.1, read.2)

/-- Reads a class by a property, behind the letter that announces it. -/
def readProperty (first : Place) (c : Cursor) : Reading Atom :=
  let c := c.advance
  match c.next? with
  | none => fail .escapeUnfinished c.point
  | some '\\' => fail .propertyInvalid c.nextSpan
  | some '\x7b' =>
    let (name, close) := c.advance.takeWhile (· ≠ '\x7d')
    if close.atEnd then fail .escapeUnfinished close.point
    else
      let behind := close.bump
      let valued := name.contains ':' || name.contains '='
      .ok (.charClass (.property (behind.since first) name valued), behind)
  | some letter =>
    let behind := c.advance
    .ok (.charClass (.property (behind.since first) [letter] false), behind)

/-- Reads what can follow the sign of a word boundary: the name of a condition in braces. A brace
before anything but a name is left to be read as a repetition. -/
def readBoundary (first : Place) (c : Cursor) : Reading Atom :=
  let isNameCharacter := fun (ch : Char) => ch.isAlpha || ch == '-'
  let plain : Reading Atom := .ok (.assertion (c.since first) .wordBoundary, c)
  if c.next? ≠ some '\x7b' then plain
  else
    let inside := c.advance
    match inside.next? with
    | none => fail .wordBoundaryUnfinished (inside.since first)
    | some ch =>
      if !isNameCharacter ch then plain
      else
        let (name, close) := inside.takeWhile isNameCharacter
        if close.next? ≠ some '\x7d' then fail .wordBoundaryUnclosed (close.since c.place)
        else
          match boundaryNames.lookup (String.ofList name) with
          | none => fail .wordBoundaryUnknown (close.since inside.place)
          | some a =>
            let behind := close.bump
            .ok (.assertion (behind.since first) a, behind)

/-- Reads an escape, of which the backslash comes next. -/
def readEscape (c : Cursor) : Reading Atom :=
  let first := c.place
  let sign := c.bump
  match sign.next? with
  | none => fail .escapeUnfinished (sign.since first)
  | some ch =>
    let behind := sign.bump
    let span := behind.since first
    if ch.isDigit then fail .backreference span
    else if ch = 'x' then sign.readNumber first 2
    else if ch = 'u' then sign.readNumber first 4
    else if ch = 'U' then sign.readNumber first 8
    else if ch = 'p' ∨ ch = 'P' then sign.readProperty first
    else if ch = 'b' then behind.readBoundary first
    else if standsForItself ch then .ok (.literal ⟨span, ch, false⟩, behind)
    else
      match shortClasses.lookup ch, letterEscapes.lookup ch, assertionEscapes.lookup ch with
      | some (name, negated), _, _ => .ok (.charClass (.short span name negated), behind)
      | none, some char, _ => .ok (.literal ⟨span, char, false⟩, behind)
      | none, none, some a => .ok (.assertion span a, behind)
      | none, none, none => fail .escapeUnknown span

def readSign (c : Cursor) : Reading Atom :=
  match c.next? with
  | some '\\' => c.readEscape
  | some '.' => .ok (.dot c.nextSpan, c.bump)
  | some '^' => .ok (.assertion c.nextSpan .lineStart, c.bump)
  | some '$' => .ok (.assertion c.nextSpan .lineEnd, c.bump)
  | some char => .ok (.literal ⟨c.nextSpan, char, false⟩, c.bump)
  | none => fail .escapeUnfinished c.point

/-- Reads a single sign inside brackets, where only the backslash is not itself. -/
def readBracketSign (c : Cursor) : Reading Atom :=
  match c.next? with
  | some '\\' => c.readEscape
  | some char => .ok (.literal ⟨c.nextSpan, char, false⟩, c.bump)
  | none => fail .escapeUnfinished c.point

end Cursor

end NativeBridge.Pattern
