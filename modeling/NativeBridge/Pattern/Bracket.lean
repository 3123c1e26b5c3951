import NativeBridge.Pattern.Escape

/-!
# Classes in brackets

Inside brackets stand characters, ranges, escaped classes, classes named between colons, further
brackets, and three operators on what stands before and after them. The operators bind more weakly
than standing side by side, and a chain of them groups to the left. The reader keeps the brackets
that are open, innermost first, each with what has been read inside it.
-/

namespace NativeBridge.Pattern

/-- A bracket that is open. -/
structure OpenBracket where
  /-- The span of the opening bracket with the signs that belong to it. -/
  span : Span
  negated : Bool
  /-- What stands before the operator that was read last, and that operator. -/
  left : Option (CharClass × SetOperation)
  /-- Where the parts behind that operator begin. -/
  partsFrom : Place
  /-- The parts read since, last first. -/
  parts : List CharClass

namespace OpenBracket

def add (b : OpenBracket) (part : CharClass) : OpenBracket := { b with parts := part :: b.parts }

def content (b : OpenBracket) : CharClass :=
  let right := CharClass.ofParts (.point b.partsFrom) b.parts.reverse
  match b.left with
  | none => right
  | some (left, op) => .operation ⟨left.span.first, right.span.last⟩ op left right

/-- The bracket after an operator; `place` is behind the operator. -/
def operate (b : OpenBracket) (op : SetOperation) (place : Place) : OpenBracket :=
  { b with left := some (b.content, op), partsFrom := place, parts := [] }

/-- The class of the bracket, which is closed at a place. -/
def close (b : OpenBracket) (place : Place) : CharClass :=
  .bracketed ⟨b.span.first, place⟩ b.negated b.content

end OpenBracket

/-- The classes that have a name between colons, with their ranges. -/
def namedClasses : List (String × List (Nat × Nat)) := [
  ("alnum", [(0x30, 0x39), (0x41, 0x5a), (0x61, 0x7a)]),
  ("alpha", [(0x41, 0x5a), (0x61, 0x7a)]),
  ("ascii", [(0x00, 0x7f)]),
  ("blank", [(0x09, 0x09), (0x20, 0x20)]),
  ("cntrl", [(0x00, 0x1f), (0x7f, 0x7f)]),
  ("digit", [(0x30, 0x39)]),
  ("graph", [(0x21, 0x7e)]),
  ("lower", [(0x61, 0x7a)]),
  ("print", [(0x20, 0x7e)]),
  ("punct", [(0x21, 0x2f), (0x3a, 0x40), (0x5b, 0x60), (0x7b, 0x7e)]),
  ("space", [(0x09, 0x0d), (0x20, 0x20)]),
  ("upper", [(0x41, 0x5a)]),
  ("word", [(0x30, 0x39), (0x41, 0x5a), (0x5f, 0x5f), (0x61, 0x7a)]),
  ("xdigit", [(0x30, 0x39), (0x41, 0x46), (0x61, 0x66)])]

namespace Cursor

/-- Reads a class named between colons, if a well-formed one comes next. -/
def named? (c : Cursor) : Option (CharClass × Cursor) := do
  let inside ← c.behind? ['[', ':']
  let negated := inside.next? = some '^'
  let inside := if negated then inside.bump else inside
  let (name, close) := inside.takeWhilePlain (· ≠ ':')
  let behind ← close.behind? [':', ']']
  let ranges ← namedClasses.lookup (String.ofList name)
  return (.named (behind.since c.place) ranges negated, behind)

/-- Reads the hyphens that stand for themselves at the beginning of a bracket, which begins at
`first`. At most `limit` are read. -/
def readHyphens (first : Place) : (limit : Nat) → Cursor → Reading (List CharClass)
  | 0, c => .ok ([], c)
  | limit + 1, c =>
    if c.next? ≠ some '-' then .ok ([], c)
    else if c.advance.atEnd then fail .classUnclosed (.point first)
    else
      match readHyphens first limit c.advance with
      | .ok (more, behind) => .ok (.literal ⟨c.nextSpan, '-', false⟩ :: more, behind)
      | .error fault => .error fault

/-- Reads the beginning of a bracket: the bracket itself, the sign of negation, and hyphens or one
closing bracket that stand for themselves. -/
def openBracket (c : Cursor) : Reading OpenBracket :=
  let first := c.place
  let inside := c.advance
  if inside.atEnd then fail .classUnclosed (inside.since first)
  else
    let negated := inside.next? = some '^'
    let body := if negated then inside.advance else inside
    if body.atEnd then fail .classUnclosed (body.since first)
    else
      match body.readHyphens first body.rest.length with
      | .error fault => .error fault
      | .ok (hyphens, behind) =>
        let opened := fun (parts : List CharClass) (behind : Cursor) =>
          (⟨behind.since first, negated, none, body.place, parts⟩, behind)
        if hyphens.isEmpty ∧ behind.next? = some ']' then
          let literal := CharClass.literal ⟨behind.nextSpan, ']', false⟩
          if behind.advance.atEnd then fail .classUnclosed (behind.advance.since first)
          else .ok (opened [literal] behind.advance)
        else .ok (opened hyphens.reverse behind)

def partOf (sign : Atom) : Except Fault CharClass :=
  match sign with
  | .literal l => .ok (.literal l)
  | .charClass c => .ok c
  | _ => fail .classEscapeInvalid sign.span

def boundaryOf (sign : Atom) : Except Fault Literal :=
  match sign with
  | .literal l => .ok l
  | _ => fail .classRangeBoundary sign.span

def rangeOf (low high : Atom) : Except Fault CharClass := do
  let span : Span := ⟨low.span.first, high.span.last⟩
  let first ← boundaryOf low
  let last ← boundaryOf high
  if last.char < first.char then fail .classRangeInvalid span
  else return .range span first last

/-- Reads a range, or a single sign if no range begins there; `unclosed` is the span of the
innermost open bracket. -/
def readRange (unclosed : Span) (c : Cursor) : Reading CharClass :=
  match c.readBracketSign with
  | .error fault => .error fault
  | .ok (low, behind) =>
    let behind := behind.skip
    if behind.atEnd then fail .classUnclosed unclosed
    else if behind.next? ≠ some '-' ∨ behind.second? = some ']' ∨ behind.second? = some '-' then
      (partOf low).map fun part => (part, behind)
    else
      let upper := behind.advance
      if upper.atEnd then fail .classUnclosed unclosed
      else
        match upper.readBracketSign with
        | .error fault => .error fault
        | .ok (high, behind) => (rangeOf low high).map fun part => (part, behind)

/-- The operator that comes next inside a bracket, and the cursor behind it. -/
def operator? (c : Cursor) : Option (SetOperation × Cursor) :=
  let reading := fun (signs : List Char) (op : SetOperation) =>
    (c.behind? signs).map fun behind => (op, behind)
  reading ['&', '&'] .intersection <|> reading ['-', '-'] .difference <|>
    reading ['~', '~'] .symmetricDifference

/-- Reads the inside of brackets up to the end of the outermost one, with `outer` the brackets
around the innermost one. At most `limit` parts are read. -/
def readBrackets : (limit : Nat) → (outer : List OpenBracket) → (inner : OpenBracket) → Cursor →
    Reading CharClass
  | 0, _, inner, _ => fail .classUnclosed inner.span
  | limit + 1, outer, inner, c =>
    let c := c.skip
    match c.next?, c.operator? with
    | none, _ => fail .classUnclosed inner.span
    | some '[', _ =>
      match c.named? with
      | some (part, behind) => readBrackets limit outer (inner.add part) behind
      | none =>
        match c.openBracket with
        | .ok (nested, behind) => readBrackets limit (inner :: outer) nested behind
        | .error fault => .error fault
    | some ']', _ =>
      let behind := c.bump
      let closed := inner.close behind.place
      match outer with
      | [] => .ok (closed, behind)
      | parent :: outer => readBrackets limit outer (parent.add closed) behind
    | some _, some (op, behind) =>
      readBrackets limit outer (inner.operate op behind.place) behind
    | some _, none =>
      match c.readRange inner.span with
      | .ok (part, behind) => readBrackets limit outer (inner.add part) behind
      | .error fault => .error fault

/-- Reads a class in brackets, of which the first bracket comes next. -/
def readBracketed (c : Cursor) : Reading CharClass :=
  match c.openBracket with
  | .ok (opened, behind) => readBrackets (c.rest.length + 1) [] opened behind
  | .error fault => .error fault

end Cursor

end NativeBridge.Pattern
