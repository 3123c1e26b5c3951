/-!
# Places in a pattern

A place is a line and a column of the text of a pattern, both counted from one. A span is the
stretch between two places.
-/

namespace NativeBridge.Pattern

/-- A line and a column. -/
structure Place where
  line : Nat
  column : Nat
deriving DecidableEq, Repr

namespace Place

def start : Place := ⟨1, 1⟩

def after (p : Place) (c : Char) : Place :=
  if c = '\n' then ⟨p.line + 1, 1⟩ else ⟨p.line, p.column + 1⟩

/-- Whether a place comes before another or is the same. -/
def isUpTo (p q : Place) : Bool :=
  decide (p.line < q.line) || (p.line == q.line && decide (p.column ≤ q.column))

end Place

/-- The stretch from one place up to another. -/
structure Span where
  first : Place
  last : Place
deriving DecidableEq, Repr

namespace Span

def point (p : Place) : Span := ⟨p, p⟩

/-- Whether the span begins and ends on one line. -/
def isOnOneLine (s : Span) : Bool := s.first.line == s.last.line

/-- Whether a span is ordered before another: by its beginning, then by its end. -/
def isUpTo (s t : Span) : Bool :=
  if s.first = t.first then s.last.isUpTo t.last else s.first.isUpTo t.first

end Span

end NativeBridge.Pattern
