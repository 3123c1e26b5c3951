import NativeBridge.Text.Ranges

/-!
# Sets of characters

A set of characters is a list of ranges of code points, in increasing order and with gaps between
them, inside a universe that ends at some last code point. A set remembers whether it is known to
hold with every letter the same letter in the other case. That is so of a set nothing was put into
and of the whole universe, and combining sets of which it is known keeps it known.
-/

namespace NativeBridge.Pattern

/-- A set of characters. -/
structure CharSet where
  /-- The first and the last code point of each range. -/
  ranges : List (Nat × Nat)
  /-- Whether the set is known to be closed under change of case. -/
  caseClosed : Bool
deriving DecidableEq, Repr

def lastScalar : Nat := 0x10ffff

def lastByte : Nat := 0xff

def lastAscii : Nat := 0x7f

namespace CharSet

/-- Puts a range in front of ranges that begin no earlier, joining those it touches. -/
def joinRange (range : Nat × Nat) : List (Nat × Nat) → List (Nat × Nat)
  | [] => [range]
  | next :: rest =>
    if next.1 ≤ range.2 + 1 then joinRange (range.1, max range.2 next.2) rest
    else range :: next :: rest

/-- The same code points in ranges that are in order and have gaps between them. -/
def arrange (ranges : List (Nat × Nat)) : List (Nat × Nat) :=
  (ranges.mergeSort fun a b => decide (a.1 ≤ b.1)).foldr joinRange []

/-- The code points from `first` to `last` that are in none of the ranges, which are in order. -/
def gaps (first last : Nat) : List (Nat × Nat) → List (Nat × Nat)
  | [] => if first ≤ last then [(first, last)] else []
  | range :: rest =>
    if first < range.1 then (first, range.1 - 1) :: gaps (range.2 + 1) last rest
    else gaps (range.2 + 1) last rest

def empty : CharSet := ⟨[], true⟩

def ofRanges (ranges : List (Nat × Nat)) : CharSet := ⟨arrange ranges, ranges.isEmpty⟩

def contains (s : CharSet) (c : Char) : Bool := Text.inRanges s.ranges c.toNat

/-- Whether the set holds ASCII characters only. -/
def isAscii (s : CharSet) : Bool := s.ranges.all fun range => decide (range.2 ≤ lastAscii)

def insert (s : CharSet) (first last : Nat) : CharSet :=
  ⟨arrange ((first, last) :: s.ranges), false⟩

def union (s t : CharSet) : CharSet :=
  if t.ranges.isEmpty ∨ s.ranges = t.ranges then s
  else ⟨arrange (s.ranges ++ t.ranges), s.caseClosed && t.caseClosed⟩

/-- The ranges of code points that are in both lists of ranges. -/
def common (a b : List (Nat × Nat)) : List (Nat × Nat) :=
  a.flatMap fun r => b.filterMap fun q =>
    if max r.1 q.1 ≤ min r.2 q.2 then some (max r.1 q.1, min r.2 q.2) else none

def inter (s t : CharSet) : CharSet :=
  if s.ranges.isEmpty then s
  else if t.ranges.isEmpty then empty
  else ⟨common s.ranges t.ranges, s.caseClosed && t.caseClosed⟩

/-- The characters of the first set that are not in the second. -/
def diff (s t : CharSet) : CharSet :=
  if s.ranges.isEmpty ∨ t.ranges.isEmpty then s
  else ⟨common s.ranges (gaps 0 lastScalar t.ranges), s.caseClosed && t.caseClosed⟩

def symmDiff (s t : CharSet) : CharSet := (s.union t).diff (s.inter t)

/-- The characters up to `last` that are not in the set. -/
def complement (last : Nat) (s : CharSet) : CharSet :=
  if s.ranges.isEmpty then ⟨[(0, last)], true⟩ else ⟨gaps 0 last s.ranges, s.caseClosed⟩

/-- The letters from `first` to `last` that the set holds, moved by a distance. -/
def moved (s : CharSet) (first last : Nat) (move : Nat → Nat) : List (Nat × Nat) :=
  (common s.ranges [(first, last)]).map fun range => (move range.1, move range.2)

/-- The set with the ASCII letters of the other case added. -/
def withBothCases (s : CharSet) : CharSet :=
  if s.caseClosed then s
  else
    ⟨arrange (s.ranges ++ s.moved 0x41 0x5a (· + 32) ++ s.moved 0x61 0x7a (· - 32)), true⟩

end CharSet

end NativeBridge.Pattern
