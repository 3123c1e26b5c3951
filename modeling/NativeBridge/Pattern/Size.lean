import NativeBridge.Pattern.Matcher

/-!
# Sizes of matchers

A matcher is laid out as states: one for a byte of a character, a few for a class, copies of the
body for each count of a repetition. The number of bytes of all states is limited, so that short
patterns with huge counts are refused.
-/

namespace NativeBridge.Pattern

def stateSize : Nat := 32

/-- The number of bytes of a way from one state to another by a range of bytes. -/
def byteRangeSize : Nat := 8

/-- The number of bytes of a way to an alternative. -/
def alternativeSize : Nat := 4

def sizeLimit : Nat := 10485760

/-- The number of states of the byte sequences of a range of code points, and of the sequences. -/
def sequencesOfRange (range : Nat × Nat) : Nat × Nat :=
  let zones := [(0x0, 0x7f, 1, 1), (0x80, 0x7ff, 2, 1), (0x800, 0xffff, 12, 4),
    (0x10000, 0x10ffff, 12, 3)]
  zones.foldl (fun sum zone =>
    if range.1 ≤ zone.2.1 ∧ zone.1 ≤ range.2 then (sum.1 + zone.2.2.1, sum.2 + zone.2.2.2)
    else sum) (0, 0)

/-- The number of states of the byte sequences of all ranges, and of the sequences. -/
def sequencesOfRanges (ranges : List (Nat × Nat)) : Nat × Nat :=
  (ranges.map sequencesOfRange).foldl (fun sum one => (sum.1 + one.1, sum.2 + one.2)) (0, 0)

/-- The size of a set of characters as a choice between ranges. -/
def CharSet.sizeOfRanges (s : CharSet) : Nat :=
  if s.isAscii then 2 * stateSize + byteRangeSize * s.ranges.length
  else
    let sequences := sequencesOfRanges s.ranges
    (2 + sequences.1) * stateSize + alternativeSize * sequences.2

def CharSet.size (s : CharSet) : Nat :=
  match s.ranges with
  | [] => stateSize
  | [(first, last)] =>
    if first = last then (Char.ofNat first).utf8Size * stateSize else s.sizeOfRanges
  | _ => s.sizeOfRanges

/-- The size of a matcher. The branches of an alternative share the states where it begins and where
it ends. -/
def Matcher.size : Matcher → Nat
  | .empty => stateSize
  | .oneOf s => s.size
  | .look _ => stateSize
  | .sequence first second => first.size + second.size
  | .either first second =>
    let others := match second with
      | .either .. => second.size
      | _ => second.size + 2 * stateSize + alternativeSize
    first.size + alternativeSize + others
  | .repetition least most body =>
    let choice := stateSize + 2 * alternativeSize
    match most with
    | none => max least 1 * body.size + choice
    | some most =>
      if most = least then least * body.size
      else least * body.size + (most - least) * (body.size + choice) + stateSize
  | .capture body => body.size + 2 * stateSize

/-- The size of what surrounds a matcher: a loop over the bytes before a match, and the states where
a match begins and ends. -/
def searchSize : Nat := 5 * stateSize + 2 * alternativeSize

/-- Whether a matcher is larger than a pattern may be. -/
def Matcher.isTooLarge (m : Matcher) : Bool := decide (sizeLimit < searchSize + m.size)

end NativeBridge.Pattern
