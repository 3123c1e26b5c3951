import NativeBridge.Pattern.CharSet

/-!
# Matchers

A matcher says which stretches of a text it accepts. It is run on all places of a text at once: from
the places where a stretch may begin it computes the places where such a stretch may end. A text
matches if some stretch of it is accepted. Repeating more often than the text is long reaches no
further places, so repetitions with large counts are cut short.
-/

namespace NativeBridge.Pattern

/-- Conditions on the place between two characters, as they are decided. -/
inductive Look where
  | textStart | textEnd
  /-- At the beginning or the end of a line; lines may also end in a carriage return. -/
  | lineStart (carriageReturns : Bool)
  | lineEnd (carriageReturns : Bool)
  /-- Where the characters before and after are both in words, or one, or none of them. -/
  | word (accepts : Bool → Bool → Bool)
  /-- The same, where words are made of letters of any script. -/
  | scalarWord

/-- Accepts stretches of a text. -/
inductive Matcher where
  /-- The empty stretch. -/
  | empty
  /-- One character of a set. -/
  | oneOf (s : CharSet)
  /-- The empty stretch, where a condition holds. -/
  | look (l : Look)
  /-- A stretch of the first and then one of the second. -/
  | sequence (first second : Matcher)
  /-- A stretch of either. -/
  | either (first second : Matcher)
  /-- So many stretches, one after the other. -/
  | repetition (least : Nat) (most : Option Nat) (body : Matcher)
  /-- A stretch whose place is kept. -/
  | capture (body : Matcher)

/-- The characters before and after each place of a text, the beginning and the end included. -/
def surroundings (before : Option Char) : List Char → List (Option Char × Option Char)
  | [] => [(before, none)]
  | c :: rest => (before, some c) :: surroundings (some c) rest

/-- Whether a character is an ASCII letter, digit or underscore. -/
def isWordCharacter (c : Option Char) : Bool :=
  match c with
  | some c => c.isAlphanum || c == '_'
  | none => false

namespace Look

/-- Whether the condition holds between two characters. -/
def holds (l : Look) (before after : Option Char) : Bool :=
  match l with
  | textStart => before.isNone
  | textEnd => after.isNone
  | lineStart false => before.isNone || before == some '\n'
  | lineStart true =>
    before.isNone || before == some '\n' || (before == some '\r' && after != some '\n')
  | lineEnd false => after.isNone || after == some '\n'
  | lineEnd true =>
    after.isNone || after == some '\r' || (after == some '\n' && before != some '\r')
  | word accepts => accepts (isWordCharacter before) (isWordCharacter after)
  | scalarWord => false

end Look

/-- Which places of a text are marked, from its beginning to its end. -/
abbrev Marks := List Bool

namespace Marks

def union (a b : Marks) : Marks := List.zipWith (· || ·) a b

/-- The places behind a marked place and a character that is accepted. -/
def shift (accept : Char → Bool) (marks : Marks) (text : List Char) : Marks :=
  false :: List.zipWith (fun marked c => marked && accept c) marks text

end Marks

/-- Applies a step so many times, but stops when a step changes nothing. -/
def iterate (step : Marks → Marks) : Nat → Marks → Marks
  | 0, marks => marks
  | n + 1, marks =>
    let next := step marks
    if next = marks then marks else iterate step n next

/-- The marks that at most so many steps reach, those of no step included. -/
def accumulate (step : Marks → Marks) : Nat → Marks → Marks
  | 0, marks => marks
  | n + 1, marks =>
    let next := marks.union (step marks)
    if next = marks then marks else accumulate step n next

namespace Matcher

/-- The places where accepted stretches end that begin at marked places. -/
def ends (text : List Char) : Matcher → Marks → Marks
  | empty, marks => marks
  | oneOf s, marks => marks.shift s.contains text
  | look l, marks =>
    List.zipWith (fun marked (around : Option Char × Option Char) =>
      marked && l.holds around.1 around.2) marks (surroundings none text)
  | sequence first second, marks => second.ends text (first.ends text marks)
  | either first second, marks => (first.ends text marks).union (second.ends text marks)
  | repetition least most body, marks =>
    let enough := text.length + 1
    let begun := iterate (body.ends text) (min least enough) marks
    match most with
    | none => accumulate (body.ends text) enough begun
    | some most => accumulate (body.ends text) (min (most - least) enough) begun
  | capture body, marks => body.ends text marks

/-- Whether some stretch of the text is accepted. -/
def occursIn (m : Matcher) (text : List Char) : Bool :=
  (m.ends text (List.replicate (text.length + 1) true)).contains true

/-- Whether the matcher depends on words of any script. -/
def needsScalarWords : Matcher → Bool
  | empty => false
  | oneOf _ => false
  | look .scalarWord => true
  | look _ => false
  | sequence first second => first.needsScalarWords || second.needsScalarWords
  | either first second => first.needsScalarWords || second.needsScalarWords
  | repetition _ _ body => body.needsScalarWords
  | capture body => body.needsScalarWords

/-- Whether the matcher accepts the empty stretch only. -/
def isEmptyOnly : Matcher → Bool
  | empty => true
  | oneOf _ => false
  | look _ => true
  | sequence first second => first.isEmptyOnly && second.isEmptyOnly
  | either first second => first.isEmptyOnly && second.isEmptyOnly
  | repetition _ _ body => body.isEmptyOnly
  | capture body => body.isEmptyOnly

/-- What a matcher repeats, if it accepts one stretch of that and perhaps more, and how many it asks
for: none or one. -/
def repeatedPart? : Matcher → Option (Nat × Matcher)
  | repetition least none body => if least ≤ 1 then some (least, body) else none
  | repetition 0 (some 1) body => some (0, (body.repeatedPart?.map Prod.snd).getD body)
  | capture body => body.repeatedPart?
  | _ => none

/-- A repetition of a matcher. Repeating the empty stretch once is as good as repeating it often,
and repeating never asks for nothing. Repeating a repetition without limit repeats what it
repeats. -/
def repeated (least : Nat) (most : Option Nat) (body : Matcher) : Matcher :=
  let once := body.isEmptyOnly
  let least := if once then min least 1 else least
  let most := if once then some (min (most.getD 1) 1) else most
  match most, if least ≤ 1 then body.repeatedPart? else none with
  | some 0, _ => empty
  | none, some (fewest, part) => repetition (min least fewest) none part
  | most, _ => if least = 1 ∧ most = some 1 then body else repetition least most body

end Matcher

end NativeBridge.Pattern
