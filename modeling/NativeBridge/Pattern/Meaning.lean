import NativeBridge.Pattern.Fault
import NativeBridge.Pattern.Matcher
import NativeBridge.Pattern.Node

/-!
# Meanings of patterns

The tree of a pattern is given its meaning as a matcher. Flags that a pattern switches hold for what
follows up to the end of the group. By default a pattern is about scalar values. Classes that would
need tables of all scripts are refused then, as is ignoring the case; where a pattern asks for bytes
instead, these are about ASCII, and what would break a character apart is refused.
-/

namespace NativeBridge.Pattern

/-- The flags that hold at a place of a pattern. -/
structure Mode where
  ignoreCase : Bool
  multiLine : Bool
  dotMatchesLineEnd : Bool
  scalars : Bool
  carriageReturns : Bool
deriving DecidableEq, Repr

namespace Mode

def default : Mode := ⟨false, false, false, true, false⟩

def switched (m : Mode) (settings : Settings) : Mode :=
  let value := fun (flag : Flag) (before : Bool) => (settings.lookup flag).getD before
  ⟨value .ignoreCase m.ignoreCase, value .multiLine m.multiLine,
    value .dotMatchesLineEnd m.dotMatchesLineEnd, value .scalars m.scalars,
    value .carriageReturns m.carriageReturns⟩

def lastPoint (m : Mode) : Nat := if m.scalars then lastScalar else lastByte

end Mode

def refuse {α : Type} (cause : Cause) (span : Span) : Except Fault α :=
  .error (.single cause span)

/-- The set with both cases of its letters where the case is ignored. -/
def CharSet.folded (s : CharSet) (m : Mode) (span : Span) : Except Fault CharSet :=
  if !m.ignoreCase then .ok s
  else if !m.scalars then .ok s.withBothCases
  else if s.caseClosed ∨ s.ranges.isEmpty then .ok { s with caseClosed := true }
  else refuse .caseUnavailable span

/-- The set, refused where it would break characters apart. -/
def CharSet.wellFormed (s : CharSet) (m : Mode) (span : Span) : Except Fault CharSet :=
  if !m.scalars ∧ !s.isAscii then refuse .brokenText span else .ok s

/-- The set with both cases where the case is ignored, and then negated if wanted. -/
def CharSet.finished (s : CharSet) (m : Mode) (span : Span) (negated : Bool) :
    Except Fault CharSet := do
  let folded ← s.folded m span
  CharSet.wellFormed (if negated then folded.complement m.lastPoint else folded) m span

/-- The character that a literal outside brackets stands for. -/
def Literal.value (l : Literal) (m : Mode) : Except Fault Char :=
  if !m.scalars ∧ l.isByte ∧ lastAscii < l.char.toNat then refuse .brokenText l.span
  else .ok l.char

/-- The code point that a literal inside brackets stands for. -/
def Literal.codePoint (l : Literal) (m : Mode) : Except Fault Nat := do
  let char ← l.value m
  if !m.scalars ∧ lastAscii < char.toNat then refuse .scalarNotAllowed l.span
  else return char.toNat

/-- The ASCII ranges of a class written with a letter. -/
def ShortClass.ranges : ShortClass → List (Nat × Nat)
  | digit => [(0x30, 0x39)]
  | space => [(0x09, 0x0d), (0x20, 0x20)]
  | word => [(0x30, 0x39), (0x41, 0x5a), (0x5f, 0x5f), (0x61, 0x7a)]

def ShortClass.set (name : ShortClass) (m : Mode) (span : Span) (negated : Bool) :
    Except Fault CharSet :=
  if m.scalars then refuse .namedClassUnavailable span
  else
    let s := CharSet.ofRanges name.ranges
    CharSet.wellFormed (if negated then s.complement m.lastPoint else s) m span

/-- The name of a property as it is compared: in small letters, without what only divides words, and
without a leading `is`. -/
def propertyKey (name : List Char) : String :=
  let text := name.map Char.toLower
  let text := if ['i', 's'].isPrefixOf text then text.drop 2 else text
  String.ofList (text.filter fun c => decide (c.toNat ≤ lastAscii) && !"_- ".toList.contains c)

/-- Why a class by a property is refused: no properties are known. Three short names can only be
values of the general category, and no values are known either. -/
def propertyCause (m : Mode) (name : List Char) (valued : Bool) : Cause :=
  if !m.scalars then .scalarNotAllowed
  else if !valued ∧ ["cf", "sc", "lc"].contains (propertyKey name) then .propertyValueUnknown
  else .propertyUnknown

/-- The set that an operator makes of two sets. -/
def SetOperation.apply : SetOperation → CharSet → CharSet → CharSet
  | intersection, s, t => s.inter t
  | difference, s, t => s.diff t
  | symmetricDifference, s, t => s.symmDiff t

mutual

/-- The set with the characters of a class added. -/
def CharClass.addTo (m : Mode) (s : CharSet) : CharClass → Except Fault CharSet
  | .empty _ => .ok s
  | .literal l => do
    let n ← l.codePoint m
    return s.insert n n
  | .range _ first last => do
    let low ← first.codePoint m
    let high ← last.codePoint m
    return s.insert low high
  | .named span ranges negated => do
    let named ← (CharSet.ofRanges ranges).finished m span negated
    return s.union named
  | .short span name negated => do
    let short ← name.set m span negated
    return s.union short
  | .property span name valued => refuse (propertyCause m name valued) span
  | .union _ parts => CharClass.addAllTo m s parts
  | .bracketed span negated content => do
    let inside ← content.addTo m .empty
    let inside ← inside.finished m span negated
    return s.union inside
  | .operation _ op left right => do
    let leftSet ← left.addTo m .empty
    let rightSet ← right.addTo m .empty
    let rightSet ← rightSet.folded m right.span
    let leftSet ← leftSet.folded m left.span
    return s.union (op.apply leftSet rightSet)

/-- The set with the characters of all classes added. -/
def CharClass.addAllTo (m : Mode) (s : CharSet) : List CharClass → Except Fault CharSet
  | [] => .ok s
  | part :: rest => do
    let added ← part.addTo m s
    CharClass.addAllTo m added rest

end

def Literal.matcher (l : Literal) (m : Mode) : Except Fault Matcher := do
  let char ← l.value m
  let s : CharSet := ⟨[(char.toNat, char.toNat)], false⟩
  if m.ignoreCase ∧ m.scalars then refuse .caseUnavailable l.span
  else return .oneOf (if m.ignoreCase then s.withBothCases else s)

def dotSet (m : Mode) : CharSet :=
  if m.dotMatchesLineEnd then CharSet.empty.complement lastScalar
  else
    let ends := if m.carriageReturns then [(0x0a, 0x0a), (0x0d, 0x0d)] else [(0x0a, 0x0a)]
    (CharSet.ofRanges ends).complement lastScalar

/-- A condition on words: on those of any script, or on those of ASCII characters. -/
def wordLook (m : Mode) (accepts : Bool → Bool → Bool) : Look :=
  if m.scalars then .scalarWord else .word accepts

/-- The condition that an assertion stands for. -/
def Assertion.look (a : Assertion) (m : Mode) : Look :=
  match a with
  | lineStart => if m.multiLine then .lineStart m.carriageReturns else .textStart
  | lineEnd => if m.multiLine then .lineEnd m.carriageReturns else .textEnd
  | textStart => .textStart
  | textEnd => .textEnd
  | wordBoundary => wordLook m fun before after => before != after
  | noWordBoundary => wordLook m fun before after => before == after
  | wordStart => wordLook m fun before after => !before && after
  | wordEnd => wordLook m fun before after => before && !after
  | noWordBefore => wordLook m fun before _ => !before
  | noWordAfter => wordLook m fun _ after => !after

mutual

/-- The matcher of a node, and the flags that hold behind it. -/
def Node.matcher (m : Mode) : Node → Except Fault (Matcher × Mode)
  | .empty _ => .ok (.empty, m)
  | .flags _ settings => .ok (.empty, m.switched settings)
  | .literal l => do
    let made ← l.matcher m
    return (made, m)
  | .dot span => if m.scalars then .ok (.oneOf (dotSet m), m) else refuse .brokenText span
  | .assertion _ a => .ok (.look (a.look m), m)
  | .charClass c => do
    let s ← c.addTo m .empty
    return (.oneOf s, m)
  | .repetition _ least most node => do
    let (body, behind) ← node.matcher m
    return (.repeated least most body, behind)
  | .group _ settings node => do
    let (body, _) ← node.matcher (m.switched (settings.getD []))
    return (if settings.isNone then .capture body else body, m)
  | .alternation _ branches => Node.matcherOfBranches m branches
  | .concat _ parts => Node.matcherOfParts m parts

/-- The matcher of branches, and the flags that hold behind them. -/
def Node.matcherOfBranches (m : Mode) : List Node → Except Fault (Matcher × Mode)
  | [] => .ok (.empty, m)
  | [node] => node.matcher m
  | node :: rest => do
    let (first, m) ← node.matcher m
    let (second, m) ← Node.matcherOfBranches m rest
    return (.either first second, m)

/-- The matcher of parts, and the flags that hold behind them. -/
def Node.matcherOfParts (m : Mode) : List Node → Except Fault (Matcher × Mode)
  | [] => .ok (.empty, m)
  | [node] => node.matcher m
  | node :: rest => do
    let (first, m) ← node.matcher m
    let (second, m) ← Node.matcherOfParts m rest
    return (.sequence first second, m)

end

end NativeBridge.Pattern
