import NativeBridge.Pattern.Place

/-!
# Parsed patterns

A pattern is read into a tree. Each node keeps the span it was read from, because faults can still
be found when the tree is given its meaning.
-/

namespace NativeBridge.Pattern

/-- The settings that a pattern can switch. -/
inductive Flag where
  | ignoreCase | multiLine | dotMatchesLineEnd | swapGreed | scalars | carriageReturns | spaced
deriving DecidableEq, Repr

/-- Flags that are switched on or off together. -/
abbrev Settings := List (Flag × Bool)

/-- Conditions on the place between two characters. -/
inductive Assertion where
  | lineStart | lineEnd | textStart | textEnd
  | wordBoundary | noWordBoundary | wordStart | wordEnd | noWordBefore | noWordAfter
deriving DecidableEq, Repr

/-- A character that stands for itself. -/
structure Literal where
  span : Span
  char : Char
  /-- Whether it was written as a byte, with two hexadecimal digits. -/
  isByte : Bool
deriving DecidableEq, Repr

/-- Classes written with a letter behind a backslash. -/
inductive ShortClass where
  | digit | space | word
deriving DecidableEq, Repr

/-- Ways to combine two sets inside brackets. -/
inductive SetOperation where
  | intersection | difference | symmetricDifference
deriving DecidableEq, Repr

/-- A class of characters, or a part of one inside brackets. -/
inductive CharClass where
  | empty (span : Span)
  | literal (l : Literal)
  | range (span : Span) (first last : Literal)
  /-- The ranges of a class named between colons. -/
  | named (span : Span) (ranges : List (Nat × Nat)) (negated : Bool)
  | short (span : Span) (name : ShortClass) (negated : Bool)
  /-- A class by a property of its characters, possibly with a wanted value of the property. -/
  | property (span : Span) (name : List Char) (valued : Bool)
  | union (span : Span) (parts : List CharClass)
  | bracketed (span : Span) (negated : Bool) (content : CharClass)
  | operation (span : Span) (op : SetOperation) (left right : CharClass)

def CharClass.span : CharClass → Span
  | empty span => span
  | literal l => l.span
  | range span .. => span
  | named span .. => span
  | short span .. => span
  | property span .. => span
  | union span _ => span
  | bracketed span .. => span
  | operation span .. => span

/-- A class that holds what the parts hold; the span is that of no parts. -/
def CharClass.ofParts (span : Span) (parts : List CharClass) : CharClass :=
  match parts, parts.getLast? with
  | [part], _ => part
  | first :: _, some last => .union ⟨first.span.first, last.span.last⟩ parts
  | _, _ => .empty span

/-- A pattern or a part of one. -/
inductive Node where
  | empty (span : Span)
  /-- Switches flags for what follows. -/
  | flags (span : Span) (settings : Settings)
  | literal (l : Literal)
  | dot (span : Span)
  | assertion (span : Span) (a : Assertion)
  | charClass (c : CharClass)
  /-- The node repeated at least and, possibly, at most so many times. -/
  | repetition (span : Span) (least : Nat) (most : Option Nat) (node : Node)
  /-- The node with flags switched inside it; a group without settings captures its text. -/
  | group (span : Span) (settings : Option Settings) (node : Node)
  | alternation (span : Span) (branches : List Node)
  | concat (span : Span) (parts : List Node)

namespace Node

def span : Node → Span
  | empty span => span
  | flags span _ => span
  | literal l => l.span
  | dot span => span
  | assertion span _ => span
  | charClass c => c.span
  | repetition span .. => span
  | group span .. => span
  | alternation span _ => span
  | concat span _ => span

def ofParts (span : Span) (parts : List Node) : Node :=
  match parts with
  | [] => .empty span
  | [part] => part
  | _ => .concat span parts

/-- One of the branches, of which there is at least one. -/
def ofBranches (span : Span) (branches : List Node) : Node :=
  match branches with
  | [branch] => branch
  | _ => .alternation span branches

/-- Whether a repetition can stand behind the node. -/
def isOperand : Node → Bool
  | empty _ => false
  | flags .. => false
  | _ => true

end Node

end NativeBridge.Pattern
