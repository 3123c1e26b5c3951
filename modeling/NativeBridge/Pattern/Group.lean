import NativeBridge.Pattern.Bracket
import NativeBridge.Text.Letter

/-!
# Groups and repetitions

A group opens with a parenthesis. A question mark behind it announces a name for what the group
captures, flags for the inside of the group, or flags for what follows and no group at all. A
repetition stands behind what it repeats: a sign, or counts in braces.
-/

namespace NativeBridge.Pattern

/-- The names given to groups, with their spans. -/
abbrev GroupNames := List (List Char × Span)

/-- How often a repetition repeats: at least and, possibly, at most. -/
abbrev Counts := Nat × Option Nat

/-- What an opening parenthesis turns out to begin. -/
inductive Opening where
  /-- Flags for what follows. -/
  | flags (settings : Settings)
  /-- A group, with flags for its inside unless it captures. -/
  | group (settings : Option Settings)
deriving DecidableEq, Repr

def flagLetters : List (Char × Flag) := [
  ('i', .ignoreCase), ('m', .multiLine), ('s', .dotMatchesLineEnd), ('U', .swapGreed),
  ('u', .scalars), ('R', .carriageReturns), ('x', .spaced)]

/-- What has been read of a list of flags. -/
structure FlagList where
  /-- The flags with their spans, and whether they are switched on. -/
  items : List (Flag × Bool × Span)
  /-- The sign that switches off what follows it. -/
  negation : Option Span
  /-- Whether that sign was read last. -/
  dangling : Bool

namespace FlagList

def settings (f : FlagList) : Settings := f.items.map fun item => (item.1, item.2.1)

end FlagList

namespace Cursor

/-- Takes note of the sign or letter of a flag that comes next. -/
def noteFlag (c : Cursor) (letter : Char) (read : FlagList) : Except Fault FlagList :=
  let span := c.nextSpan
  if letter = '-' then
    match read.negation with
    | some earlier => .error ⟨.flagNegationRepeated, span, some earlier⟩
    | none => .ok { read with negation := some span, dangling := true }
  else
    match flagLetters.lookup letter with
    | none => fail .flagUnknown span
    | some flag =>
      match read.items.lookup flag with
      | some (_, earlier) => .error ⟨.flagDuplicate, span, some earlier⟩
      | none =>
        .ok { read with
          items := read.items ++ [(flag, read.negation.isNone, span)]
          dangling := false }

/-- Reads flags up to the colon or parenthesis that ends them. At most `limit` signs are read. -/
def readFlags : (limit : Nat) → FlagList → Cursor → Reading FlagList
  | 0, _, c => fail .flagUnfinished c.point
  | limit + 1, read, c =>
    match c.next? with
    | none => fail .flagUnfinished c.point
    | some letter =>
      if letter = ':' ∨ letter = ')' then
        match read.negation, read.dangling with
        | some span, true => fail .flagNegationDangling span
        | _, _ => .ok (read, c)
      else
        match c.noteFlag letter read with
        | .ok read => readFlags limit read c.bump
        | .error fault => .error fault

/-- Whether a character can stand in the name of a group. -/
def isNameCharacter (isFirst : Bool) (c : Char) : Bool :=
  c == '_' || (if isFirst then Text.isLetter c
    else c == '.' || c == '[' || c == ']' || Text.isLetterOrNumber c)

/-- Reads the name of a group up to the angle bracket that ends it. -/
def readName (names : GroupNames) (c : Cursor) : Reading GroupNames :=
  let first := c.takeWhilePlain (isNameCharacter true)
  let (name, close) :=
    match first.1 with
    | [] => ([], c)
    | letter :: _ =>
      let more := c.bump.takeWhilePlain (isNameCharacter false)
      (letter :: more.1, more.2)
  match close.next? with
  | none => fail .nameUnclosed close.point
  | some sign =>
    let span := close.since c.place
    if sign ≠ '>' then fail .nameInvalid close.nextSpan
    else if name.isEmpty then fail .nameEmpty (.point c.place)
    else
      match names.lookup name with
      | some earlier => .error ⟨.nameDuplicate, span, some earlier⟩
      | none => .ok ((name, span) :: names, close.bump)

/-- The signs of looking ahead or behind, which are not supported. -/
def lookAroundSigns : List (List Char) := ["?=", "?!", "?<=", "?<!"].map String.toList

/-- Reads the beginning of a group, of which the parenthesis comes next. -/
def readOpening (names : GroupNames) (c : Cursor) : Reading (Opening × GroupNames) :=
  let inside := c.advance
  match lookAroundSigns.findSome? inside.behind? with
  | some behind => fail .lookAround (behind.since c.place)
  | none =>
    match inside.behind? ['?', 'P', '<'] <|> inside.behind? ['?', '<'], inside.behind? ['?'] with
    | some named, _ =>
      (named.readName names).map fun read => ((.group none, read.1), read.2)
    | none, some flagged =>
      if flagged.atEnd then fail .groupUnclosed c.nextSpan
      else
        match flagged.readFlags (flagged.rest.length + 1) ⟨[], none, false⟩ with
        | .error fault => .error fault
        | .ok (read, close) =>
          if close.next? = some ':' then
            .ok ((.group (some read.settings), names), close.bump)
          else if read.items.isEmpty then fail .operandMissing inside.point
          else .ok ((.flags read.settings, names), close.bump)
    | none, none => .ok ((.group none, names), inside)

def greatestCount : Nat := UInt32.size - 1

/-- Reads a decimal number between blanks; a missing or too large number is told apart from the
cursor behind it. -/
def readCount (c : Cursor) : Except Fault Nat × Cursor :=
  let digits := (c.takeWhilePlain Text.isBlank).2
  let (text, behind) := digits.takeWhile Char.isDigit
  let span := behind.since digits.place
  let number := (String.ofList text).toNat?
  let read := match number with
    | none => fail .countEmpty span
    | some n => if n ≤ greatestCount then .ok n else fail .countTooLarge span
  (read, (behind.takeWhile Text.isBlank).2)

/-- Reads the counts of a repetition up to the closing brace; `first` is the place of the opening
one, behind which the cursor stands. -/
def readCounts (first : Place) (c : Cursor) : Reading Counts :=
  if c.atEnd then fail .countUnclosed (c.since first)
  else
    let (least, behind) := c.readCount
    if behind.atEnd then fail .countUnclosed (behind.since first)
    else if behind.next? ≠ some ',' then least.map fun n => ((n, some n), behind)
    else
      let behind := behind.advance
      if behind.atEnd then fail .countUnclosed (behind.since first)
      else if behind.next? = some '\x7d' then least.map fun n => ((n, none), behind)
      else
        match least with
        | .error fault => .error fault
        | .ok n =>
          let (most, behind) := behind.readCount
          most.map fun m => ((n, some m), behind)

/-- The cursor behind a question mark, if one comes next. -/
def behindLazy (c : Cursor) : Cursor := if c.next? = some '?' then c.bump else c

/-- Reads a repetition with counts, of which the opening brace comes next. -/
def readCounted (c : Cursor) : Reading Counts :=
  match c.advance.readCounts c.place with
  | .error fault => .error fault
  | .ok (counts, close) =>
    if close.next? ≠ some '\x7d' then fail .countUnclosed (close.since c.place)
    else
      let behind := close.advance.behindLazy
      match counts with
      | (least, some most) =>
        if most < least then fail .countRangeInvalid (behind.since c.place)
        else .ok (counts, behind)
      | (_, none) => .ok (counts, behind)

def repetitionSigns : List (Char × Counts) := [
  ('?', (0, some 1)), ('*', (0, none)), ('+', (1, none))]

/-- Reads a repetition, of which the sign or brace comes next; nothing if none does. -/
def readRepetition? (c : Cursor) : Option (Reading Counts) :=
  match c.next? with
  | none => none
  | some '\x7b' => some c.readCounted
  | some sign => (repetitionSigns.lookup sign).map fun counts => .ok (counts, c.bump.behindLazy)

end Cursor

end NativeBridge.Pattern
