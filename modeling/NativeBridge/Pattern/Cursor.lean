import NativeBridge.Pattern.Fault
import NativeBridge.Text.Blank

/-!
# Cursors

A cursor is a place in the text of a pattern with the characters from there on. In a spaced pattern
blanks and comments, from a number sign to the end of the line, can stand between the signs, and the
cursor skips them.
-/

namespace NativeBridge.Pattern

/-- A place and the characters from there on. -/
structure Cursor where
  place : Place
  rest : List Char
  /-- Whether blanks and comments are skipped. -/
  spaced : Bool
deriving DecidableEq, Repr

/-- What reading yields: a value and the cursor behind it, or a fault. -/
abbrev Reading (α : Type) := Except Fault (α × Cursor)

namespace Cursor

def start (text : List Char) : Cursor := ⟨.start, text, false⟩

def next? (c : Cursor) : Option Char := c.rest.head?

def atEnd (c : Cursor) : Bool := c.rest.isEmpty

def point (c : Cursor) : Span := .point c.place

def since (c : Cursor) (first : Place) : Span := ⟨first, c.place⟩

def nextSpan (c : Cursor) : Span :=
  match c.rest with
  | [] => c.point
  | next :: _ => ⟨c.place, c.place.after next⟩

def bump (c : Cursor) : Cursor :=
  match c.rest with
  | [] => c
  | next :: rest => { c with place := c.place.after next, rest }

/-- The place and the characters behind blanks and comments; `comment` says whether the beginning is
inside a comment. -/
def behindBlanks (comment : Bool) (place : Place) : List Char → Place × List Char
  | [] => (place, [])
  | c :: rest =>
    if comment then behindBlanks (c != '\n') (place.after c) rest
    else if Text.isBlank c then behindBlanks false (place.after c) rest
    else if c = '#' then behindBlanks true (place.after c) rest
    else (place, c :: rest)

/-- The cursor behind blanks and comments, where those are skipped. -/
def skip (c : Cursor) : Cursor :=
  if c.spaced then
    let behind := behindBlanks false c.place c.rest
    { c with place := behind.1, rest := behind.2 }
  else c

/-- The cursor behind the next character and what is skipped after it. -/
def advance (c : Cursor) : Cursor := c.bump.skip

/-- The cursor behind the given characters, if they come next. -/
def behind? (c : Cursor) : List Char → Option Cursor
  | [] => some c
  | wanted :: more => if c.next? = some wanted then c.bump.behind? more else none

/-- Characters that are accepted, one after the other, and the cursor behind them; `move` goes past
each. At most `limit` characters are read. -/
def collect (move : Cursor → Cursor) (accept : Char → Bool) :
    (limit : Nat) → Cursor → List Char × Cursor
  | 0, c => ([], c)
  | limit + 1, c =>
    match c.next? with
    | none => ([], c)
    | some next =>
      if accept next then
        let more := collect move accept limit (move c)
        (next :: more.1, more.2)
      else ([], c)

/-- All the accepted characters that come next, with what is skipped between them. -/
def takeWhile (c : Cursor) (accept : Char → Bool) : List Char × Cursor :=
  collect advance accept c.rest.length c

/-- All the accepted characters that come next, with nothing skipped. -/
def takeWhilePlain (c : Cursor) (accept : Char → Bool) : List Char × Cursor :=
  collect bump accept c.rest.length c

/-- The character after the next one. In a spaced pattern blanks are passed over, and the number
sign of a comment, but not the comment. -/
def second? (c : Cursor) : Option Char :=
  match c.rest with
  | [] => none
  | _ :: rest =>
    if c.spaced then
      let text := rest.dropWhile Text.isBlank
      let text := if text.head? = some '#' then text.tail.dropWhile Text.isBlank else text
      text.head? <|> rest.head?
    else rest.head?

def fail {α : Type} (cause : Cause) (span : Span) : Except Fault α := .error (.single cause span)

end Cursor

end NativeBridge.Pattern
