import NativeBridge.Pattern.Place
import NativeBridge.Text.Column

/-!
# Faults of patterns

A text that is no pattern has a fault: a cause, the span at which it was found, and possibly an
earlier span that it clashes with. The description of a fault shows the text with carets below the
spans, and then the cause. A text of one line is indented; the lines of a longer one are numbered
and stand between two rules.
-/

namespace NativeBridge.Pattern

/-- Why a text is no pattern. -/
inductive Cause where
  | classEscapeInvalid | classRangeInvalid | classRangeBoundary | classUnclosed
  | countEmpty | countTooLarge | countUnclosed | countRangeInvalid
  | hexEmpty | hexInvalid | hexDigitInvalid
  | escapeUnfinished | escapeUnknown | backreference
  | flagNegationDangling | flagDuplicate | flagNegationRepeated | flagUnfinished | flagUnknown
  | nameDuplicate | nameEmpty | nameInvalid | nameUnclosed
  | groupUnclosed | groupUnopened | lookAround
  | nestingTooDeep (limit : Nat)
  | operandMissing
  | wordBoundaryUnclosed | wordBoundaryUnknown | wordBoundaryUnfinished
  | propertyInvalid | propertyUnknown | propertyValueUnknown
  | scalarNotAllowed | brokenText | namedClassUnavailable | caseUnavailable
deriving DecidableEq, Repr

def Cause.message : Cause → String
  | classEscapeInvalid => "invalid escape sequence found in character class"
  | classRangeInvalid => "invalid character class range, the start must be <= the end"
  | classRangeBoundary => "invalid range boundary, must be a literal"
  | classUnclosed => "unclosed character class"
  | countEmpty => "repetition quantifier expects a valid decimal"
  | countTooLarge => "decimal literal invalid"
  | countUnclosed => "unclosed counted repetition"
  | countRangeInvalid => "invalid repetition count range, the start must be <= the end"
  | hexEmpty => "hexadecimal literal empty"
  | hexInvalid => "hexadecimal literal is not a Unicode scalar value"
  | hexDigitInvalid => "invalid hexadecimal digit"
  | escapeUnfinished => "incomplete escape sequence, reached end of pattern prematurely"
  | escapeUnknown => "unrecognized escape sequence"
  | backreference => "backreferences are not supported"
  | flagNegationDangling => "dangling flag negation operator"
  | flagDuplicate => "duplicate flag"
  | flagNegationRepeated => "flag negation operator repeated"
  | flagUnfinished => "expected flag but got end of regex"
  | flagUnknown => "unrecognized flag"
  | nameDuplicate => "duplicate capture group name"
  | nameEmpty => "empty capture group name"
  | nameInvalid => "invalid capture group character"
  | nameUnclosed => "unclosed capture group name"
  | groupUnclosed => "unclosed group"
  | groupUnopened => "unopened group"
  | lookAround => "look-around, including look-ahead and look-behind, is not supported"
  | nestingTooDeep limit =>
    s!"exceed the maximum number of nested parentheses/brackets ({limit})"
  | operandMissing => "repetition operator missing expression"
  | wordBoundaryUnclosed =>
    "special word boundary assertion is either unclosed or contains an invalid character"
  | wordBoundaryUnknown =>
    "unrecognized special word boundary assertion, valid choices are: " ++
      "start, end, start-half or end-half"
  | wordBoundaryUnfinished =>
    "found either the beginning of a special word boundary or a bounded repetition on a \\b " ++
      "with an opening brace, but no closing brace"
  | propertyInvalid => "invalid Unicode character class"
  | propertyUnknown => "Unicode property not found"
  | propertyValueUnknown => "Unicode property value not found"
  | scalarNotAllowed => "Unicode not allowed here"
  | brokenText => "pattern can match invalid UTF-8"
  | namedClassUnavailable =>
    "Unicode-aware Perl class not found (make sure the unicode-perl feature is enabled)"
  | caseUnavailable =>
    "Unicode-aware case insensitivity matching is not available " ++
      "(make sure the unicode-case feature is enabled)"

/-- What is wrong with a text, and where. -/
structure Fault where
  cause : Cause
  span : Span
  /-- The earlier span that the fault clashes with. -/
  earlier : Option Span
deriving DecidableEq, Repr

namespace Fault

def single (cause : Cause) (span : Span) : Fault := ⟨cause, span, none⟩

/-- The spans of a fault, in order. -/
def spans (f : Fault) : List Span := (f.span :: f.earlier.toList).mergeSort Span.isUpTo

/-- A line without the carriage return that ends it. -/
def withoutReturn (line : List Char) : List Char :=
  if line.getLast? = some '\r' then line.dropLast else line

/-- The lines of a text, without their ends. A line end that ends the text begins no line. -/
def linesOf (text : List Char) : List (List Char) :=
  let pieces := text.splitOnP (· = '\n')
  match pieces.reverse with
  | [] :: finished => finished.reverse.map withoutReturn
  | last :: finished => (finished.map withoutReturn).reverse ++ [last]
  | [] => []

/-- Carets below columns of one line, for spans in order; `column` is the next one to write. -/
def carets (column : Nat) : List Span → List Char
  | [] => []
  | s :: rest =>
    let width := max 1 (s.last.column - s.first.column)
    List.replicate (s.first.column - column) ' ' ++ List.replicate width '^' ++
      carets (max column s.first.column + width) rest

/-- A line with what stands before it, and the carets below it if there are any. -/
def excerptLine (margin : String) (line : List Char) (spans : List Span) : String :=
  let noted := if spans.isEmpty then ""
    else String.ofList (List.replicate margin.length ' ' ++ carets 1 spans) ++ "\n"
  margin ++ String.ofList line ++ "\n" ++ noted

/-- The text of a pattern with carets below the spans that lie on one line. -/
def excerpt (f : Fault) (text : List Char) : String :=
  let shown := linesOf text
  let count := if text.getLast? = some '\n' then shown.length + 1 else shown.length
  let width := (toString count).length
  let margin := fun (number : Nat) =>
    if count ≤ 1 then "    " else Text.rightAligned width (toString number) ++ ": "
  String.join (shown.zipIdx.map fun line =>
    excerptLine (margin (line.2 + 1)) line.1
      (f.spans.filter fun s => s.isOnOneLine && s.first.line == line.2 + 1))

/-- Where a span of several lines begins and ends. -/
def rangeNote (s : Span) : String :=
  s!"on line {s.first.line} (column {s.first.column}) through line {s.last.line} " ++
    s!"(column {s.last.column - 1})"

/-- The line above and below the lines of a text. -/
def rule : String := String.ofList (List.replicate 79 '~') ++ "\n"

def describe (f : Fault) (text : List Char) : String :=
  let excerpt := f.excerpt text
  let long := f.spans.filter fun s => !s.isOnOneLine
  let notes := if long.isEmpty then "" else "\n".intercalate (long.map rangeNote) ++ "\n"
  "regex parse error:\n" ++
    (if text.contains '\n' then rule ++ excerpt ++ rule ++ notes else excerpt) ++
    "error: " ++ f.cause.message

end Fault

end NativeBridge.Pattern
