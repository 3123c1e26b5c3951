import NativeBridge.LogRecord
import NativeBridge.Pattern.Basic
import NativeBridge.Text.Blank

/-!
# Log filters

A log filter decides which records are shown. It is a list of directives, each with a threshold and
possibly a target, and possibly a pattern that must occur in the text of a record. The directive
with the longest target that begins a record's target decides. A filter is read from a
specification: directives separated by commas, and after a slash the pattern. Parts that cannot be
read are left out with a warning.

Filters, and the patterns in them, belong to the command line alone: they choose which of the
records that a command leaves are printed. Nothing that a command does depends on them, and no
result about calls, classes, memory or resolution mentions them.
-/

namespace NativeBridge

/-- The most detailed severity that is shown; nothing is shown without one. -/
structure LogThreshold where
  level : Option LogLevel
deriving DecidableEq, Repr

namespace LogThreshold

def off : LogThreshold := ⟨none⟩

def all : LogThreshold := ⟨some .trace⟩

/-- Whether records of this severity are shown. -/
def admits (threshold : LogThreshold) (level : LogLevel) : Bool :=
  match threshold.level with
  | none => false
  | some greatest => level.verbosity ≤ greatest.verbosity

def names : List (String × LogThreshold) := [
  ("OFF", off), ("ERROR", ⟨some .error⟩), ("WARN", ⟨some .warn⟩), ("INFO", ⟨some .info⟩),
  ("DEBUG", ⟨some .debug⟩), ("TRACE", all)]

/-- The threshold of a name, in letters of either case. -/
def ofText? (text : String) : Option LogThreshold :=
  names.lookup (String.ofList (text.toList.map Char.toUpper))

end LogThreshold

/-- A threshold for the records whose target begins with a text, or for all records. -/
structure LogDirective where
  target : Option String
  threshold : LogThreshold
deriving DecidableEq, Repr

/-- Decides which records are shown. -/
structure LogFilter where
  directives : List LogDirective
  /-- A pattern that must occur in the text of a record. -/
  pattern : Option Pattern

/-- A part of a log specification that cannot be read. -/
inductive LogSpecProblem where
  | tooManySlashes (spec : String)
  | unreadable (part : String)
  | pattern (problem : Pattern.Problem)
deriving DecidableEq, Repr

def LogSpecProblem.message : LogSpecProblem → String
  | tooManySlashes spec => s!"warning: invalid logging spec '{spec}' (too many '/'s), ignoring it"
  | unreadable part => s!"warning: invalid logging spec '{part}', ignoring it"
  | pattern problem => s!"warning: invalid regex filter - {problem.message}, ignoring it"

namespace LogDirective

/-- The number of bytes of the target; a directive for all records counts as empty. -/
def specificity (d : LogDirective) : Nat := (d.target.map String.utf8ByteSize).getD 0

/-- Whether the directive is about records of this target. -/
def covers (d : LogDirective) (target : String) : Bool :=
  match d.target with
  | none => true
  | some start => start.toList.isPrefixOf target.toList

end LogDirective

namespace LogFilter

/-- Reads one directive; a blank part is no directive. -/
def directiveOf (part : List Char) : Option (Except LogSpecProblem LogDirective) :=
  let part := Text.trimmed part
  if part.isEmpty then none
  else
    match part.splitOnP (· = '=') with
    | [word] =>
      let word := String.ofList word
      match LogThreshold.ofText? word with
      | some threshold => some (.ok ⟨none, threshold⟩)
      | none => some (.ok ⟨some word, .all⟩)
    | [target, level] =>
      let target := String.ofList target
      let level := String.ofList (Text.trimmed level)
      if level.isEmpty then some (.ok ⟨some target, .all⟩)
      else
        match LogThreshold.ofText? level with
        | some threshold => some (.ok ⟨some target, threshold⟩)
        | none => some (.error (.unreadable level))
    | _ => some (.error (.unreadable (String.ofList part)))

/-- Adds a directive; one for the same target is replaced where it stands. -/
def insertDirective (d : LogDirective) : List LogDirective → List LogDirective
  | [] => [d]
  | e :: rest => if e.target = d.target then d :: rest else e :: insertDirective d rest

/-- Puts directives in the order they are tried: longer targets first, later ones first among
targets of one length. Without any directive, only errors are shown. -/
def arrange (directives : List LogDirective) : List LogDirective :=
  match directives with
  | [] => [⟨none, ⟨some .error⟩⟩]
  | d :: rest => ((d :: rest).mergeSort fun a b => decide (a.specificity ≤ b.specificity)).reverse

/-- The filter with one threshold for all records. -/
def uniform (threshold : LogThreshold) : LogFilter := ⟨[⟨none, threshold⟩], none⟩

/-- The directives among the parts of a specification. -/
def readDirectives (parts : List (List Char)) : List LogDirective × List LogSpecProblem :=
  (parts.filterMap directiveOf).foldl
    (fun read part =>
      match part with
      | .ok d => (insertDirective d read.1, read.2)
      | .error problem => (read.1, read.2 ++ [problem]))
    ([], [])

/-- Reads a specification, and says what is left out of it. -/
def ofSpec (spec : String) : LogFilter × List LogSpecProblem :=
  match spec.toList.splitOnP (· = '/') with
  | [] => (⟨arrange [], none⟩, [])
  | [directives] =>
    let read := readDirectives (directives.splitOnP (· = ','))
    (⟨arrange read.1, none⟩, read.2)
  | [directives, pattern] =>
    let read := readDirectives (directives.splitOnP (· = ','))
    match Pattern.ofText? (String.ofList pattern) with
    | .ok pattern => (⟨arrange read.1, some pattern⟩, read.2)
    | .error problem => (⟨arrange read.1, none⟩, read.2 ++ [.pattern problem])
  | _ => (⟨arrange [], none⟩, [.tooManySlashes spec])

/-- Whether a record of this target, severity and text is shown. -/
def admits (f : LogFilter) (target : String) (level : LogLevel) (text : String) : Bool :=
  (match f.directives.find? fun d => d.covers target with
    | some d => d.threshold.admits level
    | none => false) &&
  (match f.pattern with
    | some pattern => pattern.occursIn text
    | none => true)

end LogFilter

end NativeBridge
