import NativeBridge.CommandLine.LogFilter

/-!
# Command-line arguments

The arguments are read from left to right on two levels: options of the program up to the name of a
command, and options and operands of the command after it. A long option takes its value after an
equals sign or as the next word; letters behind one hyphen are options without a value; two hyphens
alone end the options. An option is given at most once on each level. The first thing wrong decides
that the arguments are misused, and a request for help or for the version ends the reading. A value
that was given as a word of its own is looked at when the next option or operand of its level is
read, or when nothing is left to read.
-/

namespace NativeBridge.CommandLine

/-- What the program is asked to do. -/
inductive Command where
  /-- Lists the classes whose name contains a text, possibly with their members. -/
  | classes (verbose : Bool) (filter : Option String)
  /-- Shows what resolving a module would need. -/
  | inspect (path : String)
  /-- Resolves a module. -/
  | resolve (path : String)
  /-- Resolves the greeter's module and calls its native methods. -/
  | demo (path : String)
  /-- Shows the symbols of a native method. -/
  | mangle (className method signature : String)
deriving DecidableEq, Repr

/-- A command and the log threshold that overrides the log specification. -/
structure Invocation where
  threshold : Option LogThreshold
  command : Command
deriving DecidableEq, Repr

/-- Why reading the arguments ends without a command. -/
inductive Halt where
  | misuse | help | version
deriving DecidableEq, Repr

/-- The options there are. -/
inductive OptionName where
  | logLevel | verbose | filter | help | version
deriving DecidableEq, Repr

namespace OptionName

def long : OptionName → String
  | logLevel => "log-level"
  | verbose => "verbose"
  | filter => "filter"
  | help => "help"
  | version => "version"

def letter? : OptionName → Option Char
  | verbose => some 'v'
  | help => some 'h'
  | version => some 'V'
  | logLevel | filter => none

def takesValue : OptionName → Bool
  | logLevel | filter => true
  | verbose | help | version => false

end OptionName

/-- The kinds of operand. -/
inductive OperandKind where
  | text
  /-- A path, which must not be empty. -/
  | path
deriving DecidableEq, Repr

def OperandKind.accepts (kind : OperandKind) (operand : String) : Bool :=
  match kind with
  | text => true
  | path => !operand.isEmpty

/-- What is accepted on one level. -/
structure Level where
  options : List OptionName
  operands : List OperandKind
  /-- Whether the first operand names a command and ends the level. -/
  endsAtWord : Bool

/-- What has been read on one level. -/
structure Seen where
  /-- The options given, each with its value; empty for an option without one. -/
  options : List (OptionName × String)
  operands : List String
  /-- An option whose value was a word of its own, not yet looked at. -/
  pending : Option (OptionName × String)
deriving DecidableEq, Repr

namespace Seen

def nothing : Seen := ⟨[], [], none⟩

def value? (seen : Seen) (option : OptionName) : Option String := seen.options.lookup option

def threshold? (seen : Seen) : Option LogThreshold :=
  (seen.value? .logLevel).bind LogThreshold.ofText?

def insert (seen : Seen) (option : OptionName) (value : String) : Except Halt Seen :=
  match option with
  | .help => .error .help
  | .version => .error .version
  | _ =>
    if (seen.value? option).isSome then .error .misuse
    else if option = .logLevel ∧ (LogThreshold.ofText? value).isNone then .error .misuse
    else .ok { seen with options := seen.options ++ [(option, value)] }

/-- Takes note of the option that is pending, if there is one. -/
def settle (seen : Seen) : Except Halt Seen :=
  match seen.pending with
  | some (option, value) => { seen with pending := none }.insert option value
  | none => .ok seen

/-- Takes note of an option after the one that is pending. -/
def addOption (seen : Seen) (option : OptionName) (value : String) : Except Halt Seen :=
  match seen.settle with
  | .ok seen => seen.insert option value
  | .error halt => .error halt

/-- Takes note of an operand after the option that is pending. -/
def addOperand (seen : Seen) (level : Level) (operand : String) : Except Halt Seen :=
  match level.operands[seen.operands.length]?, seen.settle with
  | some kind, .ok seen =>
    if kind.accepts operand then .ok { seen with operands := seen.operands ++ [operand] }
    else .error .misuse
  | _, _ => .error .misuse

def addOperands (seen : Seen) (level : Level) : List String → Except Halt Seen
  | [] => .ok seen
  | operand :: rest =>
    match seen.addOperand level operand with
    | .ok seen => seen.addOperands level rest
    | .error halt => .error halt

end Seen

/-- The kinds of argument. -/
inductive Token where
  /-- Two hyphens alone. -/
  | endOfOptions
  /-- A long option, with the value after an equals sign. -/
  | long (name : List Char) (value : Option (List Char))
  /-- Letters behind one hyphen. -/
  | flags (letters : List Char)
  /-- Anything else; a hyphen alone is a word. -/
  | word
deriving DecidableEq, Repr

/-- The name before the first equals sign, and the value after it if there is one. -/
def splitValue (text : List Char) : List Char × Option (List Char) :=
  match text.dropWhile (· ≠ '=') with
  | [] => (text, none)
  | _ :: value => (text.takeWhile (· ≠ '='), some value)

def Token.ofArgument (argument : String) : Token :=
  match argument.toList with
  | ['-', '-'] => .endOfOptions
  | '-' :: '-' :: text => .long (splitValue text).1 (splitValue text).2
  | '-' :: letter :: letters => .flags (letter :: letters)
  | _ => .word

/-- Takes note of the options of letters behind one hyphen. -/
def readLetters (level : Level) (seen : Seen) : List Char → Except Halt Seen
  | [] => .ok seen
  | letter :: rest =>
    match level.options.find? fun o => o.letter? = some letter with
    | none => .error .misuse
    | some option =>
      match seen.addOption option "" with
      | .ok seen => readLetters level seen rest
      | .error halt => .error halt

/-- Reads one level, with an option that waits for its value, and returns the arguments left for
the next level. When a word ends the level, an option may still be pending. -/
def readLevel (level : Level) (waiting : Option OptionName) (seen : Seen) :
    List String → Except Halt (Seen × List String)
  | [] => if waiting.isSome then .error .misuse else seen.settle.map fun seen => (seen, [])
  | argument :: rest =>
    match waiting, Token.ofArgument argument with
    | some option, .word =>
      readLevel level none { seen with pending := some (option, argument) } rest
    | some _, _ => .error .misuse
    | none, .endOfOptions =>
      ((seen.addOperands level rest).bind Seen.settle).map fun seen => (seen, [])
    | none, .long name value =>
      match level.options.find? fun o => o.long.toList = name with
      | none => .error .misuse
      | some option =>
        match option.takesValue, value with
        | true, none =>
          match seen.settle with
          | .ok seen => readLevel level (some option) seen rest
          | .error halt => .error halt
        | true, some value =>
          match seen.addOption option (String.ofList value) with
          | .ok seen => readLevel level none seen rest
          | .error halt => .error halt
        | false, some _ => .error .misuse
        | false, none =>
          match seen.addOption option "" with
          | .ok seen => readLevel level none seen rest
          | .error halt => .error halt
    | none, .flags letters =>
      match readLetters level seen letters with
      | .ok seen => readLevel level none seen rest
      | .error halt => .error halt
    | none, .word =>
      if level.endsAtWord then .ok (seen, argument :: rest)
      else
        match seen.addOperand level argument with
        | .ok seen => readLevel level none seen rest
        | .error halt => .error halt

def programLevel : Level := ⟨[.logLevel, .help, .version], [], true⟩

def commandLevels : List (String × Level) := [
  ("classes", ⟨[.logLevel, .help, .verbose, .filter], [], false⟩),
  ("inspect", ⟨[.logLevel, .help], [.path], false⟩),
  ("resolve", ⟨[.logLevel, .help], [.path], false⟩),
  ("demo", ⟨[.logLevel, .help], [.path], false⟩),
  ("mangle", ⟨[.logLevel, .help], [.text, .text, .text], false⟩)]

/-- The command of a name with what was read after it. -/
def commandOf? (name : String) (seen : Seen) : Option Command :=
  match name, seen.operands with
  | "classes", [] => some (.classes (seen.value? .verbose).isSome (seen.value? .filter))
  | "inspect", [path] => some (.inspect path)
  | "resolve", [path] => some (.resolve path)
  | "demo", [path] => some (.demo path)
  | "mangle", [className, method, signature] => some (.mangle className method signature)
  | _, _ => none

/-- What follows the word `help`: at most one name of a command. -/
def helpHalt : List String → Halt
  | [] => .help
  | [name] => if name = "help" ∨ (commandLevels.lookup name).isSome then .help else .misuse
  | _ => .misuse

/-- Reads the arguments. What is pending on the program's level is looked at after the command has
been read. The log threshold given after the command wins. -/
def parse (arguments : List String) : Except Halt Invocation :=
  match readLevel programLevel none .nothing arguments with
  | .error halt => .error halt
  | .ok (_, []) => .error .misuse
  | .ok (program, name :: rest) =>
    if name = "help" then .error (helpHalt rest)
    else
      match commandLevels.lookup name with
      | none => .error .misuse
      | some level =>
        match readLevel level none .nothing rest with
        | .error halt => .error halt
        | .ok (seen, _) =>
          match commandOf? name seen, program.settle with
          | some command, .ok program => .ok ⟨seen.threshold? <|> program.threshold?, command⟩
          | _, _ => .error .misuse

end NativeBridge.CommandLine
