/-!
# Log records

The host reports its progress as log records, each with a severity, the part of the host it comes
from, and a text.
-/

namespace NativeBridge

/-- Severities of log records, most severe first. -/
inductive LogLevel where
  | error | warn | info | debug | trace
deriving DecidableEq, Repr

namespace LogLevel

def text : LogLevel → String
  | error => "ERROR"
  | warn => "WARN"
  | info => "INFO"
  | debug => "DEBUG"
  | trace => "TRACE"

/-- Severities as numbers that grow with the amount of detail. -/
def verbosity : LogLevel → Nat
  | error => 1
  | warn => 2
  | info => 3
  | debug => 4
  | trace => 5

end LogLevel

/-- One log record. -/
structure LogRecord where
  level : LogLevel
  /-- The part of the host that wrote the record. -/
  origin : String
  text : String
deriving DecidableEq, Repr

end NativeBridge
