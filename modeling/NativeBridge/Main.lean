import NativeBridge.CommandLine.Program

/-!
# The executable

The executable takes its arguments and the log specification from its surroundings. It has no means
of mapping libraries into memory, so every library it is asked to open is refused.
-/

def emptyDisk : NativeBridge.LibraryDisk :=
  fun path => .error s!"{path}: cannot open shared object file"

/-- Runs the program and returns its exit code. -/
def main (arguments : List String) : IO UInt32 := do
  let logSpec ← IO.getEnv "RUST_LOG"
  let outcome := NativeBridge.CommandLine.run emptyDisk logSpec arguments
  IO.print outcome.output
  IO.eprint outcome.errors
  return outcome.exitCode
