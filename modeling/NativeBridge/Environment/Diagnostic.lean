import NativeBridge.Environment.Basic
import NativeBridge.Text.Quoted

/-!
# Diagnostic output of environments and methods

Diagnostic output shows an environment by its version and the size of its table, and a method by
its names, its shape and the number of its arguments.
-/

namespace NativeBridge

/-- The name of a type and the written values of its members, in braces. -/
def diagnosticRecord (name : String) (members : List (String × String)) : String :=
  name ++ " \x7b " ++ ", ".intercalate (members.map fun m => m.1 ++ ": " ++ m.2) ++ " \x7d"

def ManagedMethod.diagnosticText (m : ManagedMethod) : String :=
  diagnosticRecord "ManagedMethod" [
    ("name", Text.quoted m.name), ("signature", Text.quoted m.signature),
    ("shape", m.shape.diagnosticText), ("arg_count", toString m.argCount)]

def Environment.diagnosticText (env : Environment) : String :=
  diagnosticRecord "JniEnv" [
    ("version", toString interfaceVersion.toInt), ("classes", toString env.table.size)]

end NativeBridge
