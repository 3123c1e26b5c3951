/-!
# Names of classes and members

A class has a path, with components separated by slashes, and a name; together they spell its full
name. A member is looked up by the class it belongs to, its own name and its signature.
-/

namespace NativeBridge

/-- The full name of a class: its path, a slash and its name, or the name alone when the path is
empty. -/
def qualifiedName (classpath classname : String) : String :=
  if classpath.isEmpty then classname else classpath ++ "/" ++ classname

/-- What identifies a member in a lookup. -/
structure MemberKey where
  classpath : String
  classname : String
  name : String
  signature : String
deriving DecidableEq, Repr

namespace MemberKey

/-- The full name of the class the key refers to. -/
def className (key : MemberKey) : String := qualifiedName key.classpath key.classname

def text (key : MemberKey) : String := key.className ++ "." ++ key.name ++ key.signature

end MemberKey

end NativeBridge
