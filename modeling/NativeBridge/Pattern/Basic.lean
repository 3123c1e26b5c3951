import NativeBridge.Pattern.Meaning
import NativeBridge.Pattern.Reader
import NativeBridge.Pattern.Size

/-!
# Patterns

A pattern describes pieces of text: characters, classes of characters, alternatives, repetitions and
conditions on places. A text matches a pattern if some piece of it does. A pattern is made from its
written form; a text that is not the written form of a pattern, and a pattern that cannot be carried
out, are refused with a message.

Patterns stand in log filters and nowhere else. They are here so that the command line prints the
records its log specification asks for, warnings about the specification included; the theory of
calls, classes, memory and resolution does not use them.
-/

namespace NativeBridge

/-- A pattern that texts can be matched against. -/
structure Pattern where
  matcher : Pattern.Matcher

namespace Pattern

/-- Why no pattern is made of a text. -/
inductive Problem where
  /-- The text is not the written form of a pattern that has a meaning. -/
  | fault (text : String) (f : Fault)
  | tooLarge
  /-- The pattern is about words of any script. -/
  | scalarWords
deriving DecidableEq, Repr

def Problem.message : Problem → String
  | fault text f => f.describe text.toList
  | tooLarge => s!"Compiled regex exceeds size limit of {sizeLimit} bytes."
  | scalarWords => "error building NFA"

def ofText? (text : String) : Except Problem Pattern :=
  match Node.read text.toList >>= Node.matcher .default with
  | .error f => .error (.fault text f)
  | .ok (matcher, _) =>
    if matcher.isTooLarge then .error .tooLarge
    else if matcher.needsScalarWords then .error .scalarWords
    else .ok ⟨matcher⟩

def occursIn (p : Pattern) (text : String) : Bool := p.matcher.occursIn text.toList

end Pattern

end NativeBridge
