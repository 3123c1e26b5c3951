import NativeBridge.Class.Builtin
import NativeBridge.Environment.Interface
import NativeBridge.Linking.Library

/-!
# The greeter

The greeter is a class with one host method, which doubles a number, and three native methods
implemented in a foreign module. The module adds two numbers by itself, and calls back into the host
to double a number and to measure a string. Until its import slots are bound, the callbacks answer
-1.
-/

namespace NativeBridge.Greeter

/-- The name of the module that implements the greeter's native methods. -/
def demoModule : String := "libjnishim_demo.so"

/-- Twice the argument, wrapping. -/
def twice : HostFunction .static where
  name := "Greeter.twice"
  parameters := [.int]
  returns := some .int
  body _ arguments :=
    match arguments with
    | [.int x] => .finishWith (.int (2 * x))
    | _ => .finishWith (.int 0)

/-- `demo/Greeter`, with the host method if wanted, the native methods of the named module, and
possibly one more native method that the module does not implement. -/
def greeterClass (moduleName : String) (withTwice : Bool) (extra : Option String)
    (handle : Handle) : Class :=
  { Builtin.bare "demo" "Greeter" 0 handle with
    methods := if withTwice then [⟨"twice", "(I)I", .static, twice⟩] else []
    natives := [
      ⟨"add", "(II)I", moduleName⟩,
      ⟨"shout", "(I)I", moduleName⟩,
      ⟨"measure", "(Ljava/lang/String;)I", moduleName⟩] ++
      (extra.toList.map fun name => ⟨name, "()V", moduleName⟩) }

/-- The classes the greeter lives among, then the greeter itself. The classes the module asks the
host for may be left out. -/
def inventory (moduleName : String) (withString withTwice : Bool) (extra : Option String) :
    List (Handle → Class) :=
  [Builtin.objectClass] ++ ["int", "[I"].filterMap Builtin.named? ++
    (if withString then [Builtin.stringClass] else []) ++
    [greeterClass moduleName withTwice extra]

def twiceSlot (owner : Nat) : ImportSlot := ⟨owner, 0⟩

/-- The slot for the host method that measures. -/
def lengthSlot (owner : Nat) : ImportSlot := ⟨owner, 1⟩

/-- The import table of the module, with the slots of the given copy of it. -/
def importTable (owner : Nat) : List ImportDescriptor := [
  ⟨.ofText "demo", .ofText "Greeter", .ofText "twice", .ofText "(I)I", 1, twiceSlot owner⟩,
  ⟨.ofText "java/lang", .ofText "String", .ofText "length", .ofText "()I", 0, lengthSlot owner⟩]

/-- The symbols the module exports, with their addresses. -/
def exports : List (String × CodeAddress) := [
  ("Java_demo_Greeter_add", 0x1100),
  ("Java_demo_Greeter_shout", 0x1200),
  ("Java_demo_Greeter_measure", 0x1300),
  (importTableSymbol, 0x1400)]

/-- The library file of the module; `owner` tells copies of it apart. -/
def libraryFile (owner : Nat) : LibraryFile where
  symbol name := exports.lookup name
  importTable := some (importTable owner)
  mapping := owner

/-- The native `add`: the wrapping sum. -/
def add (a b : Int32) : Int32 := a + b

/-- What the native methods answer when the host cannot be reached. -/
def failure : Int32 := -1

/-- The integer in the low half of a reply's result slot. -/
def integerOf (reply : Interface.Reply) : Int32 :=
  ((reply.resultSlot.getD .zero).word.toUInt32).toInt32

/-- The native `shout`: one more than the host's answer to doubling `x`. -/
def shout (env : Environment) (l : Linkage) (owner : Nat) (cls : Handle) (x : Int32) (m : Memory) :
    Run Int32 :=
  match l.imports (twiceSlot owner) with
  | none => ⟨failure, m, []⟩
  | some method =>
    (Interface.callStatic (some env) cls (some method) (some [(Value.int x).toSlot])
      (some .zero) m).map fun reply =>
        if reply.status = Interface.statusOk then integerOf reply + 1 else failure

/-- The native `measure`: the host's answer to the length of `text`. -/
def measure (env : Environment) (l : Linkage) (owner : Nat) (text : Handle) (m : Memory) :
    Run Int32 :=
  match l.imports (lengthSlot owner) with
  | none => ⟨failure, m, []⟩
  | some method =>
    (Interface.callVirtual (some env) text (some method) none (some .zero) m).map fun reply =>
      if reply.status = Interface.statusOk then integerOf reply else failure

end NativeBridge.Greeter
