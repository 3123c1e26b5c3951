import NativeBridge.Linking.Linkage

/-!
# Locating the members of a module

Before a module is bound, every native method that names it must be found among its exports, and
every method it asks for must be found in the class table with the declared shape. Location looks at
all of them and changes nothing. Its result is a plan of what to bind and the list of what is
missing, natives before imports and each in order.
-/

namespace NativeBridge

/-- A member that cannot be located, and why. -/
inductive Miss where
  /-- A native method exported under neither of its symbols. -/
  | native (short long : String)
  /-- A request with a text that is not valid UTF-8. -/
  | malformed (index : Nat) (field : String)
  /-- A request for a method the table does not have. -/
  | unknownMember (key : MemberKey)
  /-- A request that declares an unknown shape. -/
  | unknownShape (key : MemberKey)
  /-- A request that declares another shape than the method has. -/
  | otherShape (key : MemberKey) (declared registered : CallShape)
deriving DecidableEq, Repr

def Miss.text : Miss → String
  | native short long => s!"native {short} (tried {short}, {long})"
  | malformed index field => s!"import #{index} has a {field} that is not valid UTF-8"
  | unknownMember key => s!"import {key.text}"
  | unknownShape key => s!"import {key.text} has an unknown call shape"
  | otherShape key declared registered =>
    s!"import {key.text} declared {declared.text} but registered {registered.text}"

/-- A native method and the class that declares it. -/
structure DeclaredNative where
  cls : Class
  id : NativeId
  method : NativeMethod

/-- The symbol of a declared native method that is not overloaded. -/
def DeclaredNative.shortSymbol (d : DeclaredNative) : String :=
  Symbol.short d.cls.fullName d.method.name

/-- The symbol of a declared native method that is overloaded. -/
def DeclaredNative.longSymbol (d : DeclaredNative) : String :=
  Symbol.long d.cls.fullName d.method.name d.method.signature

/-- The native methods of a table that name a module, in table and declaration order. -/
def ClassTable.nativesOf (t : ClassTable) (moduleName : String) : List DeclaredNative :=
  t.classes.flatMap fun c =>
    (c.declaredNatives.filter fun d => d.2.moduleName == moduleName).map fun d => ⟨c, d.1, d.2⟩

/-- A native method with the address it will be bound to. -/
structure LocatedNative where
  id : NativeId
  method : NativeMethod
  address : CodeAddress
deriving DecidableEq, Repr

/-- A request with the method its slot will receive. -/
structure LocatedImport where
  index : Nat
  method : MethodId
deriving DecidableEq, Repr

namespace ModuleInterface

/-- The address of a native method: that of its short symbol, or else that of its long one. -/
def nativeAddress? (i : ModuleInterface) (d : DeclaredNative) : Option CodeAddress :=
  match i.symbol d.shortSymbol with
  | some address => some address
  | none => i.symbol d.longSymbol

def locateNative (i : ModuleInterface) (d : DeclaredNative) : Except Miss LocatedNative :=
  match i.nativeAddress? d with
  | some address => .ok ⟨d.id, d.method, address⟩
  | none => .error (.native d.shortSymbol d.longSymbol)

/-- The symbols looked up to locate a native method. -/
def lookupsFor (i : ModuleInterface) (d : DeclaredNative) : List String :=
  match i.symbol d.shortSymbol with
  | some _ => [d.shortSymbol]
  | none => [d.shortSymbol, d.longSymbol]

/-- The symbols looked up while the module is located against a table, in order. -/
def lookups (i : ModuleInterface) (t : ClassTable) : List String :=
  (t.nativesOf i.name).flatMap i.lookupsFor

end ModuleInterface

/-- Locates a requested method in a table. The first applicable reason of a miss is the one given:
malformed text, no such method, unknown shape, another shape. -/
def ClassTable.locateImport (t : ClassTable) (r : ImportRequest) : Except Miss LocatedImport :=
  match r.malformed with
  | some field => .error (.malformed r.index field)
  | none =>
    match t.findMethod? r.key, r.shape with
    | none, _ => .error (.unknownMember r.key)
    | some _, none => .error (.unknownShape r.key)
    | some (id, m), some declared =>
      if m.shape = declared then .ok ⟨r.index, id⟩
      else .error (.otherShape r.key declared m.shape)

/-- The successes among results, in order. -/
def successes {ε α : Type} (results : List (Except ε α)) : List α :=
  results.filterMap fun r =>
    match r with
    | .ok a => some a
    | .error _ => none

/-- The failures among results, in order. -/
def failures {ε α : Type} (results : List (Except ε α)) : List ε :=
  results.filterMap fun r =>
    match r with
    | .ok _ => none
    | .error e => some e

/-- What binding a module will write. -/
structure BindingPlan where
  natives : List LocatedNative
  imports : List LocatedImport
deriving DecidableEq, Repr

namespace ModuleInterface

/-- The location of every native method of the module. -/
def locatedNatives (i : ModuleInterface) (t : ClassTable) : List (Except Miss LocatedNative) :=
  (t.nativesOf i.name).map i.locateNative

/-- The location of every request of the module. -/
def locatedImports (i : ModuleInterface) (t : ClassTable) : List (Except Miss LocatedImport) :=
  i.imports.map t.locateImport

/-- What binding the module against a table will write. -/
def plan (i : ModuleInterface) (t : ClassTable) : BindingPlan :=
  ⟨successes (i.locatedNatives t), successes (i.locatedImports t)⟩

/-- What is missing to bind the module against a table. -/
def misses (i : ModuleInterface) (t : ClassTable) : List Miss :=
  failures (i.locatedNatives t) ++ failures (i.locatedImports t)

end ModuleInterface

end NativeBridge
