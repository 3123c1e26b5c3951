import NativeBridge.Proofs.CallForms
import NativeBridge.Sample.Account

/-!
# Which calls enter a host function

A call is refused, with the first reason that applies, or it enters the host function of the method
once: with the handle of the environment and the receiver or class of the target, and with arguments
read from exactly the slots supplied or from the front of the list. A refused call leaves everything
as it was, and reads nothing. All of this holds for each of the six ways to call a method, and for
the calls that host functions make, at every level.
-/

namespace NativeBridge

lemma entriesOf_violations (reports : List Violation) :
    entriesOf (reports.map .violation) = [] := by
  unfold entriesOf
  rw [List.filterMap_map, List.filterMap_eq_nil_iff]
  exact fun _ _ => rfl

lemma entriesOf_extractVariadic (params : List ParamType) (list : VarArgs) :
    entriesOf (extractVariadic params list).events = [] := by
  induction params generalizing list with
  | nil => rfl
  | cons p params ih =>
    rw [extractVariadic, entriesOf_append, entriesOf_append, entriesOf_violations,
      entriesOf_extractionEvents, ih]
    rfl

namespace ManagedMethod

def argumentsOf (method : ManagedMethod) : CallArguments → List Value
  | .packed slots => extractPacked method.function.parameters slots
  | .variadic list => (extractVariadic method.function.parameters list).arguments

def argumentsLeft (method : ManagedMethod) : CallArguments → CallArguments
  | .packed slots => .packed slots
  | .variadic list => .variadic (extractVariadic method.function.parameters list).rest

def argumentEvents (method : ManagedMethod) : CallArguments → List Event
  | .packed slots => packedExtractionEvents method.function.parameters
      (extractPacked method.function.parameters slots)
  | .variadic list => (extractVariadic method.function.parameters list).events

lemma entriesOf_argumentEvents (method : ManagedMethod) (arguments : CallArguments) :
    entriesOf (method.argumentEvents arguments) = [] := by
  cases arguments with
  | packed slots => exact (packedExtractionEvents_quiet _ _).2
  | variadic list => exact entriesOf_extractVariadic _ list

end ManagedMethod

namespace HostProgram

/-- The calls that a program makes when it is run, in order, with the memory each is made in. -/
def callsMade {returns : ReturnType} (env : Environment) (nested : NestedCall) :
    HostProgram returns → Memory → List (MethodCall × Memory)
  | .finish _ _, _ => []
  | .report _ next, m => next.callsMade env nested m
  | .classOf object next, m => (next (env.getObjectClass m object).1).callsMade env nested m
  | .fieldId cls name signature next, m =>
    (next (env.getFieldId cls name signature).1).callsMade env nested m
  | .staticMethodId cls name signature next, m =>
    (next (env.getStaticMethodId cls name signature).1).callsMade env nested m
  | .readField object field type next, m =>
    match env.getField m object field type.width with
    | .ok bytes => (next (.ok (type.ofBytes bytes))).callsMade env nested m
    | .error r => (next (.error r.cause)).callsMade env nested m
  | .writeField object field value next, m =>
    match env.setField m object field value.bytes with
    | .ok m' => (next (.ok ())).callsMade env nested m'
    | .error r => (next (.error r.cause)).callsMade env nested m
  | .textOf object next, m =>
    (next ((env.stringAt? m object).map StringObject.bytes)).callsMade env nested m
  | .call request next, m =>
    (request, m) :: (next (nested request m).value).callsMade env nested (nested request m).memory

lemma entriesOf_after {α : Type} (reports : List Violation) (r : Run α) :
    entriesOf (r.after (reports.map .violation)).events = entriesOf r.events := by
  rw [Run.after, entriesOf_append, entriesOf_violations, List.nil_append]

/-- While a program is run, functions are entered only by the calls that it makes. -/
theorem entriesOf_run {returns : ReturnType} (p : HostProgram returns) (env : Environment)
    (nested : NestedCall) (m : Memory) :
    entriesOf (p.run env nested m).events =
      (p.callsMade env nested m).flatMap fun c => entriesOf (nested c.1 c.2).events := by
  induction p generalizing m with
  | finish => rfl
  | report violation next ih => exact (entriesOf_after [violation] _).trans (ih m)
  | classOf object next ih => exact (entriesOf_after _ _).trans (ih _ m)
  | fieldId cls name signature next ih => exact (entriesOf_after _ _).trans (ih _ m)
  | staticMethodId cls name signature next ih => exact (entriesOf_after _ _).trans (ih _ m)
  | readField object field type next ih =>
    rw [run, callsMade]
    cases env.getField m object field type.width with
    | ok bytes => exact ih _ m
    | error r => exact (entriesOf_after _ _).trans (ih _ m)
  | writeField object field value next ih =>
    rw [run, callsMade]
    cases env.setField m object field value.bytes with
    | ok m' => exact ih _ m'
    | error r => exact (entriesOf_after _ _).trans (ih _ m)
  | textOf object next ih => exact ih _ m
  | call request next ih =>
    rw [run, callsMade, Run.after, entriesOf_append, List.flatMap_cons, ih]

end HostProgram

namespace Environment

/-- A class lives at a handle: it is the first there of the classes that the environment knows. -/
structure Lives (env : Environment) (handle : Handle) (c : Class) : Prop where
  notNull : handle ≠ .null
  handle_eq : c.handle = handle
  first : ∃ front back, env.table.classes ++ env.detached = front ++ c :: back ∧
    ∀ other ∈ front, other.handle ≠ handle

/-- The method that a call names, and its identifier: the class at the identifier's handle declares
the method at the identifier's position. -/
structure Names (env : Environment) (c : MethodCall) (id : MethodId) (method : ManagedMethod) :
    Prop where
  given : c.method = some id
  declared : ∃ owner, env.Lives id.owner owner ∧ owner.methods[id.index]? = some method

/-- A class handle of a call is that of the class that declares the method. -/
def OwnedThrough (env : Environment) (id : MethodId) (target : CallTarget) : Prop :=
  ∀ cls, target.class? = some cls → ∃ owner, env.Lives cls owner ∧ id.owner = owner.handle

/-- The call meets every demand: it names the method, in the shape of its target, has no null
receiver and no class but the one that declares the method, and has a slot for each parameter. -/
structure Admits (env : Environment) (c : MethodCall) (id : MethodId) (method : ManagedMethod) :
    Prop extends env.Names c id method where
  shape : method.shape = c.target.shape
  receiver : c.target.receiver? ≠ some .null
  cls : env.OwnedThrough id c.target
  count : ∀ slots, c.arguments = .packed slots → slots.length = method.argCount

/-- The first demand that the call fails, in the order method, shape, receiver, class, owner and
number of slots, is answered with this refusal. -/
inductive Refuses (env : Environment) (c : MethodCall) : Refusal CallError → Prop where
  | method (none : ∀ id method, ¬env.Names c id method) : Refuses env c ⟨.nullHandle "method", []⟩
  | shape {id method} (names : env.Names c id method) (other : method.shape ≠ c.target.shape) :
      Refuses env c ⟨.shapeMismatch method.name c.target.shape method.shape, []⟩
  | receiver {id method} (names : env.Names c id method) (shape : method.shape = c.target.shape)
      (null : c.target.receiver? = some .null) :
      Refuses env c ⟨.nullHandle "receiver", [.nullHandle "call" "null receiver"]⟩
  | cls {id method cls} (names : env.Names c id method) (shape : method.shape = c.target.shape)
      (receiver : c.target.receiver? ≠ some .null) (given : c.target.class? = some cls)
      (none : ∀ owner, ¬env.Lives cls owner) : Refuses env c ⟨.nullHandle "class", []⟩
  | owner {id method cls owner} (names : env.Names c id method)
      (shape : method.shape = c.target.shape) (receiver : c.target.receiver? ≠ some .null)
      (given : c.target.class? = some cls) (lives : env.Lives cls owner)
      (other : id.owner ≠ owner.handle) :
      Refuses env c ⟨.classMismatch method.name owner.fullName, []⟩
  | count {id method slots} (names : env.Names c id method)
      (shape : method.shape = c.target.shape) (receiver : c.target.receiver? ≠ some .null)
      (cls : env.OwnedThrough id c.target)
      (packed : c.arguments = .packed slots) (other : slots.length ≠ method.argCount) :
      Refuses env c ⟨.arityMismatch method.name method.argCount slots.length, []⟩

section Checks

variable {env : Environment} {c : MethodCall} {id : MethodId} {method : ManagedMethod}

lemma classAt?_eq_some_iff {handle : Handle} {cls : Class} :
    env.classAt? handle = some cls ↔ env.Lives handle cls := by
  unfold classAt?
  by_cases hnull : handle = .null
  · subst hnull
    simp only [Handle.isNull_null, if_true, reduceCtorEq, false_iff]
    exact fun h => h.notNull rfl
  · rw [if_neg (mt (Handle.isNull_iff handle).mp hnull), List.find?_eq_some_iff_append]
    simp only [decide_eq_true_eq, Bool.not_eq_true', decide_eq_false_iff_not]
    exact ⟨fun ⟨hhandle, hfirst⟩ => ⟨hnull, hhandle, hfirst⟩, fun h => ⟨h.handle_eq, h.first⟩⟩

lemma methodAt?_eq_some_iff : env.methodAt? id = some method ↔
    ∃ owner, env.Lives id.owner owner ∧ owner.methods[id.index]? = some method := by
  rw [methodAt?, Option.bind_eq_some_iff]
  exact exists_congr fun owner => and_congr_left' classAt?_eq_some_iff

lemma checkedMethod_of_names (h : env.Names c id method) (expected : CallShape) :
    env.checkedMethod c.method expected =
      if method.shape = expected then .ok (id, method)
      else .error ⟨.shapeMismatch method.name expected method.shape, []⟩ := by
  simp only [checkedMethod, h.given, Option.bind_some, methodAt?_eq_some_iff.mpr h.declared,
    Option.map_some]

lemma checkReceiver_of_ne {target : CallTarget} (h : target.receiver? ≠ some .null) :
    checkReceiver target = .ok () := by
  unfold checkReceiver
  cases hreceiver : target.receiver? with
  | none => rfl
  | some receiver =>
    refine if_neg fun hnull => h ?_
    rw [hreceiver, (Handle.isNull_iff receiver).mp hnull]

lemma checkDeclaredBy_of_owner {target : CallTarget} (h : env.OwnedThrough id target) :
    env.checkDeclaredBy id method target = .ok () := by
  unfold checkDeclaredBy
  cases hcls : target.class? with
  | none => rfl
  | some cls =>
    obtain ⟨owner, hlives, howner⟩ := h cls hcls
    simp only [classAt?_eq_some_iff.mpr hlives, if_pos howner]

lemma checkCall_of_admits (h : env.Admits c id method) : env.checkCall c = .ok method := by
  have harity : checkArity method c.arguments = .ok () := by
    cases harguments : c.arguments with
    | packed slots => exact if_pos (h.count slots harguments).symm
    | variadic list => rfl
  simp only [checkCall, checkedMethod_of_names h.toNames, if_pos h.shape,
    checkReceiver_of_ne h.receiver, checkDeclaredBy_of_owner h.cls, harity]

lemma checkCall_of_refuses {r : Refusal CallError} (h : env.Refuses c r) :
    env.checkCall c = .error r := by
  unfold checkCall
  cases h with
  | method hnone =>
    have hchecked : env.checkedMethod c.method c.target.shape =
        .error ⟨.nullHandle "method", []⟩ := by
      unfold checkedMethod
      cases hgiven : c.method with
      | none => rfl
      | some id =>
        cases hfound : env.methodAt? id with
        | none => simp only [Option.bind_some, hfound, Option.map_none]
        | some method =>
          exact absurd ⟨hgiven, methodAt?_eq_some_iff.mp hfound⟩ (hnone id method)
    rw [hchecked]
  | shape names other => rw [checkedMethod_of_names names, if_neg other]
  | receiver names shape null =>
    simp only [checkedMethod_of_names names, if_pos shape, checkReceiver, null, Handle.isNull_null,
      if_true]
  | cls names shape receiver given hnone =>
    have hfound := Option.eq_none_iff_forall_ne_some.mpr fun owner =>
      mt classAt?_eq_some_iff.mp (hnone owner)
    simp only [checkedMethod_of_names names, if_pos shape, checkReceiver_of_ne receiver,
      checkDeclaredBy, given, hfound]
  | owner names shape receiver given lives other =>
    simp only [checkedMethod_of_names names, if_pos shape, checkReceiver_of_ne receiver,
      checkDeclaredBy, given, classAt?_eq_some_iff.mpr lives, if_neg other]
  | count names shape receiver cls packed other =>
    simp only [checkedMethod_of_names names, if_pos shape, checkReceiver_of_ne receiver,
      checkDeclaredBy_of_owner cls, checkArity, packed, if_neg (Ne.symm other)]

lemma admits_or_refuses (env : Environment) (c : MethodCall) :
    (∃ id method, env.Admits c id method) ∨ ∃ r, env.Refuses c r := by
  -- The demands are taken in the order in which the checks are made.
  by_cases hnames : ∃ id method, env.Names c id method
  · obtain ⟨id, method, names⟩ := hnames
    by_cases hshape : method.shape = c.target.shape
    · by_cases hreceiver : c.target.receiver? = some .null
      · exact .inr ⟨_, .receiver names hshape hreceiver⟩
      · by_cases hcls : env.OwnedThrough id c.target
        · by_cases hcount : ∀ slots, c.arguments = .packed slots → slots.length = method.argCount
          · exact .inl ⟨id, method, names, hshape, hreceiver, hcls, hcount⟩
          · push Not at hcount
            obtain ⟨slots, hpacked, hother⟩ := hcount
            exact .inr ⟨_, .count names hshape hreceiver hcls hpacked hother⟩
        · unfold OwnedThrough at hcls
          push Not at hcls
          obtain ⟨cls, hgiven, hother⟩ := hcls
          by_cases hlives : ∃ owner, env.Lives cls owner
          · obtain ⟨owner, hlives⟩ := hlives
            exact .inr ⟨_, .owner names hshape hreceiver hgiven hlives (hother owner hlives)⟩
          · push Not at hlives
            exact .inr ⟨_, .cls names hshape hreceiver hgiven hlives⟩
    · exact .inr ⟨_, .shape names hshape⟩
  · push Not at hnames
    exact .inr ⟨_, .method hnames⟩

end Checks

/-- The run of a call that enters the host function of the method once, with these arguments and a
prelude of the environment's handle and the handles of the target, and answers with its result.
Whatever else is entered is entered by the calls that the function makes. Packed arguments are the
contents of all the slots and of nothing else; from a list as many are taken as there are
parameters. -/
structure Enters (env : Environment) (nested : NestedCall) (c : MethodCall) (m : Memory)
    (method : ManagedMethod) (arguments : List Value) (prelude : Prelude method.shape)
    (run : Run CallOutcome) : Prop where
  environment : prelude.env = env.handle
  receiver : prelude.receiver? = c.target.receiver?
  cls : prelude.class? = c.target.class?
  result : run.value.result = .ok ((method.function.body prelude arguments).run env nested m).value
  memory : run.memory = ((method.function.body prelude arguments).run env nested m).memory
  entries : entriesOf run.events = method.function.entry prelude arguments ::
    ((method.function.body prelude arguments).callsMade env nested m).flatMap fun call =>
      entriesOf (nested call.1 call.2).events
  packed : ∀ slots, c.arguments = .packed slots →
    readSlots method.function.parameters slots = some (arguments, []) ∧
      run.value.arguments = .packed slots
  variadic : ∀ list, c.arguments = .variadic list →
    arguments = (extractVariadic method.function.parameters list).arguments ∧
      run.value.arguments = .variadic (extractVariadic method.function.parameters list).rest

/-- The run of a call is guarded: it answers with a result exactly when the call meets every demand,
and has then entered the host function once; else it answers with the error of the first demand that
the call fails, and has entered nothing, changed nothing and read no argument. -/
structure Guarded (env : Environment) (nested : NestedCall) (c : MethodCall) (m : Memory)
    (run : Run CallOutcome) : Prop where
  returns_iff : (∃ v, run.value.result = .ok v) ↔ ∃ id method, env.Admits c id method
  refuses_iff : ∀ e, run.value.result = .error e ↔ ∃ reports, env.Refuses c ⟨e, reports⟩
  entered : ∀ id method, env.Admits c id method → ∃ arguments prelude,
    env.Enters nested c m method arguments prelude run
  untouched : ∀ r, env.Refuses c r →
    run = ⟨⟨.error r.cause, c.arguments⟩, m, r.reports.map .violation⟩ ∧ entriesOf run.events = []

section Calls

variable {env : Environment} {nested : NestedCall} {c : MethodCall} {id : MethodId}
  {method : ManagedMethod}

lemma env_prelude (frame : CallFrame) (shape : CallShape) :
    (frame.prelude shape).env = frame.env := by
  cases shape <;> rfl

lemma receiver?_prelude_frame (target : CallTarget) (handle : Handle) {shape : CallShape}
    (h : shape = target.shape) :
    ((target.frame handle).prelude shape).receiver? = target.receiver? := by
  subst h
  cases target <;> rfl

lemma class?_prelude_frame (target : CallTarget) (handle : Handle) {shape : CallShape}
    (h : shape = target.shape) :
    ((target.frame handle).prelude shape).class? = target.class? := by
  subst h
  cases target <;> rfl

lemma callWith_of_refuses {r : Refusal CallError} (h : env.Refuses c r) (m : Memory) :
    env.callWith nested c m = ⟨⟨.error r.cause, c.arguments⟩, m, r.reports.map .violation⟩ := by
  simp only [callWith, checkCall_of_refuses h]

lemma callWith_of_admits (h : env.Admits c id method) (m : Memory) :
    let prelude := (c.target.frame env.handle).prelude method.shape
    let body := method.function.body prelude (method.argumentsOf c.arguments)
    env.callWith nested c m =
      ((body.run env nested m).map fun v => ⟨.ok v, method.argumentsLeft c.arguments⟩).after
        (method.argumentEvents c.arguments ++
          [.entered (method.function.entry prelude (method.argumentsOf c.arguments))]) := by
  simp only [callWith, checkCall_of_admits h]
  cases c.arguments with
  | packed slots =>
    simp only [invoke, ManagedMethod.invokePacked, ManagedMethod.enter, Run.after, Run.map,
      List.append_assoc]
    rfl
  | variadic list =>
    simp only [invoke, ManagedMethod.invokeVariadic, ManagedMethod.enter, Run.after, Run.map,
      List.append_assoc]
    rfl

lemma enters_of_admits (h : env.Admits c id method) (m : Memory) :
    env.Enters nested c m method (method.argumentsOf c.arguments)
      ((c.target.frame env.handle).prelude method.shape) (env.callWith nested c m) := by
  rw [callWith_of_admits h]
  refine ⟨env_prelude _ _, receiver?_prelude_frame _ _ h.shape, class?_prelude_frame _ _ h.shape,
    rfl, rfl, ?_, ?_, ?_⟩
  · rw [Run.after, entriesOf_append, entriesOf_append, method.entriesOf_argumentEvents, Run.map,
      HostProgram.entriesOf_run]
    rfl
  · intro slots hpacked
    have hcount : slots.length = method.function.parameters.length := h.count slots hpacked
    rw [hpacked, readSlots_of_length_le hcount.ge, ← hcount, List.drop_length]
    exact ⟨rfl, rfl⟩
  · intro list hvariadic
    rw [hvariadic]
    exact ⟨rfl, rfl⟩

/-- Calls are guarded, however the calls that host functions make are answered. -/
theorem guarded_callWith (env : Environment) (nested : NestedCall) (c : MethodCall) (m : Memory) :
    env.Guarded nested c m (env.callWith nested c m) := by
  refine ⟨⟨?_, ?_⟩, fun e => ⟨?_, ?_⟩, fun id method h => ⟨_, _, enters_of_admits h m⟩, ?_⟩
  · rintro ⟨v, hok⟩
    obtain hadmits | ⟨r, hrefuses⟩ := admits_or_refuses env c
    · exact hadmits
    · rw [callWith_of_refuses hrefuses] at hok
      cases hok
  · rintro ⟨id, method, hadmits⟩
    exact ⟨_, (enters_of_admits hadmits m).result⟩
  · intro herror
    obtain ⟨id, method, hadmits⟩ | ⟨r, hrefuses⟩ := admits_or_refuses env c
    · rw [(enters_of_admits hadmits m).result] at herror
      cases herror
    · rw [callWith_of_refuses hrefuses] at herror
      cases herror
      exact ⟨r.reports, hrefuses⟩
  · rintro ⟨reports, hrefuses⟩
    rw [callWith_of_refuses hrefuses]
  · intro r hrefuses
    rw [callWith_of_refuses hrefuses]
    exact ⟨rfl, entriesOf_violations r.reports⟩

end Calls

/-- Each of the six ways to call a method is guarded: virtual, static and non-virtual, with packed
arguments and with a list, whatever the identifier, the handles and the arguments. So are the calls
that host functions make, at every level, and any call however those nested in it are answered. -/
theorem calls_guarded (env : Environment) (receiver cls : Handle) (method : Option MethodId)
    (slots : List Slot) (list : VarArgs) (m : Memory) :
    let guarded := fun target arguments run =>
      env.Guarded env.nestedCall ⟨target, method, arguments⟩ m run
    guarded (.virtual receiver) (.packed slots) (env.callVirtualPacked receiver method slots m) ∧
    guarded (.virtual receiver) (.variadic list)
      (env.callVirtualVariadic receiver method list m) ∧
    guarded (.static cls) (.packed slots) (env.callStaticPacked cls method slots m) ∧
    guarded (.static cls) (.variadic list) (env.callStaticVariadic cls method list m) ∧
    guarded (.nonvirtual receiver cls) (.packed slots)
      (env.callNonvirtualPacked receiver cls method slots m) ∧
    guarded (.nonvirtual receiver cls) (.variadic list)
      (env.callNonvirtualVariadic receiver cls method list m) ∧
    (∀ levels c memory, env.Guarded (env.callWithin levels) c memory
      (env.callWithin (levels + 1) c memory)) ∧
    ∀ nested c memory, env.Guarded nested c memory (env.callWith nested c memory) := by
  intro guarded
  -- The six ways differ in their targets and arguments only.
  have hcall : ∀ target arguments,
      guarded target arguments (env.call ⟨target, method, arguments⟩ m) :=
    fun target arguments => guarded_callWith env env.nestedCall ⟨target, method, arguments⟩ m
  refine ⟨hcall _ _, hcall _ _, hcall _ _, hcall _ _, hcall _ _, hcall _ _, ?_, ?_⟩
  · intro levels c memory
    exact guarded_callWith env (env.callWithin levels) c memory
  · exact guarded_callWith env

end Environment

namespace Sample

/-- The method `relay`, which calls the method `target` of its class. -/
def relayMethod : ManagedMethod := ⟨"relay", "(I)I", .static, relay⟩

/-- A class in which `target` doubles its argument. -/
def relayClass : Class :=
  { Builtin.bare "demo" "Relay" 8 ⟨0x80⟩ with
    methods := [relayMethod, ⟨"target", "(I)I", .static, twice⟩] }

end Sample

namespace Environment

/-- A static call with one slot enters the method, which makes a call of its own; without slots, as
a virtual call and through a null class handle the method is not entered. -/
theorem relay_entered_or_refused :
    let env := ofTable (ClassRegistry.empty.register Sample.relayClass).toTable []
    let m := Memory.empty .standard
    let id : MethodId := ⟨⟨0x80⟩, 0⟩
    let slots := [(Value.int 7).toSlot]
    let run := env.callStaticPacked ⟨0x80⟩ (some id) slots m
    (∃ arguments prelude, env.Enters env.nestedCall ⟨.static ⟨0x80⟩, some id, .packed slots⟩ m
      Sample.relayMethod arguments prelude run) ∧
    run.value.result = .ok (some (.int 14)) ∧
    (entriesOf run.events).map Entry.function = ["relay", "twice"] ∧
    env.callStaticPacked ⟨0x80⟩ (some id) [] m =
      ⟨⟨.error (.arityMismatch "relay" 1 0), .packed []⟩, m, []⟩ ∧
    env.callVirtualPacked ⟨0x500⟩ (some id) slots m =
      ⟨⟨.error (.shapeMismatch "relay" .virtual .static), .packed slots⟩, m, []⟩ ∧
    env.callStaticPacked .null (some id) slots m =
      ⟨⟨.error (.nullHandle "class"), .packed slots⟩, m, []⟩ := by
  intro env m id slots run
  have hlives : env.Lives ⟨0x80⟩ Sample.relayClass := classAt?_eq_some_iff.mp rfl
  have hnames : ∀ target arguments,
      env.Names ⟨target, some id, arguments⟩ id Sample.relayMethod :=
    fun target arguments => ⟨rfl, _, hlives, rfl⟩
  have howned : env.OwnedThrough id (.static ⟨0x80⟩) := by
    rintro cls ⟨⟩
    exact ⟨_, hlives, rfl⟩
  have hguarded := fun cls slots =>
    calls_guarded env ⟨0x500⟩ cls (some id) slots (.ofPromoted []) m
  obtain ⟨hvirtual, _, hstatic, _⟩ := hguarded ⟨0x80⟩ slots
  obtain ⟨_, _, hempty, _⟩ := hguarded ⟨0x80⟩ []
  obtain ⟨_, _, hnull, _⟩ := hguarded .null slots
  refine ⟨?_, rfl, rfl, ?_, ?_, ?_⟩
  · refine hstatic.entered id Sample.relayMethod ⟨hnames _ _, rfl, nofun, howned, ?_⟩
    rintro _ ⟨⟩
    rfl
  · exact (hempty.untouched _ (.count (hnames _ _) rfl nofun howned rfl (by decide))).1
  · exact (hvirtual.untouched _ (.shape (hnames _ _) nofun)).1
  · refine (hnull.untouched _ (.cls (hnames _ _) rfl nofun rfl ?_)).1
    exact fun owner h => h.notNull rfl

end Environment

end NativeBridge
