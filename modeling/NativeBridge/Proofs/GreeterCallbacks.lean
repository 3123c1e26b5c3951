import Mathlib.Algebra.Group.Nat.Defs
import NativeBridge.Greeter.Basic
import NativeBridge.Proofs.InterfaceCalls
import NativeBridge.Proofs.MethodReach
import NativeBridge.Proofs.NestedResolution
import NativeBridge.Proofs.ResolutionRun
import NativeBridge.Proofs.StringMethods

/-!
# Calls back from the greeter's module

The module of the greeter is resolved, perhaps more than once, and its native methods are called.
Before it is resolved the methods that need the host answer -1. Once one resolution has succeeded
they reach the host methods that this resolution found, and resolutions after it change nothing.
-/

namespace NativeBridge

namespace Greeter

def twiceKey : MemberKey := ⟨"demo", "Greeter", "twice", "(I)I"⟩

def lengthKey : MemberKey := ⟨"java/lang", "String", "length", "()I"⟩

/-- A static method of one integer that returns twice its argument, wrapping. -/
structure Doubles (method : ManagedMethod) : Prop where
  shape : method.shape = .static
  parameters : method.function.parameters = [.int]
  result : ∀ prelude x (env : Environment) nested m,
    ((method.function.body prelude [.int x]).run env nested m).value = some (.int (2 * x))

lemma doubles_twice : Doubles ⟨"twice", "(I)I", .static, twice⟩ :=
  ⟨rfl, rfl, fun _ _ _ _ _ => rfl⟩

lemma importRequests_importTable (owner : Nat) :
    importRequests (importTable owner) =
      [.ofKey 0 twiceKey .static, .ofKey 1 lengthKey .virtual] := by
  have hslotless : importRequests (importTable owner) = importRequests (importTable 0) := rfl
  rw [hslotless]
  decide +kernel

section Module

variable {owner : Nat} {lib : Library}

lemma interface_imports (hfile : lib.file = libraryFile owner) :
    lib.interface.imports = [.ofKey 0 twiceKey .static, .ofKey 1 lengthKey .virtual] := by
  unfold Library.interface Library.importTable
  rw [hfile]
  exact importRequests_importTable owner

lemma interface_slot (hfile : lib.file = libraryFile owner) :
    lib.interface.slot = fun index => (importTable owner)[index]?.map ImportDescriptor.slot := by
  unfold Library.interface Library.importTable
  rw [hfile]
  rfl

lemma interface_ownSlots (hfile : lib.file = libraryFile owner) : lib.interface.OwnSlots := by
  apply lib.interface_ownSlots
  unfold Library.importTable
  rw [hfile]
  change [twiceSlot owner, lengthSlot owner].Nodup
  simp [twiceSlot, lengthSlot]

/-- The slots of the module hold the methods that a table finds. -/
structure Connected (owner : Nat) (t : ClassTable) (l : Linkage) : Prop where
  twice : ∃ id method, l.imports (twiceSlot owner) = some id ∧
    t.findMethod? twiceKey = some (id, method)
  length : ∃ id method, l.imports (lengthSlot owner) = some id ∧
    t.findMethod? lengthKey = some (id, method)

lemma connected_of_ok (hfile : lib.file = libraryFile owner) {t : ClassTable} {l : Linkage}
    {report : ResolveReport} (h : (lib.toModule.resolve t l).value.result = .ok report) :
    Connected owner t (lib.toModule.resolve t l).linkage ∧
      ∃ state, (lib.toModule.resolve t l).linkage.ledger lib.name = some state := by
  have hslots : lib.toModule.interface.OwnSlots := interface_ownSlots hfile
  have hrequests : lib.toModule.interface.imports = _ := interface_imports hfile
  obtain ⟨hentry, himports⟩ := ForeignModule.imports_resolve_of_ok hslots h
  rw [hrequests, List.forall_mem_cons, List.forall_mem_singleton] at himports
  obtain ⟨⟨slot, id, method, hslot, hbound, hfind, _⟩,
    ⟨slot', id', method', hslot', hbound', hfind', _⟩⟩ := himports
  change lib.interface.slot 0 = some slot at hslot
  change lib.interface.slot 1 = some slot' at hslot'
  rw [interface_slot hfile] at hslot hslot'
  obtain rfl : twiceSlot owner = slot := Option.some.inj hslot
  obtain rfl : lengthSlot owner = slot' := Option.some.inj hslot'
  exact ⟨⟨⟨id, method, hbound, hfind⟩, ⟨id', method', hbound', hfind'⟩⟩, _, hentry⟩

/-- If one of the attempts to resolve the module has succeeded, the module is connected with the
table of that attempt. -/
lemma connected_linkageAfter (hfile : lib.file = libraryFile owner)
    {before rest : List ResolutionCall} {c : ResolutionCall}
    (hmodule : ∀ c' ∈ before ++ c :: rest, c'.module = lib.toModule) {l : Linkage}
    {report : ResolveReport} (h : (c.attempt (linkageAfter before l)).result = .ok report) :
    Connected owner c.table (linkageAfter (before ++ c :: rest) l) := by
  obtain ⟨_, hmodule⟩ := List.forall_mem_append.mp hmodule
  obtain ⟨hc, hrest⟩ := List.forall_mem_cons.mp hmodule
  unfold ResolutionCall.attempt at h
  rw [hc] at h
  obtain ⟨hconnected, state, hentry⟩ := connected_of_ok hfile h
  have hnames : ∀ c' ∈ rest, c'.name = lib.name := by
    intro c' hc'
    unfold ResolutionCall.name
    rw [hrest c' hc']
    rfl
  have hafter : c.after (linkageAfter before l) =
      (lib.toModule.resolve c.table (linkageAfter before l)).linkage := by
    unfold ResolutionCall.after
    rw [hc]
  rw [linkageAfter_append]
  change Connected owner c.table (linkageAfter rest (c.after (linkageAfter before l)))
  rw [hafter, linkageAfter_of_claimed hnames hentry]
  exact hconnected

end Module

lemma integerOf_int (status y : Int32) :
    integerOf ⟨status, some (Interface.slotOfResult (some (.int y)))⟩ = y :=
  Value.int.inj (Value.ofSlot_toSlot (.int y))

section Calls

variable {env : Environment} {l : Linkage} {owner : Nat} {id : MethodId} {method : ManagedMethod}

lemma shout_of_owner (hslot : l.imports (twiceSlot owner) = some id)
    (hmethod : env.methodAt? id = some method) (hdoubles : Doubles method) (x : Int32)
    (m : Memory) :
    (shout env l owner id.owner x m).value = 2 * x + 1 := by
  have hcount : method.argCount = 1 := by
    unfold ManagedMethod.argCount HostFunction.argCount
    rw [hdoubles.parameters]
    rfl
  -- The module passes one slot, since the method that its slot names has one parameter.
  have hslots : Interface.argumentSlots env (some id) (some [(Value.int x).toSlot]) =
      [(Value.int x).toSlot] := by
    rw [Interface.argumentSlots_of_methodAt? hmethod, hcount]
    rfl
  have hchecked : env.checkCall (Interface.request env (.static id.owner) (some id)
      (some [(Value.int x).toSlot])) = .ok method := by
    unfold Interface.request
    rw [hslots]
    exact Environment.checkCall_static_of_owner hmethod hdoubles.shape hcount
  have hargument : extractPacked method.function.parameters [(Value.int x).toSlot] = [.int x] := by
    rw [hdoubles.parameters]
    exact congrArg (fun v => [v]) (Value.ofSlot_toSlot (.int x))
  have hresult : (method.invokePacked env env.nestedCall
      ((CallTarget.static id.owner).frame env.handle) [(Value.int x).toSlot] m).value =
        some (.int (2 * x)) := by
    unfold ManagedMethod.invokePacked ManagedMethod.enter
    rw [hargument]
    exact hdoubles.result _ x env env.nestedCall m
  unfold shout Interface.callStatic
  rw [hslot]
  simp only [Interface.callMethod_of_checked hchecked, hslots, hresult, Option.map_some, Run.map,
    if_true]
  rw [integerOf_int]

lemma shout_of_ne (hslot : l.imports (twiceSlot owner) = some id)
    (hmethod : env.methodAt? id = some method) (hdoubles : Doubles method) {cls : Handle}
    (hcls : cls ≠ id.owner) (x : Int32) (m : Memory) : (shout env l owner cls x m).value = -1 := by
  obtain ⟨r, hrefused⟩ := Environment.checkCall_static_of_ne hmethod hdoubles.shape hcls
    (.packed (Interface.argumentSlots env (some id) (some [(Value.int x).toSlot])))
  obtain ⟨hreply, _⟩ := Interface.callMethod_of_refused hrefused (some .zero) m
  unfold shout Interface.callStatic
  rw [hslot]
  simp only [Run.map, hreply]
  rfl

def lengthMethod : ManagedMethod := ⟨"length", "()I", .virtual, Builtin.stringLength⟩

lemma measure_of_checked (hslot : l.imports (lengthSlot owner) = some id)
    (hmethod : env.methodAt? id = some lengthMethod) {text : Handle} (htext : text.isNull = false)
    (m : Memory) {y : Int32} {events : List Event}
    (hrun : (Builtin.stringLength.body ⟨env.handle, text⟩ []).run env env.nestedCall m =
      ⟨some (.int y), m, events⟩) :
    (measure env l owner text m).value = y ∧
      (measure env l owner text m).violations = violationsOf events := by
  have hslots : Interface.argumentSlots env (some id) none = [] :=
    Interface.argumentSlots_of_methodAt? hmethod none
  have hchecked : env.checkCall (Interface.request env (.virtual text) (some id) none) =
      .ok lengthMethod := by
    unfold Interface.request
    rw [hslots]
    exact Environment.checkCall_virtual hmethod rfl htext rfl
  have hentered : lengthMethod.invokePacked env env.nestedCall
      ((CallTarget.virtual text).frame env.handle) [] m =
      ⟨some (.int y), m,
        .entered (Builtin.stringLength.entry ⟨env.handle, text⟩ []) :: events⟩ := by
    unfold ManagedMethod.invokePacked ManagedMethod.enter
    -- Entered with the receiver, the builtin method runs as it does on its own.
    have hbody : (lengthMethod.function.body
        (((CallTarget.virtual text).frame env.handle).prelude lengthMethod.shape)
        (extractPacked lengthMethod.function.parameters [])).run env env.nestedCall m =
        ⟨some (.int y), m, events⟩ := hrun
    simp only [hbody]
    rfl
  have hanswer :
      Interface.callMethod (some env) (.virtual text) (some id) none (some .zero) m = _ :=
    Interface.callMethod_of_checked hchecked (some .zero) m
  rw [hslots, hentered] at hanswer
  unfold measure Interface.callVirtual
  rw [hslot]
  simp only [hanswer, Option.map_some, Run.map, Run.violations, if_true]
  exact ⟨integerOf_int _ y, rfl⟩

lemma measure_null (hslot : l.imports (lengthSlot owner) = some id)
    (hmethod : env.methodAt? id = some lengthMethod) (m : Memory) :
    (measure env l owner .null m).value = -1 := by
  obtain ⟨r, hrefused⟩ := Environment.checkCall_virtual_null hmethod rfl
    (.packed (Interface.argumentSlots env (some id) none))
  obtain ⟨hreply, _⟩ := Interface.callMethod_of_refused hrefused (some .zero) m
  unfold measure Interface.callVirtual
  rw [hslot]
  simp only [Run.map, hreply]
  rfl

lemma measure_of_string (hslot : l.imports (lengthSlot owner) = some id)
    (hmethod : env.methodAt? id = some lengthMethod) {m : Memory} {text : Handle} {s : StringObject}
    (htext : env.stringAt? m text = some s) :
    (measure env l owner text m).value = Int32.ofNat s.utf16Length := by
  have hnull : text.isNull = false := Environment.isNull_of_stringAt? htext
  have hrun := Builtin.StringQuestion.length.run_of_string htext env.nestedCall env.handle .null
  exact (measure_of_checked hslot hmethod hnull m hrun).1

lemma measure_of_other (hslot : l.imports (lengthSlot owner) = some id)
    (hmethod : env.methodAt? id = some lengthMethod) {m : Memory} {text : Handle} {c : Class}
    (hclass : env.classOf? m text = some c) (hother : StringObject.accepts c = false) :
    (measure env l owner text m).value = 0 ∧
      (measure env l owner text m).violations =
        [.classMismatch "String.length" "receiver is not a String"] := by
  have hnull : text.isNull = false := Environment.isNull_of_classOf? hclass
  have htext : env.stringAt? m text = none := Environment.stringAt?_of_foreign hclass hother
  have hrun := Builtin.StringQuestion.length.run_of_other htext env.nestedCall env.handle .null
  exact measure_of_checked hslot hmethod hnull m hrun

end Calls

lemma eq_lengthMethod_of_findMethod? {t : ClassTable} {id : MethodId} {method : ManagedMethod}
    (hstring : ∀ c, t.get? "java/lang" "String" = some c → c = Builtin.stringClass c.handle)
    (h : t.findMethod? lengthKey = some (id, method)) : method = lengthMethod := by
  obtain ⟨c, hc, hfind⟩ := Option.bind_eq_some_iff.mp h
  rw [hstring c hc] at hfind
  have hfirst : (Builtin.stringClass c.handle).findMethod? lengthKey.name lengthKey.signature =
      some (⟨c.handle, 0⟩, lengthMethod) := rfl
  rw [hfirst] at hfind
  exact (Prod.mk.inj (Option.some.inj hfind)).2.symm

/-- After any attempts to resolve the module, against tables whose doubling method doubles and whose
strings are the builtin ones: `add` adds; while none has succeeded the other native methods answer
-1; and once one has they call back into the table of that attempt, whatever is attempted later. -/
theorem calls_back_once_resolved (owner : Nat) (lib : Library)
    (hfile : lib.file = libraryFile owner) (env : Environment) (calls : List ResolutionCall)
    (hmodule : ∀ c ∈ calls, c.module = lib.toModule)
    (hclasses : ∀ c ∈ calls, c.table.Within env.classAt?)
    (htwice : ∀ c ∈ calls, ∀ id method,
      c.table.findMethod? twiceKey = some (id, method) → Doubles method)
    (hstring : ∀ c ∈ calls, ∀ cls,
      c.table.get? "java/lang" "String" = some cls → cls = Builtin.stringClass cls.handle)
    (start : Linkage) (htwiceSlot : start.imports (twiceSlot owner) = none)
    (hlengthSlot : start.imports (lengthSlot owner) = none) :
    let l := linkageAfter calls start
    (∀ a b, (add a b).toInt = (a.toInt + b.toInt).bmod (2 ^ 32)) ∧
    ((∀ e ∈ historyOf calls start, ¬e.Succeeded) →
      (∀ cls x m, (shout env l owner cls x m).value = -1) ∧
        ∀ text m, (measure env l owner text m).value = -1) ∧
    ∀ before c rest report, calls = before ++ c :: rest →
      (c.attempt (linkageAfter before start)).result = .ok report →
      ∃ greeter, c.table.get? "demo" "Greeter" = some greeter ∧
        (∀ x m, (shout env l owner greeter.handle x m).value.toInt =
          (2 * x.toInt + 1).bmod (2 ^ 32)) ∧
        (∀ cls x m, cls ≠ greeter.handle → (shout env l owner cls x m).value = -1) ∧
        (∀ m text s, env.stringAt? m text = some s → s.utf16Length < 2 ^ 31 →
          (measure env l owner text m).value.toInt = s.utf16Length) ∧
        (∀ m text cls, env.classOf? m text = some cls → StringObject.accepts cls = false →
          (measure env l owner text m).value = 0 ∧
            (measure env l owner text m).violations.length = 1) ∧
        ∀ m, (measure env l owner .null m).value = -1 := by
  intro l
  refine ⟨fun a b => a.toInt_add b, ?_, ?_⟩
  · intro hfailed
    have hplain : ∀ c ∈ calls, ∃ i, c.module = .mk i .none := fun c hc =>
      ⟨lib.interface, hmodule c hc⟩
    have hl : l = start := linkageAfter_of_failed hplain hfailed
    rw [hl]
    constructor
    · intro cls x m
      simp only [shout, htwiceSlot]
      rfl
    · intro text m
      simp only [measure, hlengthSlot]
      rfl
  · intro before c rest report hcalls hok
    have hc : c ∈ calls := hcalls ▸ List.mem_append_right before List.mem_cons_self
    have hconnected : Connected owner c.table l := by
      unfold l
      rw [hcalls]
      exact connected_linkageAfter hfile (hcalls ▸ hmodule) hok
    obtain ⟨⟨id, method, hslot, hfind⟩, ⟨id', method', hslot', hfind'⟩⟩ := hconnected
    have hmethod := Environment.methodAt?_of_findMethod? (hclasses c hc) hfind
    have hmethod' := Environment.methodAt?_of_findMethod? (hclasses c hc) hfind'
    rw [eq_lengthMethod_of_findMethod? (hstring c hc) hfind'] at hmethod'
    have hdoubles := htwice c hc id method hfind
    obtain ⟨greeter, hgreeter, howner, _⟩ := ClassTable.findMethod?_eq_some_iff.mp hfind
    refine ⟨greeter, hgreeter, ?_, ?_, ?_, ?_, fun m => measure_null hslot' hmethod' m⟩
    · intro x m
      rw [← howner, shout_of_owner hslot hmethod hdoubles x m, Int32.toInt_add, Int32.toInt_mul]
      simp
    · intro cls x m hcls
      exact shout_of_ne hslot hmethod hdoubles (howner ▸ hcls) x m
    · intro m text s htext hlength
      rw [measure_of_string hslot' hmethod' htext, Int32.toInt_ofNat_of_lt hlength]
    · intro m text cls hclass hother
      obtain ⟨hvalue, hviolations⟩ := measure_of_other hslot' hmethod' hclass hother
      exact ⟨hvalue, by rw [hviolations]; rfl⟩

end Greeter

namespace Sample

/-- The greeter's class, with the method that doubles. -/
def greeterClass : Class := Greeter.greeterClass Greeter.demoModule true none ⟨0x80⟩

/-- The first copy of the greeter's module. -/
def greeterLibrary : Library :=
  ⟨Greeter.demoModule, "lib/libjnishim_demo.so", Greeter.libraryFile 1⟩

def greeterTable : ClassTable :=
  ((ClassRegistry.empty.register (Builtin.stringClass ⟨0x40⟩)).register greeterClass).toTable

/-- The table of the greeter alone, in which the module finds no strings. -/
def wordlessTable : ClassTable := (ClassRegistry.empty.register greeterClass).toTable

/-- An attempt that misses the strings, one that succeeds, and one too many. -/
def greeterAttempts : List ResolutionCall :=
  [⟨wordlessTable, greeterLibrary.toModule⟩, ⟨greeterTable, greeterLibrary.toModule⟩,
    ⟨greeterTable, greeterLibrary.toModule⟩]

/-- A memory with a string of three UTF-16 units and an instance of the greeter. -/
def greeterMemory : Memory :=
  ((Memory.empty .standard).write ⟨0x500⟩ (.string ⟨⟨0x40⟩, bufferAddress, bufferAddress, 7,
    Utf8.encode ['é', '𝄞']⟩)).write ⟨0x600⟩ (.zeroed greeterClass)

end Sample

namespace Greeter

lemma table_of_mem_greeterAttempts {c : ResolutionCall} (hc : c ∈ Sample.greeterAttempts) :
    c.table = Sample.wordlessTable ∨ c.table = Sample.greeterTable := by
  revert c
  simp [Sample.greeterAttempts]

lemma within_greeterAttempts {c : ResolutionCall} (hc : c ∈ Sample.greeterAttempts) :
    c.table.Within (Environment.ofTable Sample.greeterTable []).classAt? := by
  intro cls hcls
  have hmem : cls ∈ [Builtin.stringClass ⟨0x40⟩, Sample.greeterClass] := by
    obtain h | h := table_of_mem_greeterAttempts hc
    · rw [h] at hcls
      exact List.mem_cons_of_mem _ hcls
    · rw [h] at hcls
      exact hcls
  obtain rfl | hcls := List.mem_cons.mp hmem
  · rfl
  · obtain rfl := List.mem_singleton.mp hcls
    rfl

lemma doubles_of_greeterAttempts {c : ResolutionCall} (hc : c ∈ Sample.greeterAttempts)
    {id : MethodId} {method : ManagedMethod}
    (hfind : c.table.findMethod? twiceKey = some (id, method)) : Doubles method := by
  have hfound : c.table.findMethod? twiceKey =
      some (⟨⟨0x80⟩, 0⟩, ⟨"twice", "(I)I", .static, twice⟩) := by
    obtain h | h := table_of_mem_greeterAttempts hc
    · rw [h]
      rfl
    · rw [h]
      rfl
  rw [hfound] at hfind
  obtain ⟨_, rfl⟩ := Prod.mk.inj (Option.some.inj hfind)
  exact doubles_twice

lemma eq_stringClass_of_greeterAttempts {c : ResolutionCall} (hc : c ∈ Sample.greeterAttempts)
    {cls : Class} (hcls : c.table.get? "java/lang" "String" = some cls) :
    cls = Builtin.stringClass cls.handle := by
  obtain h | h := table_of_mem_greeterAttempts hc
  · rw [h] at hcls
    cases hcls
  · rw [h] at hcls
    obtain rfl := Option.some.inj hcls
    rfl

theorem calls_back_after_second_attempt :
    let env := Environment.ofTable Sample.greeterTable []
    let l := linkageAfter Sample.greeterAttempts .empty
    (∀ c ∈ Sample.greeterAttempts, c.module = Sample.greeterLibrary.toModule) ∧
      (∀ c ∈ Sample.greeterAttempts, c.table.Within env.classAt?) ∧
      (∀ c ∈ Sample.greeterAttempts, ∀ id method,
        c.table.findMethod? twiceKey = some (id, method) → Doubles method) ∧
      (∀ c ∈ Sample.greeterAttempts, ∀ cls,
        c.table.get? "java/lang" "String" = some cls → cls = Builtin.stringClass cls.handle) ∧
      (shout env l 1 ⟨0x80⟩ 0x40000000 Sample.greeterMemory).value.toInt = -2147483647 ∧
      (shout env l 1 ⟨0x40⟩ 7 Sample.greeterMemory).value = -1 ∧
      (measure env l 1 ⟨0x500⟩ Sample.greeterMemory).value.toInt = 3 ∧
      (measure env l 1 ⟨0x600⟩ Sample.greeterMemory).value = 0 := by
  intro env l
  have hmodule : ∀ c ∈ Sample.greeterAttempts, c.module = Sample.greeterLibrary.toModule := by
    simp [Sample.greeterAttempts]
  have hclasses : ∀ c ∈ Sample.greeterAttempts, c.table.Within env.classAt? :=
    fun _ hc => within_greeterAttempts hc
  have htwice : ∀ c ∈ Sample.greeterAttempts, ∀ id method,
      c.table.findMethod? twiceKey = some (id, method) → Doubles method :=
    fun _ hc _ _ hfind => doubles_of_greeterAttempts hc hfind
  have hstring : ∀ c ∈ Sample.greeterAttempts, ∀ cls,
      c.table.get? "java/lang" "String" = some cls → cls = Builtin.stringClass cls.handle :=
    fun _ hc _ hcls => eq_stringClass_of_greeterAttempts hc hcls
  obtain ⟨_, _, hcalls⟩ := calls_back_once_resolved 1 Sample.greeterLibrary rfl env
    Sample.greeterAttempts hmodule hclasses htwice hstring .empty rfl rfl
  have hmisses : Sample.greeterLibrary.interface.misses Sample.greeterTable = [] := by
    decide +kernel
  have hfree : (linkageAfter (Sample.greeterAttempts.take 1) .empty).ledger demoModule = none := by
    decide +kernel
  have hok := (ResolutionCall.result_of_free
    ⟨Sample.greeterTable, Sample.greeterLibrary.toModule⟩ hfree).trans
      (ModuleInterface.outcome_eq_ok_iff.mpr ⟨hmisses, rfl⟩)
  obtain ⟨greeter, hgreeter, hshout, hother, hmeasure, hempty, _⟩ :=
    hcalls (Sample.greeterAttempts.take 1) _ _ _ rfl hok
  obtain rfl : Sample.greeterClass = greeter := Option.some.inj hgreeter
  refine ⟨hmodule, hclasses, htwice, hstring, ?_, ?_, ?_, ?_⟩
  · exact (hshout 0x40000000 Sample.greeterMemory).trans (by decide)
  · exact hother ⟨0x40⟩ 7 Sample.greeterMemory (by decide)
  · have hlength : StringObject.utf16Length ⟨⟨0x40⟩, bufferAddress, bufferAddress, 7,
        Utf8.encode ['é', '𝄞']⟩ = 3 := by
      decide +kernel
    have htext := hmeasure Sample.greeterMemory ⟨0x500⟩ _ rfl (by rw [hlength]; decide)
    rw [htext, hlength]
    rfl
  · exact (hempty Sample.greeterMemory ⟨0x600⟩ Sample.greeterClass rfl rfl).1

end Greeter

end NativeBridge
