import NativeBridge.Environment.Interface
import NativeBridge.Proofs.CallGuards
import NativeBridge.Proofs.SlotBytes

/-!
# The interface table refines the host's calls

The table is a second way to call a method: it counts the slots itself, answers with a status and
writes the result through a pointer. This file proves that it does what the host does when it makes
the call with the first slots, one for each parameter, or with no slots where the pointer is null:
the same functions are entered, the same violations are reported, and the same memory is left. The
status says whether there is a result, and the result slot holds the bytes of the result or what it
held before.
-/

namespace NativeBridge

namespace Interface

lemma violationsOf_logged (records : List LogRecord) :
    violationsOf (records.map .logged) = [] := by
  unfold violationsOf
  rw [List.filterMap_map, List.filterMap_eq_nil_iff]
  exact fun _ _ => rfl

lemma entriesOf_logged (records : List LogRecord) : entriesOf (records.map .logged) = [] := by
  unfold entriesOf
  rw [List.filterMap_map, List.filterMap_eq_nil_iff]
  exact fun _ _ => rfl

/-- The number of parameters of the method with this identifier; none for a null identifier. -/
def parameterCount (env : Environment) (method : Option MethodId) : Nat :=
  match method.bind env.methodAt? with
  | some method => method.function.parameters.length
  | none => 0

/-- The first slots behind a pointer to arguments, which are none for a null pointer. -/
def firstSlots (count : Nat) : Option (List Slot) → List Slot
  | some slots => slots.take count
  | none => []

lemma argumentSlots_eq_firstSlots (env : Environment) (method : Option MethodId)
    (arguments : Option (List Slot)) :
    argumentSlots env method arguments = firstSlots (parameterCount env method) arguments := by
  have hcount : ((method.bind env.methodAt?).map ManagedMethod.argCount).getD 0 =
      parameterCount env method := by
    unfold parameterCount
    cases method.bind env.methodAt? <;> rfl
  unfold argumentSlots
  rw [hcount]
  cases arguments with
  | none => exact List.take_nil
  | some slots => rfl

/-- All eight bytes of a result: the bytes of the value and then zeros, or zeros alone where there
is no value. -/
def resultBytes : Option Value → List UInt8
  | some v => v.bytes ++ List.replicate (8 - v.type.width) 0
  | none => List.replicate 8 0

lemma bytes_slotOfResult (result : Option Value) :
    (slotOfResult result).bytes = resultBytes result := by
  cases result with
  | none => rfl
  | some v => exact v.bytes_toSlot

/-- A function of the table refines a call that the host makes: `answered` is what the function
leaves behind for a pointer to arguments and a result slot, and `called` what the host's call
does. -/
structure Refines (env : Environment) (c : MethodCall) (arguments : Option (List Slot))
    (resultSlot : Option Slot) (called : Run CallOutcome) (answered : Run Reply) : Prop where
  accepted : answered.value.status = statusOk ↔ ∃ v, called.value.result = .ok v
  refused : answered.value.status = statusError ↔ ∃ e, called.value.result = .error e
  /-- A result is written over all eight bytes of a slot, if there is one. -/
  written : ∀ v, called.value.result = .ok v →
    answered.value.resultSlot.map Slot.bytes = resultSlot.map fun _ => resultBytes v
  /-- There is no value for just the methods without a result. -/
  typed : ∀ v, called.value.result = .ok v →
    ∃ id method, env.Admits c id method ∧ v.map Value.type = method.function.returns
  kept : answered.value.status = statusError → answered.value.resultSlot = resultSlot
  nullArguments : arguments = none → answered.value.status = statusOk →
    ∃ id method, env.Admits c id method ∧ method.function.parameters = []
  memory : answered.memory = called.memory
  entries : entriesOf answered.events = entriesOf called.events
  violations : answered.violations = called.violations

section Calls

variable {env : Environment} {target : CallTarget} {method : Option MethodId}
  {arguments : Option (List Slot)}

lemma exists_admits_of_result {c : MethodCall} {m : Memory} {v : Option Value}
    (h : (env.call c m).value.result = .ok v) :
    ∃ id method, env.Admits c id method ∧ v.map Value.type = method.function.returns := by
  obtain ⟨id, method, hadmits⟩ | ⟨r, hrefuses⟩ := env.admits_or_refuses c
  · have hentered : env.Enters env.nestedCall c m method (method.argumentsOf c.arguments)
        ((c.target.frame env.handle).prelude method.shape) (env.call c m) :=
      Environment.enters_of_admits hadmits m
    have hresult := h.symm.trans hentered.result
    cases hresult
    exact ⟨id, method, hadmits, HostProgram.type_value_run _ env env.nestedCall m⟩
  · rw [Environment.call, Environment.callWith_of_refuses hrefuses] at h
    cases h

lemma parameters_of_null {id : MethodId} {called : ManagedMethod}
    (h : env.Admits (request env target method none) id called) :
    called.function.parameters = [] := by
  have hslots : (request env target method none).arguments = .packed [] := by
    rw [request, argumentSlots_eq_firstSlots]
    rfl
  have hcount : 0 = called.function.parameters.length := h.count [] hslots
  exact List.eq_nil_of_length_eq_zero hcount.symm

lemma callMethod_some (resultSlot : Option Slot) (m : Memory) :
    let called := env.call (request env target method arguments) m
    callMethod (some env) target method arguments resultSlot m =
      ⟨reply called.value resultSlot, called.memory,
        called.events ++ (failureRecords called.value).map .logged⟩ := rfl

lemma entriesOf_callMethod (resultSlot : Option Slot) (m : Memory) :
    entriesOf (callMethod (some env) target method arguments resultSlot m).events =
      entriesOf (env.call (request env target method arguments) m).events := by
  rw [callMethod_some, entriesOf_append, entriesOf_logged, List.append_nil]

lemma violations_callMethod (resultSlot : Option Slot) (m : Memory) :
    (callMethod (some env) target method arguments resultSlot m).violations =
      (env.call (request env target method arguments) m).violations := by
  rw [callMethod_some, Run.violations, violationsOf_append, violationsOf_logged, List.append_nil]
  rfl

lemma reply_of_ok {outcome : CallOutcome} {v : Option Value} (h : outcome.result = .ok v)
    (resultSlot : Option Slot) :
    reply outcome resultSlot = ⟨statusOk, resultSlot.map fun _ => slotOfResult v⟩ := by
  simp only [reply, h]

lemma reply_of_error {outcome : CallOutcome} {e : CallError} (h : outcome.result = .error e)
    (resultSlot : Option Slot) : reply outcome resultSlot = ⟨statusError, resultSlot⟩ := by
  simp only [reply, h]

theorem refines_callMethod (resultSlot : Option Slot) (m : Memory) :
    let c := request env target method arguments
    Refines env c arguments resultSlot (env.call c m)
      (callMethod (some env) target method arguments resultSlot m) := by
  intro c
  have hstatus : statusOk ≠ statusError := by decide
  -- The status and the slot are decided by the result of the call.
  cases hresult : (env.call c m).value.result with
  | ok v =>
    have hvalue : (callMethod (some env) target method arguments resultSlot m).value = _ :=
      reply_of_ok hresult resultSlot
    refine ⟨?_, ?_, ?_, fun w hw => exists_admits_of_result hw, ?_, ?_, rfl,
      entriesOf_callMethod resultSlot m, violations_callMethod resultSlot m⟩
    · simp [hvalue, hresult]
    · simp [hvalue, hresult, hstatus]
    · intro w hw
      cases hresult.symm.trans hw
      rw [hvalue, Option.map_map]
      exact congrArg (fun f => resultSlot.map f) (funext fun _ => bytes_slotOfResult v)
    · rw [hvalue]
      exact fun h => absurd h hstatus
    · rintro rfl _
      obtain ⟨id, called, hadmits, _⟩ := exists_admits_of_result hresult
      exact ⟨id, called, hadmits, parameters_of_null hadmits⟩
  | error e =>
    have hvalue : (callMethod (some env) target method arguments resultSlot m).value = _ :=
      reply_of_error hresult resultSlot
    refine ⟨?_, ?_, ?_, fun w hw => exists_admits_of_result hw, ?_, ?_, rfl,
      entriesOf_callMethod resultSlot m, violations_callMethod resultSlot m⟩
    · simp [hvalue, hresult, hstatus.symm]
    · simp [hvalue, hresult]
    · intro w hw
      cases hresult.symm.trans hw
    · rw [hvalue]
      exact fun _ => rfl
    · rw [hvalue]
      exact fun _ h => absurd h.symm hstatus

end Calls

/-- The two functions of the table refine the host's calls with packed arguments, and with a null
environment they report it and do nothing else. -/
theorem interface_refines_calls (env : Environment) (receiver cls : Handle)
    (method : Option MethodId) (arguments : Option (List Slot)) (resultSlot : Option Slot)
    (m : Memory) :
    let slots := firstSlots (parameterCount env method) arguments
    Refines env ⟨.virtual receiver, method, .packed slots⟩ arguments resultSlot
      (env.callVirtualPacked receiver method slots m)
      (callVirtual (some env) receiver method arguments resultSlot m) ∧
    Refines env ⟨.static cls, method, .packed slots⟩ arguments resultSlot
      (env.callStaticPacked cls method slots m)
      (callStatic (some env) cls method arguments resultSlot m) ∧
    callVirtual none receiver method arguments resultSlot m =
      ⟨⟨statusError, resultSlot⟩, m, [.violation nullEnvironment]⟩ ∧
    callStatic none cls method arguments resultSlot m =
      ⟨⟨statusError, resultSlot⟩, m, [.violation nullEnvironment]⟩ := by
  intro slots
  have hrequest : ∀ target, request env target method arguments = ⟨target, method, .packed slots⟩ :=
    fun target => by rw [request, argumentSlots_eq_firstSlots]
  have hrefines : ∀ target, Refines env ⟨target, method, .packed slots⟩ arguments resultSlot
      (env.call ⟨target, method, .packed slots⟩ m)
      (callMethod (some env) target method arguments resultSlot m) := by
    intro target
    rw [← hrequest target]
    exact refines_callMethod resultSlot m
  exact ⟨hrefines _, hrefines _, rfl, rfl⟩

/-- Through the table the method is called with the first of two slots, and its result is written
over all eight bytes; with a null pointer the call is refused and the result slot keeps its
bytes. -/
theorem relay_called_through_table :
    let env := Environment.ofTable (ClassRegistry.empty.register Sample.relayClass).toTable []
    let m := Memory.empty .standard
    let id : MethodId := ⟨⟨0x80⟩, 0⟩
    let answer := fun arguments =>
      callStatic (some env) ⟨0x80⟩ (some id) arguments (some ⟨0xdeadbeef⟩) m
    let called := answer (some [(Value.int 7).toSlot, (Value.int 9).toSlot])
    let refused := answer none
    called.value.status = statusOk ∧
    called.value.resultSlot.map Slot.bytes = some ((Value.int 14).bytes ++ [0, 0, 0, 0]) ∧
    entriesOf called.events =
      entriesOf (env.callStaticPacked ⟨0x80⟩ (some id) [(Value.int 7).toSlot] m).events ∧
    refused.value = ⟨statusError, some ⟨0xdeadbeef⟩⟩ ∧ entriesOf refused.events = [] := by
  intro env m id answer called refused
  obtain ⟨_, hcalled, _⟩ := interface_refines_calls env .null ⟨0x80⟩ (some id)
    (some [(Value.int 7).toSlot, (Value.int 9).toSlot]) (some ⟨0xdeadbeef⟩) m
  obtain ⟨_, hrefused, _⟩ :=
    interface_refines_calls env .null ⟨0x80⟩ (some id) none (some ⟨0xdeadbeef⟩) m
  have hstatus : refused.value.status = statusError := hrefused.refused.mpr ⟨_, rfl⟩
  have hslot : refused.value.resultSlot = some ⟨0xdeadbeef⟩ := hrefused.kept hstatus
  refine ⟨hcalled.accepted.mpr ⟨_, rfl⟩, hcalled.written _ rfl, hcalled.entries, ?_,
    hrefused.entries⟩
  rw [← hstatus, ← hslot]

end Interface

end NativeBridge
