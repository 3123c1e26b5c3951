import NativeBridge.Environment.Call
import NativeBridge.Proofs.ArgumentPassing
import NativeBridge.Sample.Probe

/-!
# The two forms of a call

A host function can be entered with packed arguments or with a variable argument list. This file
proves that both forms make the same call when the values suit the parameters: the function is
entered once, after its arguments have been read in declaration order without a violation, with the
same prelude and the same arguments, and it ends with the same result. A NaN can change its bits on
its way through a variable argument list, so for values with a NaN the results are compared for
functions that do not look at the bits of NaNs.
-/

namespace NativeBridge

namespace HostProgram

variable {returns : ReturnType}

/-- Two programs that make the same requests, go on alike whatever is answered, and end with results
that differ at most in their NaNs. -/
inductive Agree : HostProgram returns → HostProgram returns → Prop where
  | finish {v w hv hw} (h : v.map Value.canonical = w.map Value.canonical) :
      Agree (.finish v hv) (.finish w hw)
  | report {violation p q} (h : Agree p q) : Agree (.report violation p) (.report violation q)
  | classOf {object p q} (h : ∀ cls, Agree (p cls) (q cls)) :
      Agree (.classOf object p) (.classOf object q)
  | fieldId {cls name signature p q} (h : ∀ field, Agree (p field) (q field)) :
      Agree (.fieldId cls name signature p) (.fieldId cls name signature q)
  | staticMethodId {cls name signature p q} (h : ∀ method, Agree (p method) (q method)) :
      Agree (.staticMethodId cls name signature p) (.staticMethodId cls name signature q)
  | readField {object field type p q} (h : ∀ answer, Agree (p answer) (q answer)) :
      Agree (.readField object field type p) (.readField object field type q)
  | writeField {object field value p q} (h : ∀ answer, Agree (p answer) (q answer)) :
      Agree (.writeField object field value p) (.writeField object field value q)
  | textOf {object p q} (h : ∀ text, Agree (p text) (q text)) :
      Agree (.textOf object p) (.textOf object q)
  | call {request p q} (h : ∀ outcome, Agree (p outcome) (q outcome)) :
      Agree (.call request p) (.call request q)

theorem Agree.run {p q : HostProgram returns} (h : p.Agree q) (env : Environment)
    (nested : NestedCall) (m : Memory) :
    (p.run env nested m).value.map Value.canonical =
        (q.run env nested m).value.map Value.canonical ∧
      (p.run env nested m).memory = (q.run env nested m).memory ∧
      (p.run env nested m).events = (q.run env nested m).events := by
  -- What a request is answered depends on the memory, so both runs are followed in the same one.
  induction h generalizing m with
  | finish h => exact ⟨h, rfl, rfl⟩
  | report _ ih =>
    obtain ⟨hvalue, hmemory, hevents⟩ := ih m
    exact ⟨hvalue, hmemory, congrArg (_ ++ ·) hevents⟩
  | @classOf object _ _ _ ih =>
    obtain ⟨hvalue, hmemory, hevents⟩ := ih (env.getObjectClass m object).1 m
    exact ⟨hvalue, hmemory, congrArg (_ ++ ·) hevents⟩
  | @fieldId cls name signature _ _ _ ih =>
    obtain ⟨hvalue, hmemory, hevents⟩ := ih (env.getFieldId cls name signature).1 m
    exact ⟨hvalue, hmemory, congrArg (_ ++ ·) hevents⟩
  | @staticMethodId cls name signature _ _ _ ih =>
    obtain ⟨hvalue, hmemory, hevents⟩ := ih (env.getStaticMethodId cls name signature).1 m
    exact ⟨hvalue, hmemory, congrArg (_ ++ ·) hevents⟩
  | @readField object field type _ _ _ ih =>
    rw [HostProgram.run, HostProgram.run]
    cases env.getField m object field type.width with
    | ok bytes => exact ih (.ok (type.ofBytes bytes)) m
    | error refusal =>
      obtain ⟨hvalue, hmemory, hevents⟩ := ih (.error refusal.cause) m
      exact ⟨hvalue, hmemory, congrArg (_ ++ ·) hevents⟩
  | @writeField object field value _ _ _ ih =>
    rw [HostProgram.run, HostProgram.run]
    cases env.setField m object field value.bytes with
    | ok m' => exact ih (.ok ()) m'
    | error refusal =>
      obtain ⟨hvalue, hmemory, hevents⟩ := ih (.error refusal.cause) m
      exact ⟨hvalue, hmemory, congrArg (_ ++ ·) hevents⟩
  | @textOf object _ _ _ ih => exact ih ((env.stringAt? m object).map StringObject.bytes) m
  | @call request _ _ _ ih =>
    obtain ⟨hvalue, hmemory, hevents⟩ := ih (nested request m).value (nested request m).memory
    exact ⟨hvalue, hmemory, congrArg (_ ++ ·) hevents⟩

theorem type_value_run (p : HostProgram returns) (env : Environment) (nested : NestedCall)
    (m : Memory) : (p.run env nested m).value.map Value.type = returns := by
  induction p generalizing m with
  | finish _ typed => exact typed
  | report _ _ ih => exact ih m
  | classOf object _ ih => exact ih _ m
  | fieldId cls name signature _ ih => exact ih _ m
  | staticMethodId cls name signature _ ih => exact ih _ m
  | readField object field type _ ih =>
    rw [HostProgram.run]
    split
    · exact ih _ m
    · exact ih _ m
  | writeField object field value _ ih =>
    rw [HostProgram.run]
    split
    · exact ih _ _
    · exact ih _ m
  | textOf object _ ih => exact ih _ m
  | call request _ ih => exact ih _ _

end HostProgram

/-- A function that does not look at the bits of NaNs: for arguments that differ at most in their
NaNs it does the same. -/
def HostFunction.IgnoresNaNBits {shape : CallShape} (f : HostFunction shape) : Prop :=
  ∀ prelude arguments arguments', arguments.map Value.canonical = arguments'.map Value.canonical →
    (f.body prelude arguments).Agree (f.body prelude arguments')

namespace Probe

lemma contribution_canonical (v : Value) : contribution v.canonical = contribution v := by
  cases v with
  | float v =>
    by_cases h : v.isNaN = true
    · have hnan : Binary32.isNaN ⟨0x7fc00000⟩ = true := by decide
      simp [Value.canonical, Binary32.canonical, contribution, h, hnan]
    · simp [Value.canonical, Binary32.canonical, h]
  | double v =>
    by_cases h : v.isNaN = true
    · have hnan : Binary64.isNaN ⟨0x7ff8000000000000⟩ = true := by decide
      simp [Value.canonical, Binary64.canonical, contribution, h, hnan]
    · simp [Value.canonical, Binary64.canonical, h]
  | _ => rfl

lemma checksum_canonical (arguments : List Value) :
    checksum (arguments.map Value.canonical) = checksum arguments := by
  unfold checksum
  rw [List.foldl_map]
  simp only [contribution_canonical]

theorem make_ignoresNaNBits (shape : CallShape) (key : String) (parameters : List ParamType)
    (result? : Option ParamType) : (make shape key parameters result?).IgnoresNaNBits := by
  intro prelude arguments arguments' h
  have hchecksum : checksum arguments = checksum arguments' := by
    rw [← checksum_canonical arguments, h, checksum_canonical]
  apply HostProgram.Agree.finish
  rw [hchecksum]

end Probe

/-- The function entered by an event, with its prelude and arguments, if the event enters one. -/
def Event.entry? : Event → Option Entry
  | .entered entry => some entry
  | _ => none

def entriesOf (events : List Event) : List Entry := events.filterMap Event.entry?

section Events

variable (events events' : List Event) (p : ParamType) (v : Value)

lemma violationsOf_append :
    violationsOf (events ++ events') = violationsOf events ++ violationsOf events' :=
  List.filterMap_append

lemma entriesOf_append : entriesOf (events ++ events') = entriesOf events ++ entriesOf events' :=
  List.filterMap_append

lemma violationsOf_extractionEvents : violationsOf (p.extractionEvents v) = [] := by
  unfold ParamType.extractionEvents
  split <;> rfl

lemma entriesOf_extractionEvents : entriesOf (p.extractionEvents v) = [] := by
  unfold ParamType.extractionEvents
  split <;> rfl

end Events

lemma packedExtractionEvents_quiet (params : List ParamType) (arguments : List Value) :
    violationsOf (packedExtractionEvents params arguments) = [] ∧
      entriesOf (packedExtractionEvents params arguments) = [] := by
  induction params generalizing arguments with
  | nil => exact ⟨rfl, rfl⟩
  | cons p params ih =>
    cases arguments with
    | nil => exact ⟨rfl, rfl⟩
    | cons v arguments =>
      have hcons : packedExtractionEvents (p :: params) (v :: arguments) =
          p.extractionEvents v ++ packedExtractionEvents params arguments := rfl
      obtain ⟨hviolations, hentries⟩ := ih arguments
      rw [hcons, violationsOf_append, entriesOf_append, violationsOf_extractionEvents,
        entriesOf_extractionEvents, hviolations, hentries]
      exact ⟨rfl, rfl⟩

namespace ManagedMethod

variable (env : Environment) (nested : NestedCall) (method : ManagedMethod) (frame : CallFrame)
  (m : Memory)

/-- What the host function of a method does once it is entered with the given arguments. -/
def bodyRun (arguments : List Value) : Run (Option Value) :=
  (method.function.body (frame.prelude method.shape) arguments).run env nested m

/-- The events that precede the body of a call: the arguments are read, then the function is
entered. -/
def callEvents (arguments : List Value) : List Event :=
  packedExtractionEvents method.function.parameters arguments ++
    [.entered (method.function.entry (frame.prelude method.shape) arguments)]

lemma callEvents_quiet (arguments : List Value) :
    violationsOf (method.callEvents frame arguments) = [] ∧
      entriesOf (method.callEvents frame arguments) =
        [method.function.entry (frame.prelude method.shape) arguments] := by
  obtain ⟨hviolations, hentries⟩ :=
    packedExtractionEvents_quiet method.function.parameters arguments
  rw [callEvents, violationsOf_append, entriesOf_append, hviolations, hentries]
  exact ⟨rfl, rfl⟩

lemma invokePacked_eq (values : List Value) :
    method.invokePacked env nested frame (values.map Value.toSlot) m =
      (method.bodyRun env nested frame m
        (spelledArguments method.function.parameters values)).after
        (method.callEvents frame (spelledArguments method.function.parameters values)) := by
  rw [invokePacked, extractPacked_toSlot]
  simp only [enter, bodyRun, callEvents, Run.after, List.append_assoc]

lemma invokeVariadic_eq {values : List Value}
    (h : Supplied method.function.parameters values) :
    method.invokeVariadic env nested frame (.ofValues values) m =
      ((method.bodyRun env nested frame m
        (narrowedArguments method.function.parameters values)).map fun v =>
          (v, ⟨method.argCount, (values.drop method.argCount).map Value.promote⟩)).after
        (method.callEvents frame (narrowedArguments method.function.parameters values)) := by
  rw [invokeVariadic, extractVariadic_ofValues h]
  simp only [enter, bodyRun, callEvents, Run.after, Run.map, List.append_assoc]
  rfl

lemma bodyRun_value_eq_none_iff (arguments : List Value) :
    (method.bodyRun env nested frame m arguments).value = none ↔
      method.function.returns = none := by
  have htype := (method.function.body (frame.prelude method.shape) arguments).type_value_run
    env nested m
  rw [← htype, Option.map_eq_none_iff]
  rfl

/-- Packed arguments and a variable argument list make the same call when the values suit the
parameters. Each form reads the arguments without a violation and enters the function once, with the
prelude of the frame; the argument lists differ at most in their NaNs, and without a NaN the two
runs are the same. Each form ends without a value exactly when the function returns nothing, and the
values beyond the parameters are left unread. -/
theorem invokePacked_invokeVariadic_agree (values : List Value)
    (hvalues : Supplied method.function.parameters values) :
    let f := method.function
    let spelled := spelledArguments f.parameters values
    let packed := method.invokePacked env nested frame (values.map Value.toSlot) m
    let variadic := method.invokeVariadic env nested frame (.ofValues values) m
    ∃ narrowed rest,
      packed = (method.bodyRun env nested frame m spelled).after
        (method.callEvents frame spelled) ∧
      variadic = ((method.bodyRun env nested frame m narrowed).map fun v => (v, rest)).after
        (method.callEvents frame narrowed) ∧
      (∀ arguments, violationsOf (method.callEvents frame arguments) = [] ∧
        entriesOf (method.callEvents frame arguments) =
          [f.entry (frame.prelude method.shape) arguments]) ∧
      narrowed.map Value.canonical = spelled.map Value.canonical ∧
      ((∀ v ∈ values, v.isNaN = false) →
        narrowed = spelled ∧ variadic = packed.map fun v => (v, rest)) ∧
      (f.IgnoresNaNBits → variadic.memory = packed.memory ∧
        variadic.value.1.map Value.canonical = packed.value.map Value.canonical) ∧
      (packed.value = none ↔ f.returns = none) ∧
      (variadic.value.1 = none ↔ f.returns = none) ∧
      rest.remaining = values.length - method.argCount := by
  intro f spelled packed variadic
  have hpacked := method.invokePacked_eq env nested frame m values
  have hvariadic := method.invokeVariadic_eq env nested frame m hvalues
  have hcanonical := narrowedArguments_canonical hvalues
  refine ⟨narrowedArguments f.parameters values, _, hpacked, hvariadic,
    method.callEvents_quiet frame, hcanonical, ?_, ?_, ?_, ?_, ?_⟩
  · intro hnan
    have hsame := narrowedArguments_eq hvalues hnan
    refine ⟨hsame, ?_⟩
    change method.invokeVariadic env nested frame (.ofValues values) m =
      (method.invokePacked env nested frame (values.map Value.toSlot) m).map _
    rw [hvariadic, hpacked, hsame]
    rfl
  · intro hblind
    have hagree := hblind (frame.prelude method.shape) _ _ hcanonical
    obtain ⟨hvalue, hmemory, -⟩ := hagree.run env nested m
    change (method.invokeVariadic env nested frame (.ofValues values) m).memory =
        (method.invokePacked env nested frame (values.map Value.toSlot) m).memory ∧
      (method.invokeVariadic env nested frame (.ofValues values) m).value.1.map _ =
        (method.invokePacked env nested frame (values.map Value.toSlot) m).value.map _
    rw [hvariadic, hpacked]
    exact ⟨hmemory, hvalue⟩
  · change (method.invokePacked env nested frame (values.map Value.toSlot) m).value = none ↔ _
    rw [hpacked]
    exact method.bodyRun_value_eq_none_iff env nested frame m _
  · change (method.invokeVariadic env nested frame (.ofValues values) m).value.1 = none ↔ _
    rw [hvariadic]
    exact method.bodyRun_value_eq_none_iff env nested frame m _
  · change ((values.drop method.argCount).map Value.promote).length = _
    rw [List.length_map, List.length_drop]

/-- A probe that is passed a signalling NaN, a negative `short` for its `char`, and one value too
many. -/
theorem invocations_of_probe_agree :
    let method : ManagedMethod := ⟨"probe", "(FCI)D", .static,
      Probe.make .static "FCR>D" [.float, .char, .observed] (some .double)⟩
    let values : List Value := [.float ⟨0x7f800001⟩, .short (-4), .int 5, .long 7]
    let env := Environment.ofTable ClassRegistry.empty.toTable []
    let m := Memory.empty .standard
    let packed := method.invokePacked env Environment.refuseNested ⟨.null, .null, ⟨9⟩⟩
      (values.map Value.toSlot) m
    let variadic := method.invokeVariadic env Environment.refuseNested ⟨.null, .null, ⟨9⟩⟩
      (.ofValues values) m
    Supplied method.function.parameters values ∧ method.function.IgnoresNaNBits ∧
      variadic.value.1.map Value.canonical = packed.value.map Value.canonical ∧
      packed.value ≠ none ∧ variadic.value.2.remaining = 1 := by
  intro method values env m packed variadic
  have hvalues : Supplied method.function.parameters values :=
    .cons (.inl rfl) (.cons (.inr ⟨rfl, rfl, le_rfl⟩) (.cons (.inl rfl) .nil))
  have hblind : method.function.IgnoresNaNBits := Probe.make_ignoresNaNBits _ _ _ _
  obtain ⟨narrowed, rest, -, hvariadic, -, -, -, hsame, hnone, -, hrest⟩ :=
    invokePacked_invokeVariadic_agree env Environment.refuseNested method ⟨.null, .null, ⟨9⟩⟩ m
      values hvalues
  have hremaining : variadic.value.2.remaining = rest.remaining := by
    rw [show variadic = _ from hvariadic]
    rfl
  refine ⟨hvalues, hblind, (hsame hblind).2, ?_, hremaining.trans hrest⟩
  intro hpacked
  exact Option.some_ne_none _ (hnone.mp hpacked)

end ManagedMethod

end NativeBridge
