import NativeBridge.Environment.Interface
import NativeBridge.Proofs.CallGuards
import NativeBridge.Proofs.InstanceHeader

/-!
# Calls through the native interface

A foreign module calls a method through the interface table and learns a status and a result slot.
This file says when the checks let such a call through, and what it answers: the result of the host
function in the slot, or a failure that leaves the slot as it was and the host function alone.
-/

namespace NativeBridge

namespace Environment

variable {env : Environment} {id : MethodId} {method : ManagedMethod}

lemma isNull_of_classOf? {m : Memory} {object : Handle} {c : Class}
    (h : env.classOf? m object = some c) : object.isNull = false := by
  obtain ⟨i, hlive, _⟩ := Option.bind_eq_some_iff.mp h
  exact Memory.isNull_of_instance? hlive

lemma isNull_of_stringAt? {m : Memory} {object : Handle} {s : StringObject}
    (h : env.stringAt? m object = some s) : object.isNull = false := by
  cases hclass : env.classOf? m object with
  | none => simp [stringAt?, hclass] at h
  | some c => exact isNull_of_classOf? hclass

lemma checkCall_static_of_owner (h : env.methodAt? id = some method)
    (hshape : method.shape = .static) {slots : List Slot}
    (harity : method.argCount = slots.length) :
    env.checkCall ⟨.static id.owner, some id, .packed slots⟩ = .ok method := by
  have hadmits : env.Admits ⟨.static id.owner, some id, .packed slots⟩ id method := by
    obtain ⟨owner, hlives, hdeclared⟩ := methodAt?_eq_some_iff.mp h
    refine ⟨⟨rfl, owner, hlives, hdeclared⟩, hshape, nofun, ?_, ?_⟩
    · rintro cls ⟨⟩
      exact ⟨owner, hlives, hlives.handle_eq.symm⟩
    · rintro _ ⟨⟩
      exact harity.symm
  exact checkCall_of_admits hadmits

lemma checkCall_static_of_ne (h : env.methodAt? id = some method)
    (hshape : method.shape = .static) {cls : Handle} (hcls : cls ≠ id.owner)
    (arguments : CallArguments) :
    ∃ r, env.checkCall ⟨.static cls, some id, arguments⟩ = .error r := by
  have hnames : env.Names ⟨.static cls, some id, arguments⟩ id method :=
    ⟨rfl, methodAt?_eq_some_iff.mp h⟩
  by_cases hlives : ∃ c, env.Lives cls c
  · obtain ⟨c, hc⟩ := hlives
    have hne : id.owner ≠ c.handle := fun heq => hcls (heq.trans hc.handle_eq).symm
    exact ⟨_, checkCall_of_refuses (.owner hnames hshape nofun rfl hc hne)⟩
  · push Not at hlives
    exact ⟨_, checkCall_of_refuses (.cls hnames hshape nofun rfl hlives)⟩

lemma checkCall_virtual (h : env.methodAt? id = some method) (hshape : method.shape = .virtual)
    {receiver : Handle} (hreceiver : receiver.isNull = false) {slots : List Slot}
    (harity : method.argCount = slots.length) :
    env.checkCall ⟨.virtual receiver, some id, .packed slots⟩ = .ok method := by
  have hadmits : env.Admits ⟨.virtual receiver, some id, .packed slots⟩ id method := by
    refine ⟨⟨rfl, methodAt?_eq_some_iff.mp h⟩, hshape, ?_, nofun, ?_⟩
    · rintro ⟨⟩
      cases hreceiver
    · rintro _ ⟨⟩
      exact harity.symm
  exact checkCall_of_admits hadmits

lemma checkCall_virtual_null (h : env.methodAt? id = some method)
    (hshape : method.shape = .virtual) (arguments : CallArguments) :
    ∃ r, env.checkCall ⟨.virtual .null, some id, arguments⟩ = .error r :=
  ⟨_, checkCall_of_refuses (.receiver ⟨rfl, methodAt?_eq_some_iff.mp h⟩ hshape rfl)⟩

end Environment

namespace Interface

variable {env : Environment} {target : CallTarget} {id : Option MethodId}
  {arguments : Option (List Slot)}

lemma argumentSlots_of_methodAt? {id : MethodId} {method : ManagedMethod}
    (h : env.methodAt? id = some method) (arguments : Option (List Slot)) :
    argumentSlots env (some id) arguments = (arguments.getD []).take method.argCount := by
  simp only [argumentSlots, Option.bind_some, h, Option.map_some, Option.getD_some]

lemma callMethod_of_refused {r : Refusal CallError}
    (h : env.checkCall (request env target id arguments) = .error r) (slot : Option Slot)
    (m : Memory) :
    (callMethod (some env) target id arguments slot m).value = ⟨statusError, slot⟩ ∧
      (callMethod (some env) target id arguments slot m).memory = m := by
  constructor
  · simp only [callMethod, Environment.call, Environment.callWith, h, reply]
  · simp only [callMethod, Environment.call, Environment.callWith, h]

lemma callMethod_of_checked {method : ManagedMethod}
    (h : env.checkCall (request env target id arguments) = .ok method) (slot : Option Slot)
    (m : Memory) :
    let entered := method.invokePacked env env.nestedCall (target.frame env.handle)
      (argumentSlots env id arguments) m
    callMethod (some env) target id arguments slot m =
      ⟨⟨statusOk, slot.map fun _ => slotOfResult entered.value⟩, entered.memory,
        entered.events⟩ := by
  simp only [callMethod, Environment.call, Environment.callWith, h]
  simp only [request, Environment.invoke, Run.map, reply, failureRecords, List.map_nil,
    List.append_nil]

end Interface

end NativeBridge
