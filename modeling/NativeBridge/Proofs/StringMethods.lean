import Mathlib.Tactic.Common
import NativeBridge.Class.Builtin
import NativeBridge.Proofs.InterfaceCalls

/-!
# The methods of strings

The methods of the class of strings take no arguments and ask about the bytes of their receiver.
Entered in either form of call, each gives the answer about these bytes. On a receiver that is not a
string it reports that, once, and gives a fixed answer. Either way the memory stays as it was.
-/

namespace NativeBridge

namespace Environment

section Contents

variable {env : Environment} {m : Memory} {object : Handle} {c : Class}

lemma stringAt?_of_live {s : StringObject} (hclass : env.classOf? m object = some c)
    (haccepts : StringObject.accepts c = true) (hlive : m.instance? object = some (.string s)) :
    env.stringAt? m object = some s := by
  simp only [stringAt?, hclass, hlive, haccepts, if_true]

lemma stringAt?_of_foreign (hclass : env.classOf? m object = some c)
    (hrefused : StringObject.accepts c = false) : env.stringAt? m object = none := by
  unfold stringAt?
  rw [hclass]
  cases m.instance? object with
  | none => rfl
  | some i => cases i <;> simp [hrefused]

end Contents

lemma invoke_of_parameters_eq_nil {env : Environment} {nested : NestedCall}
    {method : ManagedMethod} {frame : CallFrame} {m : Memory} {r : Run (Option Value)}
    (hparameters : method.function.parameters = [])
    (hrun : (method.function.body (frame.prelude method.shape) []).run env nested m = r)
    (arguments : CallArguments) :
    env.invoke nested method frame arguments m = ⟨⟨.ok r.value, arguments⟩, r.memory,
      .entered (method.function.entry (frame.prelude method.shape) []) :: r.events⟩ := by
  cases arguments with
  | packed slots =>
    have harguments : extractPacked method.function.parameters slots = [] := by
      rw [hparameters]
      rfl
    simp only [invoke, ManagedMethod.invokePacked, ManagedMethod.enter, harguments, hrun]
    simp [hparameters, packedExtractionEvents, Run.map, Run.after]
  | variadic list =>
    have hextraction : extractVariadic method.function.parameters list = ⟨[], list, []⟩ := by
      rw [hparameters]
      rfl
    simp only [invoke, ManagedMethod.invokeVariadic, ManagedMethod.enter, hextraction, hrun]
    simp [Run.map, Run.after]

end Environment

namespace Builtin

/-- What the methods of the class of strings ask. -/
inductive StringQuestion where
  | length | isEmpty | hashCode
deriving DecidableEq

namespace StringQuestion

def method : StringQuestion → ManagedMethod
  | length => ⟨"length", "()I", .virtual, stringLength⟩
  | isEmpty => ⟨"isEmpty", "()Z", .virtual, stringIsEmpty⟩
  | hashCode => ⟨"hashCode", "()I", .virtual, stringHashCode⟩

def answer (bytes : List UInt8) : StringQuestion → Value
  | length => .int (Int32.ofNat (StringObject.units bytes).length)
  | isEmpty => .boolean (if bytes.isEmpty then 1 else 0)
  | hashCode => .int (Utf16.hash (StringObject.units bytes))

def otherwise : StringQuestion → Value
  | length | hashCode => .int 0
  | isEmpty => .boolean 1

def report (q : StringQuestion) : Violation :=
  .classMismatch q.method.function.name "receiver is not a String"

def entry (q : StringQuestion) (caller receiver : Handle) : Entry :=
  ⟨q.method.function.name, caller, some receiver, none, []⟩

/-- However the method is entered with the receiver, it returns the value. -/
def Answers (env : Environment) (m : Memory) (receiver : Handle) (q : StringQuestion) (v : Value) :
    Prop :=
  ∀ caller cls arguments, (env.invoke env.nestedCall q.method ⟨caller, receiver, cls⟩ arguments
    m).value.result = .ok (some v)

lemma mem_methods_stringClass_iff {handle : Handle} {method : ManagedMethod} :
    method ∈ (stringClass handle).methods ↔ ∃ q : StringQuestion, q.method = method := by
  have hmethods : (stringClass handle).methods =
      [length.method, isEmpty.method, hashCode.method] := rfl
  rw [hmethods]
  constructor
  · intro hmem
    simp only [List.mem_cons, List.not_mem_nil, or_false] at hmem
    obtain rfl | rfl | rfl := hmem <;> exact ⟨_, rfl⟩
  · rintro ⟨q, rfl⟩
    cases q <;> simp

variable {env : Environment} {m : Memory} {receiver : Handle}

lemma run_of_string (q : StringQuestion) {s : StringObject}
    (h : env.stringAt? m receiver = some s) (nested : NestedCall) (caller cls : Handle) :
    (q.method.function.body (CallFrame.prelude ⟨caller, receiver, cls⟩ q.method.shape) []).run env
      nested m = ⟨some (q.answer s.bytes), m, []⟩ := by
  cases q <;>
    simp only [method, stringLength, stringIsEmpty, stringHashCode, stringFunction,
      CallFrame.prelude, HostProgram.run, h, Option.map_some] <;>
    rfl

lemma run_of_other (q : StringQuestion) (h : env.stringAt? m receiver = none)
    (nested : NestedCall) (caller cls : Handle) :
    (q.method.function.body (CallFrame.prelude ⟨caller, receiver, cls⟩ q.method.shape) []).run env
      nested m = ⟨some q.otherwise, m, [.violation q.report]⟩ := by
  cases q <;>
    simp only [method, stringLength, stringIsEmpty, stringHashCode, stringFunction,
      CallFrame.prelude, HostProgram.run, h, Option.map_none] <;>
    rfl

theorem invoke_of_string (q : StringQuestion) {s : StringObject}
    (h : env.stringAt? m receiver = some s) (nested : NestedCall) (caller cls : Handle)
    (arguments : CallArguments) :
    env.invoke nested q.method ⟨caller, receiver, cls⟩ arguments m =
      ⟨⟨.ok (some (q.answer s.bytes)), arguments⟩, m, [.entered (q.entry caller receiver)]⟩ := by
  have hrun := q.run_of_string h nested caller cls
  cases q <;> exact Environment.invoke_of_parameters_eq_nil rfl hrun arguments

theorem invoke_of_other (q : StringQuestion) (h : env.stringAt? m receiver = none)
    (nested : NestedCall) (caller cls : Handle) (arguments : CallArguments) :
    env.invoke nested q.method ⟨caller, receiver, cls⟩ arguments m =
      ⟨⟨.ok (some q.otherwise), arguments⟩, m,
        [.entered (q.entry caller receiver), .violation q.report]⟩ := by
  have hrun := q.run_of_other h nested caller cls
  cases q <;> exact Environment.invoke_of_parameters_eq_nil rfl hrun arguments

lemma answers_iff_of_string {s : StringObject} (h : env.stringAt? m receiver = some s)
    {q : StringQuestion} {v : Value} :
    q.Answers env m receiver v ↔ v = q.answer s.bytes := by
  have hinvoke : ∀ caller cls arguments,
      (env.invoke env.nestedCall q.method ⟨caller, receiver, cls⟩ arguments m).value.result =
        .ok (some (q.answer s.bytes)) := by
    intro caller cls arguments
    rw [q.invoke_of_string h]
  constructor
  · intro hanswers
    have hresult := (hinvoke .null .null (.packed [])).symm.trans (hanswers _ _ _)
    exact (Option.some.inj (Except.ok.inj hresult)).symm
  · rintro rfl
    exact hinvoke

lemma call_of_string (q : StringQuestion) {id : MethodId}
    (hmethod : env.methodAt? id = some q.method) {s : StringObject}
    (h : env.stringAt? m receiver = some s) :
    (env.call ⟨.virtual receiver, some id, .packed []⟩ m).value.result =
      .ok (some (q.answer s.bytes)) := by
  have hshape : q.method.shape = .virtual := by cases q <;> rfl
  have hcount : q.method.argCount = ([] : List Slot).length := by cases q <;> rfl
  have hchecked := Environment.checkCall_virtual hmethod hshape
    (Environment.isNull_of_stringAt? h) hcount
  have hinvoke := q.invoke_of_string h env.nestedCall env.handle .null (.packed [])
  simp only [Environment.call, Environment.callWith, hchecked]
  exact congrArg (fun r : Run CallOutcome => r.value.result) hinvoke

end StringQuestion

end Builtin

end NativeBridge
