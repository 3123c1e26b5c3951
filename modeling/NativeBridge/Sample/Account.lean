import NativeBridge.Class.Builtin
import NativeBridge.Class.Inventory
import NativeBridge.Sample.Probe

/-!
# Sample host functions and classes

Functions that use the host from inside a call: one doubles its argument, one adds to a balance kept
in a field of its receiver, and one passes its argument on to another method of its class. Two small
classes with such methods are submitted to the process-wide table beside the builtin ones.
-/

namespace NativeBridge.Sample

/-- Twice the argument, wrapping. -/
def twice : HostFunction .static where
  name := "twice"
  parameters := [.int]
  returns := some .int
  body _ arguments :=
    match arguments with
    | [.int x] => .finishWith (.int (2 * x))
    | _ => .finishWith (.int 0)

/-- Adds an amount to the receiver's `balance` and answers the sum. Answers -1 without an
environment, -2 when the balance cannot be read and -3 when it cannot be written. -/
def deposit : HostFunction .virtual where
  name := "deposit"
  parameters := [.int]
  returns := some .long
  body prelude arguments :=
    match arguments with
    | [.int amount] =>
      if prelude.env.isNull then .finishWith (.long (-1))
      else
        .classOf prelude.receiver fun cls =>
        .fieldId cls "balance" "J" fun field =>
        .readField prelude.receiver field .long fun balance =>
          match balance with
          | .ok (.long b) =>
            let sum := b + amount.toInt64
            .writeField prelude.receiver field (.long sum) fun written =>
              match written with
              | .ok () => .finishWith (.long sum)
              | .error _ => .finishWith (.long (-3))
          | _ => .finishWith (.long (-2))
    | _ => .finishWith (.long 0)

/-- Calls the static method `target` of the same class with the argument and answers its result.
Answers -1 without an environment, -2 when the result is not an integer and -3 when the call is
refused. -/
def relay : HostFunction .static where
  name := "relay"
  parameters := [.int]
  returns := some .int
  body prelude arguments :=
    match arguments with
    | [.int x] =>
      if prelude.env.isNull then .finishWith (.int (-1))
      else
        .staticMethodId prelude.cls "target" "(I)I" fun target =>
        .call ⟨.static prelude.cls, target, .packed [(Value.int x).toSlot]⟩ fun outcome =>
          match outcome.result with
          | .ok (some (.int v)) => .finishWith (.int v)
          | .ok _ => .finishWith (.int (-2))
          | .error _ => .finishWith (.int (-3))
    | _ => .finishWith (.int 0)

/-- The sample function or probe of the given shape with this name. -/
def function? : (shape : CallShape) → (name : String) → Option (HostFunction shape)
  | .virtual, name => if name = "deposit" then some deposit else Probe.named? .virtual name
  | .static, name =>
    if name = "twice" then some twice
    else if name = "relay" then some relay
    else Probe.named? .static name
  | .nonvirtual, name => Probe.named? .nonvirtual name

/-- Three digits put together, wrapping. -/
def tally : HostFunction .static where
  name := "tally"
  parameters := [.int, .int, .int]
  returns := some .int
  body _ arguments :=
    match arguments with
    | [.int a, .int b, .int c] => .finishWith (.int (a * 100 + b * 10 + c))
    | _ => .finishWith (.int 0)

/-- Twice the argument, wrapping, asked of an instance. -/
def doubled : HostFunction .virtual where
  name := "doubled"
  parameters := [.int]
  returns := some .int
  body _ arguments :=
    match arguments with
    | [.int x] => .finishWith (.int (2 * x))
    | _ => .finishWith (.int 0)

/-- `it/Tally`. -/
def tallyClass (handle : Handle) : Class :=
  { Builtin.bare "it" "Tally" 0 handle with methods := [⟨"tally", "(III)I", .static, tally⟩] }

/-- `it/Gauge`. -/
def gaugeClass (handle : Handle) : Class :=
  { Builtin.bare "it" "Gauge" 16 handle with methods := [⟨"doubled", "(I)I", .virtual, doubled⟩] }

/-- The classes submitted to the process-wide table. -/
def inventory : List (Handle → Class) := inventoryOfParts [Builtin.all, [tallyClass, gaugeClass]]

end NativeBridge.Sample
