/-!
# Hexadecimal text

Addresses and code units are written in lower-case hexadecimal, either with as many digits as the
number needs or padded with zeros to a fixed count. Bytes are written with two digits each. Reading
accepts digits of either case.
-/

namespace NativeBridge.Hex

/-- The hexadecimal digits of `n` without leading zeros; zero is a single digit. -/
def digits (n : Nat) : List Char := Nat.toDigits 16 n

/-- The digits of `n`, padded on the left with zeros to at least `count` of them. -/
def padded (count n : Nat) : List Char :=
  List.replicate (count - (digits n).length) '0' ++ digits n

/-- `n` in hexadecimal after `0x`, with no padding. -/
def literal (n : Nat) : String := "0x" ++ String.ofList (digits n)

/-- `n` in hexadecimal after `0x`, padded to `count` digits. -/
def paddedLiteral (count n : Nat) : String := "0x" ++ String.ofList (padded count n)

def ofBytes (bytes : List UInt8) : String :=
  String.ofList (bytes.flatMap fun b => padded 2 b.toNat)

def digitValue? (c : Char) : Option Nat :=
  if '0' ≤ c ∧ c ≤ '9' then some (c.toNat - '0'.toNat)
  else if 'a' ≤ c ∧ c ≤ 'f' then some (c.toNat - 'a'.toNat + 10)
  else if 'A' ≤ c ∧ c ≤ 'F' then some (c.toNat - 'A'.toNat + 10)
  else none

/-- The number written with the given digits, of which there is at least one. -/
def number? (digits : List Char) : Option Nat :=
  if digits.isEmpty then none
  else digits.foldlM (fun n c => (digitValue? c).map fun d => n * 16 + d) 0

/-- The number written after `0x`. -/
def ofLiteral? (text : String) : Option Nat :=
  match text.toList with
  | '0' :: 'x' :: digits => number? digits
  | _ => none

def bytes? : List Char → Option (List UInt8)
  | [] => some []
  | [_] => none
  | a :: b :: rest =>
    match number? [a, b], bytes? rest with
    | some n, some bytes => some (UInt8.ofNat n :: bytes)
    | _, _ => none

end NativeBridge.Hex
