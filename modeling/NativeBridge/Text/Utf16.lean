/-!
# UTF-16 code units

Managed code counts and hashes text in UTF-16 code units: one unit for a scalar value of the basic
plane and a surrogate pair for every other one.
-/

namespace NativeBridge.Utf16

/-- The code units of one scalar value. -/
def unitsOfChar (c : Char) : List UInt16 :=
  if c.toNat < 0x10000 then [UInt16.ofNat c.toNat]
  else
    let offset := c.toNat - 0x10000
    [UInt16.ofNat (0xd800 + offset / 0x400), UInt16.ofNat (0xdc00 + offset % 0x400)]

/-- The code units of a text, in order. -/
def units (text : List Char) : List UInt16 := text.flatMap unitsOfChar

/-- The polynomial hash of code units: each unit is added to thirty-one times the hash of what
came before, in wrapping 32-bit arithmetic. -/
def hash (codeUnits : List UInt16) : Int32 :=
  codeUnits.foldl (fun h unit => h * 31 + unit.toUInt32.toInt32) 0

end NativeBridge.Utf16
