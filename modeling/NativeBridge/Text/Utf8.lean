/-!
# UTF-8

Text crosses the boundary as UTF-8 bytes, and the bytes may be wrong. A byte list is read as a
sequence of pieces: a scalar value, or a longest run of bytes that begins like a scalar value and
does not finish one. Strict decoding accepts scalar values only; lossy decoding shows each broken
piece as the replacement character U+FFFD.
-/

namespace NativeBridge.Utf8

/-- One step of reading UTF-8. -/
inductive Piece where
  /-- A well-formed scalar value. -/
  | scalar (c : Char)
  /-- A maximal broken piece: a lead byte with the continuation bytes that fit it, or one stray
  byte. -/
  | illFormed
deriving DecidableEq, Repr

/-- The character shown for a broken piece. -/
def replacement : Char := '\ufffd'

/-- Whether `b` may follow as a third or fourth byte. -/
def isContinuation (b : UInt8) : Bool := 0x80 ≤ b && b ≤ 0xbf

/-- Whether `b` may be the second byte after a three-byte lead. The narrower ranges keep out
overlong forms and surrogates. -/
def fitsThreeByteLead (lead b : UInt8) : Bool :=
  if lead = 0xe0 then 0xa0 ≤ b && b ≤ 0xbf
  else if lead = 0xed then 0x80 ≤ b && b ≤ 0x9f
  else isContinuation b

/-- Whether `b` may be the second byte after a four-byte lead. The narrower ranges keep out
overlong forms and values beyond U+10FFFF. -/
def fitsFourByteLead (lead b : UInt8) : Bool :=
  if lead = 0xf0 then 0x90 ≤ b && b ≤ 0xbf
  else if lead = 0xf4 then 0x80 ≤ b && b ≤ 0x8f
  else isContinuation b

/-- The scalar value put together from the payload of a lead byte and its continuation bytes. -/
def assemble (lead : Nat) (tail : List UInt8) : Char :=
  Char.ofNat (tail.foldl (fun n b => n * 64 + b.toNat % 64) lead)

/-- Reads the first piece of a non-empty byte list, given as its first byte and the rest, and
returns it with the bytes after it. -/
def readPiece (lead : UInt8) (rest : List UInt8) : Piece × List UInt8 :=
  if lead < 0x80 then (.scalar (Char.ofNat lead.toNat), rest)
  else if 0xc2 ≤ lead ∧ lead ≤ 0xdf then
    match rest with
    | b :: r => if isContinuation b then (.scalar (assemble (lead.toNat % 32) [b]), r)
                else (.illFormed, b :: r)
    | [] => (.illFormed, [])
  else if 0xe0 ≤ lead ∧ lead ≤ 0xef then
    match rest with
    | b :: c :: r =>
      if fitsThreeByteLead lead b then
        if isContinuation c then (.scalar (assemble (lead.toNat % 16) [b, c]), r)
        else (.illFormed, c :: r)
      else (.illFormed, b :: c :: r)
    | [b] => if fitsThreeByteLead lead b then (.illFormed, []) else (.illFormed, [b])
    | [] => (.illFormed, [])
  else if 0xf0 ≤ lead ∧ lead ≤ 0xf4 then
    match rest with
    | b :: c :: d :: r =>
      if fitsFourByteLead lead b then
        if isContinuation c then
          if isContinuation d then (.scalar (assemble (lead.toNat % 8) [b, c, d]), r)
          else (.illFormed, d :: r)
        else (.illFormed, c :: d :: r)
      else (.illFormed, b :: c :: d :: r)
    | [b, c] =>
      if fitsFourByteLead lead b then
        if isContinuation c then (.illFormed, []) else (.illFormed, [c])
      else (.illFormed, [b, c])
    | [b] => if fitsFourByteLead lead b then (.illFormed, []) else (.illFormed, [b])
    | [] => (.illFormed, [])
  else (.illFormed, rest)

/-- Reading a piece never gives back more than what followed its first byte. -/
theorem length_readPiece_le (lead : UInt8) (rest : List UInt8) :
    (readPiece lead rest).2.length ≤ rest.length := by
  unfold readPiece
  repeat' split
  all_goals simp
  all_goals omega

/-- The pieces of a byte list, in order. -/
def pieces : List UInt8 → List Piece
  | [] => []
  | lead :: rest =>
    let step := readPiece lead rest
    step.1 :: pieces step.2
termination_by bytes => bytes.length
decreasing_by exact Nat.lt_succ_of_le (length_readPiece_le lead rest)

def Piece.shown : Piece → Char
  | .scalar c => c
  | .illFormed => replacement

def Piece.scalar? : Piece → Option Char
  | .scalar c => some c
  | .illFormed => none

/-- The text of the bytes, with each broken piece shown as the replacement character. -/
def decodeLossy (bytes : List UInt8) : List Char := (pieces bytes).map Piece.shown

/-- The text of the bytes when every piece is well formed. -/
def decode? (bytes : List UInt8) : Option (List Char) := (pieces bytes).mapM Piece.scalar?

def encode (text : List Char) : List UInt8 := text.flatMap String.utf8EncodeChar

end NativeBridge.Utf8
