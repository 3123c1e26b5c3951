import NativeBridge.Environment.Container
import NativeBridge.Proofs.StringMethods
import NativeBridge.Proofs.SymbolReading
import NativeBridge.Proofs.Utf8Decoding
import NativeBridge.Sample.Words

/-!
# Counting code units

Managed code sees the bytes of a string as UTF-16 code units. Every piece of the bytes, broken or
not, is shown as one character, so the units can be counted piece by piece: a piece of one to three
bytes has one unit and a piece of four bytes has two. This bounds the number of units by the number
of bytes from both sides.
-/

namespace NativeBridge

namespace Utf16

lemma length_unitsOfChar (c : Char) :
    (unitsOfChar c).length = if c.toNat < 0x10000 then 1 else 2 := by
  unfold unitsOfChar
  split <;> rfl

end Utf16

namespace Utf8

lemma Spells.length_eq {bytes : List UInt8} {n : Nat} (h : Spells bytes n) :
    1 ≤ bytes.length ∧ bytes.length ≤ 4 ∧ (bytes.length = 4 ↔ 0x10000 ≤ n) := by
  cases h with
  | one ha => simp; omega
  | two ha hb => simp; omega
  | three ha hb hc => simp; omega
  | four ha hb hc hd =>
    rw [fitsFourByteLead_iff] at hb
    simp
    omega

lemma length_of_readPiece_illFormed {lead : UInt8} {bytes rest : List UInt8}
    (h : readPiece lead bytes = (.illFormed, rest)) :
    rest.length ≤ bytes.length ∧ bytes.length ≤ rest.length + 2 := by
  revert h
  fun_cases readPiece lead bytes
  all_goals
    rintro ⟨⟩
    try simp

lemma length_unitsOfChar_shown_bounds {lead : UInt8} {bytes rest : List UInt8} {piece : Piece}
    (h : readPiece lead bytes = (piece, rest)) :
    (Utf16.unitsOfChar piece.shown).length + rest.length ≤ bytes.length + 1 ∧
      bytes.length + 1 ≤ 3 * (Utf16.unitsOfChar piece.shown).length + rest.length := by
  rw [Utf16.length_unitsOfChar]
  cases piece with
  | scalar c =>
    obtain ⟨tail, n, rfl, hspells, rfl⟩ := exists_spells_of_readPiece h
    obtain ⟨hpos, hfour, hwide⟩ := hspells.length_eq
    have hshown : (Piece.scalar (Char.ofNat n)).shown.toNat = n :=
      toNat_ofNat_of_isValidChar hspells.isValidChar
    rw [hshown, List.length_append]
    rw [List.length_cons] at hpos hfour hwide
    split <;> omega
  | illFormed =>
    have hlength := length_of_readPiece_illFormed h
    have hshown : Piece.illFormed.shown.toNat < 0x10000 := by decide
    rw [if_pos hshown]
    omega

end Utf8

theorem StringObject.length_units_bounds (bytes : List UInt8) :
    (units bytes).length ≤ bytes.length ∧ bytes.length ≤ 3 * (units bytes).length := by
  unfold units Utf8.decodeLossy
  fun_induction Utf8.pieces bytes with
  | case1 => exact ⟨Nat.le_refl _, Nat.le_refl _⟩
  | case2 lead bytes step ih =>
    have hbounds : (Utf16.unitsOfChar step.1.shown).length + step.2.length ≤ bytes.length + 1 ∧
        bytes.length + 1 ≤ 3 * (Utf16.unitsOfChar step.1.shown).length + step.2.length :=
      Utf8.length_unitsOfChar_shown_bounds rfl
    rw [List.map_cons, Utf16.units_cons, List.length_append, List.length_cons]
    omega

namespace Environment

open Builtin

lemma getStringLength_of_stringAt? {env : Environment} {m : Memory} {object : Handle}
    {s : StringObject} (h : env.stringAt? m object = some s) :
    env.getStringLength m object = (Int32.ofNat s.utf16Length, []) := by
  cases hclass : env.classOf? m object with
  | none => simp [stringAt?, hclass] at h
  | some c => simp only [getStringLength, checkedString, hclass, h]

/-- A string on any bytes, broken or not, is made of code units: its length counts them, however it
is asked for, and its hash folds over them. They are at most as many as the bytes and at least a
third as many, so there are none just for the empty string. -/
theorem string_units_counted_and_hashed (env : Environment) (m : Memory) (object : Handle)
    (s : StringObject) (hs : env.stringAt? m object = some s) (hsize : s.bytes.length < 2 ^ 31) :
    let codeUnits := Utf16.units (Utf8.decodeLossy s.bytes)
    codeUnits.length ≤ s.bytes.length ∧ s.bytes.length ≤ 3 * codeUnits.length ∧
      (∃ n : Int32, n.toInt = codeUnits.length ∧ env.getStringLength m object = (n, []) ∧
        StringQuestion.length.Answers env m object (.int n)) ∧
      StringQuestion.hashCode.Answers env m object
        (.int (codeUnits.foldl (fun h unit => h * 31 + unit.toUInt32.toInt32) 0)) ∧
      ∃ b : UInt8, StringQuestion.isEmpty.Answers env m object (.boolean b) ∧
        (b = 1 ↔ codeUnits = []) ∧ (b = 0 ↔ codeUnits ≠ []) := by
  intro codeUnits
  obtain ⟨hupper, hlower⟩ :
      codeUnits.length ≤ s.bytes.length ∧ s.bytes.length ≤ 3 * codeUnits.length :=
    StringObject.length_units_bounds s.bytes
  have hcount : (Int32.ofNat codeUnits.length).toInt = codeUnits.length :=
    Int32.toInt_ofNat_of_lt (by omega)
  have hempty : s.bytes = [] ↔ codeUnits = [] := by
    rw [← List.length_eq_zero_iff, ← List.length_eq_zero_iff]
    omega
  refine ⟨hupper, hlower, ⟨_, hcount, getStringLength_of_stringAt? hs, ?_⟩, ?_, _,
    (StringQuestion.answers_iff_of_string hs).mpr rfl, ?_, ?_⟩
  · exact (StringQuestion.answers_iff_of_string hs).mpr rfl
  · exact (StringQuestion.answers_iff_of_string hs).mpr rfl
  · rw [← hempty, ← List.isEmpty_iff]
    cases s.bytes.isEmpty <;> decide
  · rw [ne_eq, ← hempty, ← List.isEmpty_iff]
    cases s.bytes.isEmpty <;> decide

theorem broken_string_counted :
    let env := Sample.wordEnvironment
    let m := Sample.wordMemory
    env.stringAt? m ⟨0x500⟩ = some Sample.brokenString ∧
      Sample.brokenString.bytes.length < 2 ^ 31 ∧
      (∃ n : Int32, n.toInt = 3 ∧ env.getStringLength m ⟨0x500⟩ = (n, []) ∧
        StringQuestion.length.Answers env m ⟨0x500⟩ (.int n)) ∧
      StringQuestion.hashCode.Answers env m ⟨0x500⟩ (.int 65008833) ∧
      StringQuestion.isEmpty.Answers env m ⟨0x500⟩ (.boolean 0) := by
  intro env m
  have hsize : Sample.brokenString.bytes.length < 2 ^ 31 := by decide
  have hunits : Utf16.units (Utf8.decodeLossy Sample.brokenString.bytes) =
      [0xfffd, 0xfffd, 0x61] := by
    decide +kernel
  obtain ⟨_, _, ⟨n, hn, hlength⟩, hhash, b, hempty, _, hfull⟩ :=
    string_units_counted_and_hashed env m ⟨0x500⟩ Sample.brokenString rfl hsize
  rw [hunits] at hn hhash hfull
  obtain rfl : b = 0 := hfull.mpr (by decide)
  exact ⟨rfl, hsize, ⟨n, hn, hlength⟩, hhash, hempty⟩

end Environment

end NativeBridge
