import Mathlib.Algebra.BigOperators.Fin
import Mathlib.Data.Int.ModEq
import Mathlib.Tactic.Ring
import NativeBridge.Proofs.StringCreation

/-!
# The hash of a text

The hash of a string folds over its code units in wrapping arithmetic. Over the integers the same
fold is a polynomial at thirty-one, and wrapping at every step or once at the end gives the same
word. The polynomial of one text followed by another is put together from the polynomials of the
two, and so are the hashes of strings, because the units of a stored text are those of the text.
-/

namespace NativeBridge

namespace Utf16

/-- The polynomial at thirty-one whose coefficients are the code units: the last unit counts once,
and each unit before it thirty-one times as much as the next. -/
def polynomial (codeUnits : List UInt16) : Int :=
  ∑ i : Fin codeUnits.length, (codeUnits[i].toNat : Int) * 31 ^ (codeUnits.length - 1 - i.val)

lemma polynomial_cons (unit : UInt16) (codeUnits : List UInt16) :
    polynomial (unit :: codeUnits) =
      unit.toNat * 31 ^ codeUnits.length + polynomial codeUnits := by
  change ∑ i : Fin (codeUnits.length + 1),
    ((unit :: codeUnits)[i].toNat : Int) * 31 ^ (codeUnits.length + 1 - 1 - i.val) = _
  rw [Fin.sum_univ_succ]
  congr 1
  apply Finset.sum_congr rfl
  intro i _
  rw [Fin.val_succ, Nat.add_sub_cancel, Nat.sub_add_eq, Nat.sub_right_comm]
  rfl

lemma polynomial_append (codeUnits more : List UInt16) :
    polynomial (codeUnits ++ more) =
      polynomial codeUnits * 31 ^ more.length + polynomial more := by
  induction codeUnits with
  | nil => simp [polynomial]
  | cons unit codeUnits ih =>
    rw [List.cons_append, polynomial_cons, polynomial_cons, ih, List.length_append, pow_add]
    ring

lemma toInt32_unit (unit : UInt16) : unit.toUInt32.toInt32 = Int32.ofInt unit.toNat := by
  rw [Int32.ofInt_eq_ofNat, ← UInt32.toInt32_ofNat', ← UInt16.toNat_toUInt32, UInt32.ofNat_toNat]

/-- From any start the fold wraps an integer: the start, moved up by the number of units, and their
polynomial. -/
lemma foldl_eq_ofInt (codeUnits : List UInt16) (start : Int) :
    codeUnits.foldl (fun h unit => h * 31 + unit.toUInt32.toInt32) (Int32.ofInt start) =
      Int32.ofInt (start * 31 ^ codeUnits.length + polynomial codeUnits) := by
  induction codeUnits generalizing start with
  | nil => simp [polynomial]
  | cons unit codeUnits ih =>
    have hstep : Int32.ofInt start * 31 + unit.toUInt32.toInt32 =
        Int32.ofInt (start * 31 + unit.toNat) := by
      rw [Int32.ofInt_add, Int32.ofInt_mul, toInt32_unit]
      rfl
    rw [List.foldl_cons, hstep, ih, polynomial_cons, List.length_cons, pow_succ]
    congr 1
    ring

theorem toInt_hash (codeUnits : List UInt16) :
    (hash codeUnits).toInt = (polynomial codeUnits).bmod (2 ^ 32) := by
  have hfold : hash codeUnits = Int32.ofInt (0 * 31 ^ codeUnits.length + polynomial codeUnits) :=
    foldl_eq_ofInt codeUnits 0
  rw [hfold, zero_mul, zero_add]
  exact Int32.toInt_ofInt

example : hash (units ['a', 'b']) = 97 * 31 + 98 := by decide

lemma hash_modEq (codeUnits : List UInt16) :
    (hash codeUnits).toInt ≡ polynomial codeUnits [ZMOD 2 ^ 32] := by
  rw [toInt_hash]
  exact Int.bmod_emod

theorem hash_append_modEq (codeUnits more : List UInt16) :
    (hash (codeUnits ++ more)).toInt ≡
      (hash codeUnits).toInt * 31 ^ more.length + (hash more).toInt [ZMOD 2 ^ 32] := by
  calc (hash (codeUnits ++ more)).toInt
      ≡ polynomial codeUnits * 31 ^ more.length + polynomial more [ZMOD 2 ^ 32] := by
        rw [← polynomial_append]
        exact hash_modEq _
    _ ≡ (hash codeUnits).toInt * 31 ^ more.length + (hash more).toInt [ZMOD 2 ^ 32] :=
        (((hash_modEq codeUnits).mul_right _).add (hash_modEq more)).symm

lemma units_append (text more : List Char) : units (text ++ more) = units text ++ units more :=
  List.flatMap_append

end Utf16

namespace Environment

open Builtin

/-- A string with this text lives at the handle. -/
def HoldsText (env : Environment) (m : Memory) (object : Handle) (text : List Char) : Prop :=
  ∃ s, env.stringAt? m object = some s ∧ s.bytes = Utf8.encode text

/-- The method `hashCode` answers `h` about the instance, entered in any form and called by its
key. -/
structure Hashes (env : Environment) (m : Memory) (object : Handle) (h : Int32) : Prop where
  entered : StringQuestion.hashCode.Answers env m object (.int h)
  called : ∃ id method, env.table.findMethod? ⟨"java/lang", "String", "hashCode", "()I"⟩ =
      some (id, method) ∧
    (env.call ⟨.virtual object, some id, .packed []⟩ m).value.result = .ok (some (.int h))

section Builtin

variable {env : Environment} {c : Class} (hwithin : env.table.Within env.classAt?)
  (hc : env.table.get? "java/lang" "String" = some c) (hbuiltin : c = stringClass c.handle)

include hwithin hc hbuiltin

lemma exists_newString_holdsText {text : List Char} (h : '\x00' ∉ text) :
    ∃ s, env.newString text = .ok s ∧
      ∀ m object, m.instance? object = some (.string s) → env.HoldsText m object text := by
  have haccepts := accepts_of_builtin hbuiltin
  have hnew := newString_of_get? hc text
  rw [StringObject.ofText?_of_clear haccepts h] at hnew
  refine ⟨_, hnew, fun m object hlive => ?_⟩
  exact ⟨_, stringAt?_of_within hwithin hc haccepts rfl hlive, rfl⟩

lemma HoldsText.hashes {m : Memory} {object : Handle} {text : List Char}
    (h : env.HoldsText m object text) : env.Hashes m object (Utf16.hash (Utf16.units text)) := by
  obtain ⟨s, hs, hbytes⟩ := h
  have hanswer : StringQuestion.hashCode.answer s.bytes =
      .int (Utf16.hash (Utf16.units text)) := by
    rw [StringQuestion.answer, hbytes, StringObject.units_encode]
  have hcall := exists_call_by_key hwithin hc hbuiltin .hashCode hs
  rw [hanswer] at hcall
  exact ⟨(StringQuestion.answers_iff_of_string hs).mpr hanswer.symm, hcall⟩

end Builtin

/-- Every text without NUL is the text of a string. The hash of a string with a text is the
polynomial of the units of the text, and the hash of one text followed by another is that of the
first, moved up by the number of units of the second, and that of the second. -/
theorem hashCode_is_polynomial (env : Environment) (hwithin : env.table.Within env.classAt?)
    (c : Class) (hc : env.table.get? "java/lang" "String" = some c)
    (hbuiltin : c = stringClass c.handle) :
    (∀ text, '\x00' ∉ text → ∃ s, env.newString text = .ok s ∧
      ∀ m object, m.instance? object = some (.string s) → env.HoldsText m object text) ∧
    (∀ m object text, env.HoldsText m object text →
      ∃ h : Int32, env.Hashes m object h ∧
        h.toInt = (Utf16.polynomial (Utf16.units text)).bmod (2 ^ 32)) ∧
    ∀ m first second joined text more, env.HoldsText m first text →
      env.HoldsText m second more → env.HoldsText m joined (text ++ more) →
      ∃ h h' h'' : Int32, env.Hashes m first h ∧ env.Hashes m second h' ∧
        env.Hashes m joined h'' ∧
        h''.toInt ≡ h.toInt * 31 ^ (Utf16.units more).length + h'.toInt [ZMOD 2 ^ 32] := by
  refine ⟨fun text htext => exists_newString_holdsText hwithin hc hbuiltin htext, ?_, ?_⟩
  · intro m object text htext
    exact ⟨_, htext.hashes hwithin hc hbuiltin, Utf16.toInt_hash _⟩
  · intro m first second joined text more hfirst hsecond hjoined
    refine ⟨_, _, _, hfirst.hashes hwithin hc hbuiltin, hsecond.hashes hwithin hc hbuiltin,
      hjoined.hashes hwithin hc hbuiltin, ?_⟩
    rw [Utf16.units_append]
    exact Utf16.hash_append_modEq _ _

theorem polygenelubricants_hashed :
    let env := Sample.wordEnvironment
    let text := "polygenelubricants".toList
    let more := ['𝄞', 'a']
    env.table.Within env.classAt? ∧
      env.table.get? "java/lang" "String" = some (stringClass ⟨0x40⟩) ∧
      ∃ s s' s'', env.newString text = .ok s ∧ env.newString more = .ok s' ∧
        env.newString (text ++ more) = .ok s'' ∧
        let m := ((Sample.wordMemory.write ⟨0x700⟩ (.string s)).write ⟨0x800⟩
          (.string s')).write ⟨0x900⟩ (.string s'')
        env.Hashes m ⟨0x700⟩ (-2147483648) ∧ env.Hashes m ⟨0x900⟩ (-2092539337) ∧
        ∃ h h' h'' : Int32, env.Hashes m ⟨0x700⟩ h ∧ env.Hashes m ⟨0x800⟩ h' ∧
          env.Hashes m ⟨0x900⟩ h'' ∧
          h''.toInt ≡ h.toInt * 31 ^ 3 + h'.toInt [ZMOD 2 ^ 32] := by
  intro env text more
  have hwithin : env.table.Within env.classAt? := within_wordEnvironment
  have hstring : env.table.get? "java/lang" "String" = some (stringClass ⟨0x40⟩) := rfl
  obtain ⟨hmade, hhashed, hjoined⟩ := hashCode_is_polynomial env hwithin _ hstring rfl
  obtain ⟨s, hs, htext⟩ := hmade text (by decide)
  obtain ⟨s', hs', hmore⟩ := hmade more (by decide)
  obtain ⟨s'', hs'', hboth⟩ := hmade (text ++ more) (by decide)
  refine ⟨hwithin, hstring, s, s', s'', hs, hs', hs'', ?_⟩
  intro m
  have hfirst : env.HoldsText m ⟨0x700⟩ text := htext m ⟨0x700⟩ rfl
  have hsecond : env.HoldsText m ⟨0x800⟩ more := hmore m ⟨0x800⟩ rfl
  have hthird : env.HoldsText m ⟨0x900⟩ (text ++ more) := hboth m ⟨0x900⟩ rfl
  refine ⟨?_, ?_, hjoined m _ _ _ text more hfirst hsecond hthird⟩
  · obtain ⟨h, hh, hvalue⟩ := hhashed m ⟨0x700⟩ text hfirst
    obtain rfl : h = -2147483648 := Int32.toInt_inj.mp (hvalue.trans (by decide +kernel))
    exact hh
  · obtain ⟨h, hh, hvalue⟩ := hhashed m ⟨0x900⟩ (text ++ more) hthird
    obtain rfl : h = -2092539337 := Int32.toInt_inj.mp (hvalue.trans (by decide +kernel))
    exact hh

end Environment

end NativeBridge
