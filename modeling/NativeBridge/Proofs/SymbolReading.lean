import Mathlib.Data.List.Infix
import Mathlib.Tactic.IntervalCases
import NativeBridge.Class.Symbol

/-!
# Reading symbols back

A text is written in a symbol character by character, and the pieces differ in length: the piece for
a slash is the front of every other escape. This file reads the UTF-16 units off a written text. The
reading is right for every text in which no slash is followed by a digit that would make an escape
of it, so two such texts that are written alike are equal.
-/

namespace NativeBridge

namespace Hex

lemma padded_succ (count n : Nat) :
    padded (count + 2) n = padded (count + 1) (n / 16) ++ [(n % 16).digitChar] := by
  unfold padded digits
  by_cases hn : n < 16
  · rw [Nat.toDigits_of_lt_base hn, Nat.div_eq_of_lt hn, Nat.mod_eq_of_lt hn,
      Nat.toDigits_of_lt_base (by decide)]
    have hzero : Nat.digitChar 0 = '0' := rfl
    simp [List.replicate_succ', hzero]
  · rw [Nat.toDigits_of_base_le (by decide) (Nat.le_of_not_lt hn), List.length_append,
      List.length_singleton, ← List.append_assoc]
    congr 3
    omega

lemma padded_four {n : Nat} (h : n < 0x10000) :
    padded 4 n = [(n / 0x1000).digitChar, (n / 0x100 % 16).digitChar, (n / 0x10 % 16).digitChar,
      (n % 16).digitChar] := by
  have hone : padded 1 (n / 16 / 16 / 16) = [(n / 0x1000).digitChar] := by
    have hlt : n / 16 / 16 / 16 < 16 := by omega
    unfold padded digits
    rw [Nat.toDigits_of_lt_base hlt, show n / 16 / 16 / 16 = n / 0x1000 by omega]
    rfl
  rw [padded_succ 2, padded_succ 1, padded_succ 0, hone, show n / 16 / 16 = n / 0x100 by omega]
  rfl

lemma digitValue?_digitChar {d : Nat} (h : d < 16) : digitValue? d.digitChar = some d := by
  interval_cases d <;> rfl

lemma number?_padded_four {n : Nat} (h : n < 0x10000) : number? (padded 4 n) = some n := by
  rw [padded_four h]
  simp only [number?, List.isEmpty_cons, Bool.false_eq_true, if_false, List.foldlM_cons,
    List.foldlM_nil, digitValue?_digitChar (show n / 0x1000 < 16 by omega),
    digitValue?_digitChar (Nat.mod_lt _ (by decide : 16 > 0)), Option.map_some, Option.bind_eq_bind,
    Option.bind_some, Option.pure_def, Option.some.injEq]
  omega

end Hex

namespace Utf16

lemma unitsOfChar_of_lt {c : Char} (h : c.toNat < 0x10000) :
    unitsOfChar c = [UInt16.ofNat c.toNat] := if_pos h

/-- The first unit of a character says whether a second one follows, so characters can be told apart
whatever stands behind them. -/
lemma unitsOfChar_append_inj {c d : Char} {rest rest' : List UInt16}
    (h : unitsOfChar c ++ rest = unitsOfChar d ++ rest') : c = d ∧ rest = rest' := by
  have hc := c.valid
  have hd := d.valid
  simp only [UInt32.isValidChar, Nat.isValidChar] at hc hd
  have htoNat : ∀ c : Char, c.val.toNat = c.toNat := fun _ => rfl
  rw [htoNat] at hc hd
  unfold unitsOfChar at h
  split at h <;> split at h
  · simp only [List.singleton_append, List.cons.injEq, ← UInt16.toNat_inj,
      UInt16.toNat_ofNat'] at h
    exact ⟨Char.toNat_inj.mp (by omega), h.2⟩
  · -- A unit of the basic plane is no surrogate.
    simp only [List.cons_append, List.nil_append, List.cons.injEq, ← UInt16.toNat_inj,
      UInt16.toNat_ofNat'] at h
    omega
  · simp only [List.cons_append, List.nil_append, List.cons.injEq, ← UInt16.toNat_inj,
      UInt16.toNat_ofNat'] at h
    omega
  · simp only [List.cons_append, List.nil_append, List.cons.injEq, ← UInt16.toNat_inj,
      UInt16.toNat_ofNat'] at h
    exact ⟨Char.toNat_inj.mp (by omega), h.2.2⟩

lemma units_cons (c : Char) (text : List Char) :
    units (c :: text) = unitsOfChar c ++ units text := rfl

lemma unitsOfChar_ne_nil (c : Char) : unitsOfChar c ≠ [] := by
  unfold unitsOfChar
  split <;> simp

theorem units_injective {text text' : List Char} (h : units text = units text') : text = text' := by
  induction text generalizing text' with
  | nil =>
    cases text' with
    | nil => rfl
    | cons d text' =>
      rw [units_cons] at h
      exact absurd (List.append_eq_nil_iff.mp h.symm).1 (unitsOfChar_ne_nil d)
  | cons c text ih =>
    cases text' with
    | nil =>
      rw [units_cons] at h
      exact absurd (List.append_eq_nil_iff.mp h).1 (unitsOfChar_ne_nil c)
    | cons d text' =>
      rw [units_cons, units_cons] at h
      obtain ⟨rfl, hrest⟩ := unitsOfChar_append_inj h
      rw [ih hrest]

end Utf16

namespace Symbol

/-- The digits that make an escape of the underscore before them. -/
def escapeDigits : List Char := ['0', '1', '2', '3']

def BeginsClear (text : List Char) : Prop := ∀ d ∈ escapeDigits, text.head? ≠ some d

def SlashesClear (text : List Char) : Prop := ∀ d ∈ escapeDigits, ¬['/', d] <:+: text

instance (text : List Char) : Decidable (BeginsClear text) :=
  List.decidableBAll (fun d => text.head? ≠ some d) escapeDigits

instance (text : List Char) : Decidable (SlashesClear text) :=
  List.decidableBAll (fun d => ¬['/', d] <:+: text) escapeDigits

/-- The UTF-16 units that a written text spells. -/
def unescape : List Char → List UInt16
  | [] => []
  | '_' :: '0' :: a :: b :: c :: d :: rest =>
    UInt16.ofNat ((Hex.number? [a, b, c, d]).getD 0) :: unescape rest
  | '_' :: '1' :: rest => UInt16.ofNat '_'.toNat :: unescape rest
  | '_' :: '2' :: rest => UInt16.ofNat ';'.toNat :: unescape rest
  | '_' :: '3' :: rest => UInt16.ofNat '['.toNat :: unescape rest
  | '_' :: rest => UInt16.ofNat '/'.toNat :: unescape rest
  | c :: rest => UInt16.ofNat c.toNat :: unescape rest

lemma slashesClear_cons {c : Char} {text : List Char} :
    SlashesClear (c :: text) ↔ (c = '/' → BeginsClear text) ∧ SlashesClear text := by
  have hhead : ∀ d, [d] <+: text ↔ text.head? = some d := by
    intro d
    cases text <;> simp [eq_comm]
  simp only [SlashesClear, BeginsClear, List.infix_cons_iff, List.cons_prefix_cons, hhead]
  constructor
  · intro h
    exact ⟨fun hc d hd hdigit => h d hd (.inl ⟨hc.symm, hdigit⟩),
      fun d hd hinfix => h d hd (.inr hinfix)⟩
  · rintro ⟨hslash, hrest⟩ d hd (⟨hc, hdigit⟩ | hinfix)
    · exact hslash hc.symm d hd hdigit
    · exact hrest d hd hinfix

lemma SlashesClear.append {text text' : List Char} (h : SlashesClear text)
    (h' : SlashesClear text') (hbegin : BeginsClear text') : SlashesClear (text ++ text') := by
  induction text with
  | nil => exact h'
  | cons c text ih =>
    rw [slashesClear_cons] at h
    rw [List.cons_append, slashesClear_cons]
    refine ⟨fun hc => ?_, ih h.2⟩
    cases text with
    | nil => exact hbegin
    | cons d text => exact h.1 hc

lemma unescape_of_ne {c : Char} (h : c ≠ '_') (rest : List Char) :
    unescape (c :: rest) = UInt16.ofNat c.toNat :: unescape rest := by
  conv_lhs => unfold unescape
  split <;> simp_all

lemma unescape_slash {rest : List Char} (h : BeginsClear rest) :
    unescape ('_' :: rest) = UInt16.ofNat '/'.toNat :: unescape rest := by
  have hclear : ∀ d ∈ escapeDigits, ∀ rest', rest = d :: rest' → False := by
    rintro d hd rest' rfl
    exact h d hd rfl
  rw [unescape]
  · exact fun a b c d rest' => hclear '0' (by decide) _
  · exact hclear '1' (by decide)
  · exact hclear '2' (by decide)
  · exact hclear '3' (by decide)

lemma unescape_escapeUnit (unit : UInt16) (rest : List Char) :
    unescape (escapeUnit unit ++ rest) = unit :: unescape rest := by
  have hunit : unit.toNat < 0x10000 := unit.toNat_lt
  have hnumber := Hex.number?_padded_four hunit
  rw [Hex.padded_four hunit] at hnumber
  simp only [escapeUnit, Hex.padded_four hunit, List.cons_append, List.nil_append, unescape,
    hnumber, Option.getD_some, UInt16.ofNat_toNat]

lemma unescape_flatMap_escapeUnit (codeUnits : List UInt16) (rest : List Char) :
    unescape (codeUnits.flatMap escapeUnit ++ rest) = codeUnits ++ unescape rest := by
  induction codeUnits with
  | nil => rfl
  | cons unit codeUnits ih =>
    rw [List.flatMap_cons, List.append_assoc, unescape_escapeUnit, ih]
    rfl

lemma escape_cons (c : Char) (text : List Char) :
    escape (c :: text) = escapeChar c ++ escape text := rfl

lemma escape_append (text text' : List Char) :
    escape (text ++ text') = escape text ++ escape text' := List.flatMap_append

lemma toNat_lt_of_isPlain {c : Char} (h : isPlain c = true) : c.toNat < 0x80 := by
  have htoNat : ∀ c : Char, c.val.toNat = c.toNat := fun _ => rfl
  simp only [isPlain, Bool.or_eq_true, Bool.and_eq_true, decide_eq_true_eq, Char.le_def,
    UInt32.le_iff_toNat_le, htoNat, Char.reduceToNat] at h
  omega

lemma escapeChar_eq (c : Char) : escapeChar c = [c] ∨ ∃ rest, escapeChar c = '_' :: rest := by
  cases hunits : Utf16.unitsOfChar c with
  | nil => exact absurd hunits (Utf16.unitsOfChar_ne_nil c)
  | cons unit codeUnits =>
    unfold escapeChar
    rw [hunits, List.flatMap_cons, escapeUnit]
    grind

lemma BeginsClear.escape {text : List Char} (h : BeginsClear text) :
    BeginsClear (escape text) := by
  cases text with
  | nil => exact h
  | cons c text =>
    rw [escape_cons]
    obtain hplain | ⟨rest, hrest⟩ := escapeChar_eq c
    · rw [hplain]
      exact h
    · rw [hrest]
      simp [BeginsClear, escapeDigits]

/-- The piece of a character is read as its units, if no digit behind a slash makes an escape. -/
lemma unescape_escapeChar {c : Char} {rest : List Char} (h : c = '/' → BeginsClear rest) :
    unescape (escapeChar c ++ rest) = Utf16.unitsOfChar c ++ unescape rest := by
  -- Only the piece of a slash can run into what follows; all others end where they end.
  unfold escapeChar
  split
  case isTrue hslash =>
    subst hslash
    exact unescape_slash (h rfl)
  case isFalse hslash =>
  split
  case isTrue hunderscore =>
    subst hunderscore
    rfl
  case isFalse hunderscore =>
  split
  case isTrue hsemicolon =>
    subst hsemicolon
    rfl
  case isFalse =>
  split
  case isTrue hbracket =>
    subst hbracket
    rfl
  case isFalse =>
  split
  case isTrue hplain =>
    have hlt : c.toNat < 0x10000 := Nat.lt_trans (toNat_lt_of_isPlain hplain) (by decide)
    rw [Utf16.unitsOfChar_of_lt hlt]
    exact unescape_of_ne hunderscore rest
  case isFalse => exact unescape_flatMap_escapeUnit _ rest

/-- A written text is read back as its units. -/
theorem unescape_escape {text : List Char} (h : SlashesClear text) :
    unescape (escape text) = Utf16.units text := by
  induction text with
  | nil => rfl
  | cons c text ih =>
    rw [slashesClear_cons] at h
    rw [escape_cons, unescape_escapeChar fun hc => (h.1 hc).escape, ih h.2, Utf16.units_cons]

theorem escape_injective {text text' : List Char} (h : SlashesClear text)
    (h' : SlashesClear text') (heq : escape text = escape text') : text = text' := by
  apply Utf16.units_injective
  rw [← unescape_escape h, ← unescape_escape h', heq]

end Symbol

end NativeBridge
