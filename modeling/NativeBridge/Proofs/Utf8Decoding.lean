import Mathlib.Tactic.Common
import NativeBridge.Text.Utf8

/-!
# Strict decoding

Strict decoding is exact: it accepts the bytes of a text and nothing else, and gives that text back.
The well-formed sequences of one scalar value are listed with the number each of them spells, once
as reading finds them and once as encoding writes them.
-/

namespace NativeBridge.Utf8

section Ranges

variable {lead b : UInt8}

lemma isContinuation_iff : isContinuation b = true ↔ 0x80 ≤ b.toNat ∧ b.toNat ≤ 0xbf := by
  rw [isContinuation, Bool.and_eq_true, decide_eq_true_eq, decide_eq_true_eq]
  exact and_congr UInt8.le_iff_toNat_le UInt8.le_iff_toNat_le

lemma fitsThreeByteLead_iff : fitsThreeByteLead lead b = true ↔
    (0x80 ≤ b.toNat ∧ b.toNat ≤ 0xbf) ∧ (lead.toNat = 0xe0 → 0xa0 ≤ b.toNat) ∧
      (lead.toNat = 0xed → b.toNat ≤ 0x9f) := by
  simp only [fitsThreeByteLead, isContinuation, ← UInt8.toNat_inj, UInt8.le_iff_toNat_le,
    UInt8.reduceToNat]
  split_ifs with he0 hed
  all_goals
    rw [Bool.and_eq_true, decide_eq_true_eq, decide_eq_true_eq]
    omega

lemma fitsFourByteLead_iff : fitsFourByteLead lead b = true ↔
    (0x80 ≤ b.toNat ∧ b.toNat ≤ 0xbf) ∧ (lead.toNat = 0xf0 → 0x90 ≤ b.toNat) ∧
      (lead.toNat = 0xf4 → b.toNat ≤ 0x8f) := by
  simp only [fitsFourByteLead, isContinuation, ← UInt8.toNat_inj, UInt8.le_iff_toNat_le,
    UInt8.reduceToNat]
  split_ifs with hf0 hf4
  all_goals
    rw [Bool.and_eq_true, decide_eq_true_eq, decide_eq_true_eq]
    omega

end Ranges

/-- The well-formed sequences of one scalar value, by length, with the number each spells. -/
inductive Spells : List UInt8 → Nat → Prop where
  | one {a : UInt8} (ha : a.toNat < 0x80) : Spells [a] a.toNat
  | two {a b : UInt8} (ha : 0xc2 ≤ a.toNat ∧ a.toNat ≤ 0xdf) (hb : isContinuation b) :
      Spells [a, b] (a.toNat % 32 * 64 + b.toNat % 64)
  | three {a b c : UInt8} (ha : 0xe0 ≤ a.toNat ∧ a.toNat ≤ 0xef) (hb : fitsThreeByteLead a b)
      (hc : isContinuation c) :
      Spells [a, b, c] ((a.toNat % 16 * 64 + b.toNat % 64) * 64 + c.toNat % 64)
  | four {a b c d : UInt8} (ha : 0xf0 ≤ a.toNat ∧ a.toNat ≤ 0xf4) (hb : fitsFourByteLead a b)
      (hc : isContinuation c) (hd : isContinuation d) :
      Spells [a, b, c, d]
        (((a.toNat % 8 * 64 + b.toNat % 64) * 64 + c.toNat % 64) * 64 + d.toNat % 64)

lemma readPiece_of_spells {a : UInt8} {tail : List UInt8} {n : Nat} (h : Spells (a :: tail) n)
    (rest : List UInt8) : readPiece a (tail ++ rest) = (.scalar (Char.ofNat n), rest) := by
  unfold readPiece
  simp only [UInt8.lt_iff_toNat_lt, UInt8.le_iff_toNat_le, UInt8.reduceToNat]
  -- The ranges of the lead bytes are disjoint, so the length decides the branch.
  cases h with
  | one ha => rw [if_pos ha, List.nil_append]
  | two ha hb =>
    rw [if_neg (by omega), if_pos ha]
    simp only [List.cons_append, List.nil_append, hb, if_true]
    rfl
  | three ha hb hc =>
    rw [if_neg (by omega), if_neg (by omega), if_pos ha]
    simp only [List.cons_append, List.nil_append, hb, hc, if_true]
    rfl
  | four ha hb hc hd =>
    rw [if_neg (by omega), if_neg (by omega), if_neg (by omega), if_pos ha]
    simp only [List.cons_append, List.nil_append, hb, hc, hd, if_true]
    rfl

lemma exists_spells_of_readPiece {a : UInt8} {bytes rest : List UInt8} {c : Char}
    (h : readPiece a bytes = (.scalar c, rest)) :
    ∃ tail n, bytes = tail ++ rest ∧ Spells (a :: tail) n ∧ c = Char.ofNat n := by
  revert h
  fun_cases readPiece a bytes with
  | case1 _ ha =>
    rintro ⟨⟩
    exact ⟨[], _, rfl, .one (UInt8.lt_iff_toNat_lt.mp ha), rfl⟩
  | case2 _ ha b r hb =>
    rintro ⟨⟩
    have hlead := ha.imp UInt8.le_iff_toNat_le.mp UInt8.le_iff_toNat_le.mp
    exact ⟨[b], _, rfl, .two hlead hb, rfl⟩
  | case5 _ _ ha b c r hb hc =>
    rintro ⟨⟩
    have hlead := ha.imp UInt8.le_iff_toNat_le.mp UInt8.le_iff_toNat_le.mp
    exact ⟨[b, c], _, rfl, .three hlead hb hc, rfl⟩
  | case11 _ _ _ ha b c d r hb hc hd =>
    rintro ⟨⟩
    have hlead := ha.imp UInt8.le_iff_toNat_le.mp UInt8.le_iff_toNat_le.mp
    exact ⟨[b, c, d], _, rfl, .four hlead hb hc hd, rfl⟩
  | _ => rintro ⟨⟩

/-- The bytes that encode a number as a scalar value. -/
def encodeNat (n : Nat) : List UInt8 :=
  if n ≤ 0x7f then [.ofNat n]
  else if n ≤ 0x7ff then [.ofNat (n / 64 % 32 + 0xc0), .ofNat (n % 64 + 0x80)]
  else if n ≤ 0xffff then
    [.ofNat (n / 4096 % 16 + 0xe0), .ofNat (n / 64 % 64 + 0x80), .ofNat (n % 64 + 0x80)]
  else
    [.ofNat (n / 262144 % 8 + 0xf0), .ofNat (n / 4096 % 64 + 0x80), .ofNat (n / 64 % 64 + 0x80),
      .ofNat (n % 64 + 0x80)]

lemma encodeChar_eq (c : Char) : String.utf8EncodeChar c = encodeNat c.toNat := rfl

lemma toNat_ofNat_of_isValidChar {n : Nat} (h : n.isValidChar) : (Char.ofNat n).toNat = n := by
  rw [Char.ofNat, dif_pos h]
  rfl

lemma ofNat_of_eq_toNat {n : Nat} {b : UInt8} (h : n = b.toNat) : UInt8.ofNat n = b := by
  rw [h, UInt8.ofNat_toNat]

lemma Spells.isValidChar {bytes : List UInt8} {n : Nat} (h : Spells bytes n) :
    n.isValidChar := by
  unfold Nat.isValidChar
  cases h with
  | one ha => omega
  | two ha hb => omega
  | three ha hb hc =>
    rw [fitsThreeByteLead_iff] at hb
    omega
  | four ha hb hc hd =>
    rw [fitsFourByteLead_iff] at hb
    omega

lemma Spells.encodeNat_eq {bytes : List UInt8} {n : Nat} (h : Spells bytes n) :
    encodeNat n = bytes := by
  cases h with
  | one ha => rw [encodeNat, if_pos (by omega), UInt8.ofNat_toNat]
  | two ha hb =>
    rw [isContinuation_iff] at hb
    rw [encodeNat, if_neg (by omega), if_pos (by omega)]
    simp only [List.cons.injEq, and_true]
    exact ⟨ofNat_of_eq_toNat (by omega), ofNat_of_eq_toNat (by omega)⟩
  | three ha hb hc =>
    rw [fitsThreeByteLead_iff] at hb
    rw [isContinuation_iff] at hc
    rw [encodeNat, if_neg (by omega), if_neg (by omega), if_pos (by omega)]
    simp only [List.cons.injEq, and_true]
    exact ⟨ofNat_of_eq_toNat (by omega), ofNat_of_eq_toNat (by omega),
      ofNat_of_eq_toNat (by omega)⟩
  | four ha hb hc hd =>
    rw [fitsFourByteLead_iff] at hb
    rw [isContinuation_iff] at hc hd
    rw [encodeNat, if_neg (by omega), if_neg (by omega), if_neg (by omega)]
    simp only [List.cons.injEq, and_true]
    exact ⟨ofNat_of_eq_toNat (by omega), ofNat_of_eq_toNat (by omega),
      ofNat_of_eq_toNat (by omega), ofNat_of_eq_toNat (by omega)⟩

lemma toNat_continuation (n : Nat) : (UInt8.ofNat (n % 64 + 0x80)).toNat = n % 64 + 0x80 := by
  have hlt : n % 64 + 0x80 < 256 := by omega
  exact UInt8.toNat_ofNat_of_lt' hlt

lemma spells_encodeNat {n : Nat} (hn : n.isValidChar) : Spells (encodeNat n) n := by
  -- The ranges of the second byte are where surrogates and overlong forms are ruled out.
  unfold Nat.isValidChar at hn
  have hlead : ∀ {m : Nat}, m < 256 → (UInt8.ofNat m).toNat = m := UInt8.toNat_ofNat_of_lt'
  have hlast := toNat_continuation n
  have hmiddle := toNat_continuation (n / 64)
  have hsecond := toNat_continuation (n / 4096)
  unfold encodeNat
  split_ifs with hone htwo hthree
  · have ha : (UInt8.ofNat n).toNat = n := hlead (by omega)
    have hspells := Spells.one (a := .ofNat n) (by omega)
    rwa [ha] at hspells
  · have ha : (UInt8.ofNat (n / 64 % 32 + 0xc0)).toNat = n / 64 % 32 + 0xc0 := hlead (by omega)
    have hspells := Spells.two (a := .ofNat (n / 64 % 32 + 0xc0)) (b := .ofNat (n % 64 + 0x80))
      (by omega) (isContinuation_iff.mpr (by omega))
    rw [ha, hlast] at hspells
    convert hspells using 1
    omega
  · have ha : (UInt8.ofNat (n / 4096 % 16 + 0xe0)).toNat = n / 4096 % 16 + 0xe0 :=
      hlead (by omega)
    have hspells := Spells.three (a := .ofNat (n / 4096 % 16 + 0xe0))
      (b := .ofNat (n / 64 % 64 + 0x80)) (c := .ofNat (n % 64 + 0x80)) (by omega)
      (fitsThreeByteLead_iff.mpr (by omega)) (isContinuation_iff.mpr (by omega))
    rw [ha, hmiddle, hlast] at hspells
    convert hspells using 1
    omega
  · have ha : (UInt8.ofNat (n / 262144 % 8 + 0xf0)).toNat = n / 262144 % 8 + 0xf0 :=
      hlead (by omega)
    have hspells := Spells.four (a := .ofNat (n / 262144 % 8 + 0xf0))
      (b := .ofNat (n / 4096 % 64 + 0x80)) (c := .ofNat (n / 64 % 64 + 0x80))
      (d := .ofNat (n % 64 + 0x80)) (by omega) (fitsFourByteLead_iff.mpr (by omega))
      (isContinuation_iff.mpr (by omega)) (isContinuation_iff.mpr (by omega))
    rw [ha, hsecond, hmiddle, hlast] at hspells
    convert hspells using 1
    omega

lemma encodeChar_of_spells {bytes : List UInt8} {n : Nat} (h : Spells bytes n) :
    String.utf8EncodeChar (Char.ofNat n) = bytes := by
  rw [encodeChar_eq, toNat_ofNat_of_isValidChar h.isValidChar, h.encodeNat_eq]

lemma spells_encodeChar (c : Char) : Spells (String.utf8EncodeChar c) c.toNat := by
  rw [encodeChar_eq]
  exact spells_encodeNat c.valid

/-- Reading finds a scalar value exactly when the bytes begin with its encoding. -/
theorem readPiece_eq_scalar_iff {lead : UInt8} {bytes rest : List UInt8} {c : Char} :
    readPiece lead bytes = (.scalar c, rest) ↔
      lead :: bytes = String.utf8EncodeChar c ++ rest := by
  constructor
  · intro h
    obtain ⟨tail, n, rfl, hspells, rfl⟩ := exists_spells_of_readPiece h
    rw [encodeChar_of_spells hspells, List.cons_append]
  · intro h
    have hspells := spells_encodeChar c
    cases hbytes : String.utf8EncodeChar c with
    | nil => exact absurd hbytes String.utf8EncodeChar_ne_nil
    | cons a tail =>
      rw [hbytes, List.cons_append] at h
      rw [hbytes] at hspells
      obtain ⟨rfl, rfl⟩ := List.cons.inj h
      rw [readPiece_of_spells hspells, Char.ofNat_toNat]

lemma decode?_nil : decode? [] = some [] := by
  rw [decode?, pieces, List.mapM_nil]
  rfl

lemma decode?_cons_eq_some_iff {lead : UInt8} {bytes : List UInt8} {text : List Char} :
    decode? (lead :: bytes) = some text ↔ ∃ c rest others,
      readPiece lead bytes = (.scalar c, rest) ∧ decode? rest = some others ∧
        text = c :: others := by
  unfold decode?
  rw [pieces, List.mapM_cons]
  generalize readPiece lead bytes = step
  obtain ⟨piece, rest⟩ := step
  cases piece with
  | scalar c =>
    simp only [Piece.scalar?, Option.bind_eq_bind, Option.bind_eq_some_iff, Option.pure_def,
      Option.some.injEq, Prod.mk.injEq, Piece.scalar.injEq]
    constructor
    · rintro ⟨_, rfl, others, hothers, rfl⟩
      exact ⟨c, rest, others, ⟨rfl, rfl⟩, hothers, rfl⟩
    · rintro ⟨_, _, others, ⟨rfl, rfl⟩, hothers, rfl⟩
      exact ⟨c, rfl, others, hothers, rfl⟩
  | illFormed => simp [Piece.scalar?]

lemma encode_cons (c : Char) (text : List Char) :
    encode (c :: text) = String.utf8EncodeChar c ++ encode text := List.flatMap_cons

theorem decode?_eq_some_iff {bytes : List UInt8} {text : List Char} :
    decode? bytes = some text ↔ encode text = bytes := by
  -- Induction along the pieces: the hypothesis is about the bytes that the first piece leaves.
  fun_induction pieces bytes generalizing text with
  | case1 =>
    rw [decode?_nil]
    cases text with
    | nil => simp [encode]
    | cons c text => simp [encode_cons, String.utf8EncodeChar_ne_nil]
  | case2 lead bytes step =>
    rename_i ih
    rw [decode?_cons_eq_some_iff]
    constructor
    · rintro ⟨c, rest, others, hpiece, hothers, rfl⟩
      have hrest : step.2 = rest := congrArg Prod.snd hpiece
      rw [hrest] at ih
      rw [encode_cons, ih.mp hothers, readPiece_eq_scalar_iff.mp hpiece]
    · intro h
      cases text with
      | nil => cases h
      | cons c others =>
        rw [encode_cons] at h
        have hpiece := readPiece_eq_scalar_iff.mpr h.symm
        have hrest : step.2 = encode others := congrArg Prod.snd hpiece
        rw [hrest] at ih
        exact ⟨c, encode others, others, hpiece, ih.mpr rfl, rfl⟩

end NativeBridge.Utf8
