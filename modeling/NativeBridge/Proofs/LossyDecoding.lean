import Mathlib.Data.List.Forall2
import NativeBridge.Proofs.Utf8Decoding

/-!
# Lossy decoding

Lossy decoding gives the text of bytes that are UTF-8 back. Other bytes it shows too, and then it
forgets what they were: broken bytes and the replacement character look the same. This file says
which byte lists read alike, and when reading alike still makes them equal.
-/

namespace NativeBridge.Utf8

/-- The pieces that are shown as the replacement character. -/
inductive Piece.Blurred : Piece → Prop where
  | broken : Blurred .illFormed
  | replacement : Blurred (.scalar replacement)

/-- Byte lists that have the same pieces in the same order, but for blurred pieces, which stand for
one another. -/
def ReadAlike (bytes bytes' : List UInt8) : Prop :=
  List.Forall₂ (fun p q => p = q ∨ p.Blurred ∧ q.Blurred) (pieces bytes) (pieces bytes')

lemma Piece.blurred_iff {p : Piece} : p.Blurred ↔ p.shown = Utf8.replacement := by
  cases p with
  | illFormed => exact iff_of_true .broken rfl
  | scalar c =>
    constructor
    · rintro ⟨⟩
      rfl
    · rintro rfl
      exact .replacement

lemma Piece.eq_scalar_of_not_blurred {p : Piece} (h : ¬p.Blurred) : p = .scalar p.shown := by
  cases p with
  | illFormed => exact absurd .broken h
  | scalar c => rfl

lemma Piece.shown_eq_iff {p q : Piece} : p.shown = q.shown ↔ p = q ∨ p.Blurred ∧ q.Blurred := by
  constructor
  · intro h
    by_cases hp : p.Blurred
    · have hq : q.Blurred := blurred_iff.mpr (h.symm.trans (blurred_iff.mp hp))
      exact .inr ⟨hp, hq⟩
    · have hq : ¬q.Blurred := fun hq => hp (blurred_iff.mpr (h.trans (blurred_iff.mp hq)))
      rw [eq_scalar_of_not_blurred hp, eq_scalar_of_not_blurred hq, h]
      exact .inl rfl
  · rintro (rfl | ⟨hp, hq⟩)
    · rfl
    · rw [blurred_iff.mp hp, blurred_iff.mp hq]

/-- Byte lists are shown as one text exactly when they read alike. -/
theorem decodeLossy_eq_iff {bytes bytes' : List UInt8} :
    decodeLossy bytes = decodeLossy bytes' ↔ ReadAlike bytes bytes' := by
  unfold decodeLossy ReadAlike
  rw [← List.forall₂_eq_eq_eq, List.forall₂_map_left_iff, List.forall₂_map_right_iff]
  simp only [Piece.shown_eq_iff]

section Valid

variable {bytes bytes' : List UInt8} {text : List Char}

lemma mapM_scalar?_eq_some_iff {ps : List Piece} :
    ps.mapM Piece.scalar? = some text ↔ ps = text.map .scalar := by
  induction ps generalizing text with
  | nil => cases text <;> simp
  | cons p ps ih =>
    rw [List.mapM_cons]
    cases p with
    | illFormed => cases text <;> simp [Piece.scalar?]
    | scalar c =>
      cases text with
      | nil => simp [Piece.scalar?, Option.bind_eq_some_iff]
      | cons c' text =>
        simp only [Piece.scalar?, Option.bind_eq_bind, Option.bind_some, Option.pure_def,
          Option.bind_eq_some_iff, Option.some.injEq, List.cons.injEq, List.map_cons,
          Piece.scalar.injEq, ih]
        constructor
        · rintro ⟨_, hps, rfl, rfl⟩
          exact ⟨rfl, hps⟩
        · rintro ⟨rfl, hps⟩
          exact ⟨text, hps, rfl, rfl⟩

lemma pieces_eq_iff : pieces bytes = text.map .scalar ↔ encode text = bytes := by
  rw [← decode?_eq_some_iff, decode?, mapM_scalar?_eq_some_iff]

theorem decodeLossy_encode (text : List Char) : decodeLossy (encode text) = text := by
  rw [decodeLossy, pieces_eq_iff.mpr rfl, List.map_map]
  exact List.map_id text

theorem decodeLossy_eq_iff_encode (h : replacement ∉ text) :
    decodeLossy bytes = text ↔ encode text = bytes := by
  constructor
  · intro hshown
    have hclear : ∀ p ∈ pieces bytes, p = .scalar p.shown := by
      intro p hp
      apply Piece.eq_scalar_of_not_blurred
      intro hblurred
      have hmem : p.shown ∈ text := hshown ▸ List.mem_map_of_mem hp
      rw [Piece.blurred_iff.mp hblurred] at hmem
      exact h hmem
    apply pieces_eq_iff.mp
    calc pieces bytes
        = (pieces bytes).map id := (List.map_id _).symm
      _ = (pieces bytes).map fun p => .scalar p.shown := List.map_congr_left hclear
      _ = text.map .scalar := by
        rw [← hshown, decodeLossy, List.map_map]
        rfl
  · rintro rfl
    exact decodeLossy_encode text

theorem ReadAlike.encode_eq (h : ReadAlike (encode text) bytes)
    (hbytes : (∃ text', encode text' = bytes) ∨ replacement ∉ text) : encode text = bytes := by
  have hshown : decodeLossy bytes = text := by
    rw [← decodeLossy_eq_iff.mpr h, decodeLossy_encode]
  obtain ⟨text', rfl⟩ | hclear := hbytes
  · rw [decodeLossy_encode] at hshown
    rw [hshown]
  · exact (decodeLossy_eq_iff_encode hclear).mp hshown

end Valid

end NativeBridge.Utf8
