import Mathlib.Tactic.Common
import NativeBridge.Class.ArrayDescriptor

/-!
# The grammar of array descriptors

A well-formed descriptor is a row of brackets, one for each dimension, before a primitive letter or
before a class name between `L` and a semicolon. Reading a descriptor takes off one bracket and
leaves what follows to the next reading: it asks neither whether a further array name is well formed
nor what a class name looks like. So every well-formed descriptor is read as the grammar says, and
this file also says which other texts are read, and as what.
-/

namespace NativeBridge.ElementType

/-- The elements of the innermost dimension, by the text that stands behind all brackets. -/
inductive Innermost : List Char → ElementType → Prop where
  | primitive {p : Primitive} (hp : p ∈ primitives) : Innermost [p.letter] ⟨p.name, p.width⟩
  | reference {name : List Char} (hname : name ≠ []) (hclear : ';' ∉ name) :
      Innermost ('L' :: (name ++ [';'])) ⟨String.ofList name, referenceWidth⟩

/-- The well-formed array descriptors, with the elements of the outermost dimension. -/
inductive Describes : List Char → ElementType → Prop where
  | innermost {text : List Char} {e : ElementType} (h : Innermost text e) :
      Describes ('[' :: text) e
  | nested {d : List Char} {e : ElementType} (h : Describes d e) :
      Describes ('[' :: d) ⟨String.ofList d, referenceWidth⟩

/-- The other texts that are read as array descriptors: a class name that is empty or holds a
semicolon, and a further array name that is not well formed. -/
inductive Misread : List Char → ElementType → Prop where
  | reference {name : List Char} (hname : name = [] ∨ ';' ∈ name) :
      Misread ('[' :: 'L' :: (name ++ [';'])) ⟨String.ofList name, referenceWidth⟩
  | nested {d : List Char} (hd : ∀ e, ¬Describes ('[' :: d) e) :
      Misread ('[' :: '[' :: d) ⟨String.ofList ('[' :: d), referenceWidth⟩

/-- The elements read after `n` readings, each of the name that the one before it has given. -/
def peel : Nat → String → Option ElementType
  | 0, name => ofArrayClass? name
  | n + 1, name => (ofArrayClass? name).bind fun e => peel n e.name

section Reading

variable {element name : List Char} {e : ElementType}

lemma className?_eq_some_iff :
    className? element = some name ↔ element = 'L' :: (name ++ [';']) := by
  fun_cases className? element with
  | case1 rest hlast =>
    obtain ⟨front, rfl⟩ := List.getLast?_eq_some_iff.mp hlast
    rw [List.dropLast_concat, Option.some.injEq, List.cons.injEq, List.append_cancel_right_eq]
    simp [eq_comm]
  | case2 rest hlast =>
    refine iff_of_false nofun ?_
    rintro ⟨⟩
    exact hlast List.getLast?_concat
  | case3 _ hletter =>
    refine iff_of_false nofun ?_
    rintro rfl
    exact hletter _ rfl

lemma className?_eq_none_of_ne {c : Char} {rest : List Char} (h : c ≠ 'L') :
    className? (c :: rest) = none := by
  cases hname : className? (c :: rest) with
  | none => rfl
  | some name => exact absurd (List.cons.inj (className?_eq_some_iff.mp hname)).1 h

lemma ofElementChars?_reference (name : List Char) :
    ofElementChars? ('L' :: (name ++ [';'])) = some ⟨String.ofList name, referenceWidth⟩ := by
  unfold ofElementChars?
  rw [className?_eq_some_iff.mpr rfl]

lemma ofElementChars?_nested (d : List Char) :
    ofElementChars? ('[' :: d) = some ⟨String.ofList ('[' :: d), referenceWidth⟩ := by
  unfold ofElementChars?
  rw [className?_eq_none_of_ne (by decide)]
  rfl

lemma ofElementChars?_primitive {p : Primitive} (hp : p ∈ primitives) :
    ofElementChars? [p.letter] = some ⟨p.name, p.width⟩ := by
  have hall : ∀ p ∈ primitives, ofElementChars? [p.letter] = some ⟨p.name, p.width⟩ := by decide
  exact hall p hp

/-- What stands behind the outermost bracket is a class name between `L` and a semicolon, begins
with another bracket, or is a primitive letter. -/
lemma forms_of_ofElementChars? (h : ofElementChars? element = some e) :
    (∃ name, element = 'L' :: (name ++ [';']) ∧ e = ⟨String.ofList name, referenceWidth⟩) ∨
      (∃ d, element = '[' :: d ∧ e = ⟨String.ofList ('[' :: d), referenceWidth⟩) ∨
      ∃ p ∈ primitives, element = [p.letter] ∧ e = ⟨p.name, p.width⟩ := by
  unfold ofElementChars? at h
  split at h
  · next name hname => exact .inl ⟨name, className?_eq_some_iff.mp hname, (Option.some.inj h).symm⟩
  · split at h
    · next d _ => exact .inr (.inl ⟨d, rfl, (Option.some.inj h).symm⟩)
    · next letter _ _ =>
      obtain ⟨p, hp, rfl⟩ := Option.map_eq_some_iff.mp h
      have hfound := List.find?_some hp
      have hletter : p.letter = letter := of_decide_eq_true hfound
      exact .inr (.inr ⟨p, List.mem_of_find?_eq_some hp, by rw [hletter], rfl⟩)
    · cases h

lemma exists_cons_of_ofArrayClass? {name : String} (h : ofArrayClass? name = some e) :
    ∃ element, name.toList = '[' :: element ∧ ofElementChars? element = some e := by
  unfold ofArrayClass? at h
  split at h
  · next element hname => exact ⟨element, hname, h⟩
  · cases h

lemma ofArrayClass?_of_cons {name : String} (hname : name.toList = '[' :: element) :
    ofArrayClass? name = ofElementChars? element := by
  unfold ofArrayClass?
  rw [hname]
  rfl

end Reading

lemma Describes.exists_cons {d : List Char} {e : ElementType} (h : Describes d e) :
    ∃ rest, d = '[' :: rest := by
  cases h with
  | innermost h => exact ⟨_, rfl⟩
  | nested h => exact ⟨_, rfl⟩

lemma Innermost.ofElementChars?_eq {text : List Char} {e : ElementType} (h : Innermost text e) :
    ofElementChars? text = some e := by
  cases h with
  | primitive hp => exact ofElementChars?_primitive hp
  | reference hname hclear => exact ofElementChars?_reference _

lemma Misread.not_describes {d : List Char} {e e' : ElementType} (h : Misread d e) :
    ¬Describes d e' := by
  -- The letter behind the bracket tells the forms apart, so only like forms can be confused.
  have hletters : ∀ p ∈ primitives, p.letter ≠ '[' := by decide
  intro hdescribes
  cases h with
  | reference hname =>
    cases hdescribes with
    | innermost h =>
      generalize htext : 'L' :: (_ ++ [';']) = text at h
      cases h with
      | primitive hp => simp at htext
      | reference hne hclear =>
        obtain rfl := List.append_cancel_right (List.cons.inj htext).2
        exact hname.elim hne hclear
    | nested h =>
      obtain ⟨rest, hrest⟩ := h.exists_cons
      cases hrest
  | nested hd =>
    cases hdescribes with
    | innermost h =>
      generalize htext : '[' :: _ = text at h
      cases h with
      | primitive hp => exact hletters _ hp (List.cons.inj htext).1.symm
      | reference => cases htext
    | nested h => exact hd _ h

variable {name : String} {e : ElementType}

lemma Describes.ofArrayClass?_eq (h : Describes name.toList e) : ofArrayClass? name = some e := by
  generalize hname : name.toList = d at h
  cases h with
  | innermost h => exact (ofArrayClass?_of_cons hname).trans h.ofElementChars?_eq
  | nested h =>
    obtain ⟨rest, rfl⟩ := h.exists_cons
    exact (ofArrayClass?_of_cons hname).trans (ofElementChars?_nested rest)

lemma ofArrayClass?_eq_some_iff :
    ofArrayClass? name = some e ↔ Describes name.toList e ∨ Misread name.toList e := by
  constructor
  · intro h
    obtain ⟨element, hname, hread⟩ := exists_cons_of_ofArrayClass? h
    rw [hname]
    obtain ⟨cls, rfl, rfl⟩ | ⟨d, rfl, rfl⟩ | ⟨p, hp, rfl, rfl⟩ := forms_of_ofElementChars? hread
    · by_cases hcls : cls = [] ∨ ';' ∈ cls
      · exact .inr (.reference hcls)
      · rw [not_or] at hcls
        exact .inl (.innermost (.reference hcls.1 hcls.2))
    · by_cases hd : ∃ e, Describes ('[' :: d) e
      · obtain ⟨e, hd⟩ := hd
        exact .inl (.nested hd)
      · exact .inr (.nested (not_exists.mp hd))
    · exact .inl (.innermost (.primitive hp))
  · rintro (h | h)
    · exact h.ofArrayClass?_eq
    · generalize hname : name.toList = d at h
      cases h with
      | reference => exact (ofArrayClass?_of_cons hname).trans (ofElementChars?_reference _)
      | nested => exact (ofArrayClass?_of_cons hname).trans (ofElementChars?_nested _)

/-- An element name with a bracket in front is a well-formed descriptor again, unless it was written
as a class name. -/
lemma Describes.again (h : Describes name.toList e)
    (hbracket : ∃ rest, e.name.toList = '[' :: rest) :
    (∃ e', Describes e.name.toList e') ∨ name.toList = '[' :: 'L' :: (e.name.toList ++ [';']) := by
  generalize name.toList = d at h
  cases h with
  | innermost h =>
    cases h with
    | primitive hp =>
      have hplain : ∀ p ∈ primitives, p.name.toList.head? ≠ some '[' := by decide
      obtain ⟨rest, hrest⟩ := hbracket
      exact absurd (by rw [hrest]; rfl) (hplain _ hp)
    | reference hname hclear => exact .inr (by rw [String.toList_ofList])
  | nested h => exact .inl ⟨_, by rwa [String.toList_ofList]⟩

lemma Describes.exists_peel {d : List Char} (h : Describes d e) :
    ∃ n text base, d = List.replicate (n + 1) '[' ++ text ∧ Innermost text base ∧
      peel n (String.ofList d) = some base := by
  induction h with
  | @innermost text e h =>
    refine ⟨0, text, e, rfl, h, Describes.ofArrayClass?_eq ?_⟩
    rw [String.toList_ofList]
    exact .innermost h
  | @nested d e h ih =>
    obtain ⟨n, text, base, hd, hbase, hpeel⟩ := ih
    refine ⟨n + 1, text, base, ?_, hbase, ?_⟩
    · rw [List.replicate_succ, List.cons_append, ← hd]
    · have hread : ofArrayClass? (String.ofList ('[' :: d)) = some ⟨String.ofList d, _⟩ :=
        Describes.ofArrayClass?_eq (by rw [String.toList_ofList]; exact .nested h)
      rw [peel, hread, Option.bind_some]
      exact hpeel

/-- Reading accepts the well-formed descriptors, as what they describe, and of the other texts only
those whose class name is empty or holds a semicolon or whose further array name is not well formed.
An element of a well-formed descriptor whose name has a bracket in front is read again, unless its
name was written as a class name, and reading a well-formed descriptor once for each bracket ends in
a primitive type or a class. -/
theorem descriptors_read_by_dimension :
    (∀ (name : String) e,
      ofArrayClass? name = some e ↔ Describes name.toList e ∨ Misread name.toList e) ∧
    (∀ d e e', Misread d e → ¬Describes d e') ∧
    (∀ (name : String) e, Describes name.toList e → (∃ rest, e.name.toList = '[' :: rest) →
      (∃ e', ofArrayClass? e.name = some e') ∨
        name.toList = '[' :: 'L' :: (e.name.toList ++ [';'])) ∧
    ∀ (name : String) e, Describes name.toList e → ∃ n text base,
      name.toList = List.replicate (n + 1) '[' ++ text ∧ Innermost text base ∧
        peel n name = some base := by
  refine ⟨fun name e => ofArrayClass?_eq_some_iff, fun d e e' => Misread.not_describes, ?_, ?_⟩
  · intro name e h hbracket
    obtain ⟨e', hagain⟩ | hclass := h.again hbracket
    · exact .inl ⟨e', hagain.ofArrayClass?_eq⟩
    · exact .inr hclass
  · intro name e h
    obtain ⟨n, text, base, hname, hbase, hpeel⟩ := h.exists_peel
    rw [String.ofList_toList] at hpeel
    exact ⟨n, text, base, hname, hbase, hpeel⟩

/-- A further array name is not looked at, so one that is no descriptor is given as the name of the
elements and then not read. An empty class name and one with a semicolon are read too, and a class
name that looks like an array name is given without being one. -/
theorem malformed_descriptors_read :
    (ofArrayClass? "[[Q" = some ⟨"[Q", 8⟩ ∧ (∀ e, ¬Describes "[[Q".toList e) ∧
      ofArrayClass? "[Q" = none) ∧
    (ofArrayClass? "[L;" = some ⟨"", 8⟩ ∧ ∀ e, ¬Describes "[L;".toList e) ∧
    (ofArrayClass? "[La;b;" = some ⟨"a;b", 8⟩ ∧ ∀ e, ¬Describes "[La;b;".toList e) ∧
    Describes "[L[x;".toList ⟨"[x", 8⟩ ∧ ofArrayClass? "[L[x;" = some ⟨"[x", 8⟩ ∧
      ofArrayClass? "[x" = none := by
  have hletter : ofArrayClass? "[Q" = none := by decide
  have hnested : Misread "[[Q".toList ⟨"[Q", 8⟩ := by
    refine @Misread.nested ['Q'] fun e h => ?_
    have hread : ofArrayClass? "[Q" = some e := Describes.ofArrayClass?_eq h
    rw [hletter] at hread
    cases hread
  have hempty : Misread "[L;".toList ⟨"", 8⟩ := @Misread.reference [] (.inl rfl)
  have hsemicolon : Misread "[La;b;".toList ⟨"a;b", 8⟩ :=
    @Misread.reference ['a', ';', 'b'] (.inr (by decide))
  have hbracket : Describes "[L[x;".toList ⟨"[x", 8⟩ :=
    .innermost (@Innermost.reference ['[', 'x'] (by decide) (by decide))
  exact ⟨⟨by decide, fun e => hnested.not_describes, hletter⟩,
    ⟨by decide, fun e => hempty.not_describes⟩, ⟨by decide, fun e => hsemicolon.not_describes⟩,
    hbracket, hbracket.ofArrayClass?_eq, by decide⟩

end NativeBridge.ElementType
