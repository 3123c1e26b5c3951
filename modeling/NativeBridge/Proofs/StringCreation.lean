import NativeBridge.Proofs.LossyDecoding
import NativeBridge.Proofs.MethodReach
import NativeBridge.Proofs.UnitCount

/-!
# Strings made from texts

A new string owns the UTF-8 bytes of a text, ended by a NUL byte, so the text must hold no NUL of
its own. What is stored is then read back whole: no byte before the end is zero, no piece of the
bytes is broken, and the units counted are those of the text, one for each character and one more
for each character outside the basic plane.
-/

namespace NativeBridge

namespace Utf8

variable {text : List Char}

lemma Spells.high_of_le {bytes : List UInt8} {n : Nat} (h : Spells bytes n) (hn : 0x7f < n) :
    ∀ byte ∈ bytes, 0x80 ≤ byte.toNat := by
  cases h with
  | one ha => omega
  | two ha hb =>
    rw [isContinuation_iff] at hb
    simpa [hb.1] using Nat.le_trans (by decide) ha.1
  | three ha hb hc =>
    rw [fitsThreeByteLead_iff] at hb
    rw [isContinuation_iff] at hc
    simpa [hb.1.1, hc.1] using Nat.le_trans (by decide) ha.1
  | four ha hb hc hd =>
    rw [fitsFourByteLead_iff] at hb
    rw [isContinuation_iff] at hc hd
    simpa [hb.1.1, hc.1, hd.1] using Nat.le_trans (by decide) ha.1

lemma Spells.zero_mem_iff {bytes : List UInt8} {n : Nat} (h : Spells bytes n) :
    0 ∈ bytes ↔ n = 0 := by
  by_cases hn : n ≤ 0x7f
  · have hbyte : (UInt8.ofNat n).toNat = n := Nat.mod_eq_of_lt (by omega)
    rw [← h.encodeNat_eq, encodeNat, if_pos hn, List.mem_singleton, eq_comm, ← UInt8.toNat_inj,
      hbyte]
    rfl
  · refine iff_of_false (fun hzero => ?_) (by omega)
    exact absurd (h.high_of_le (by omega) 0 hzero) (by decide)

lemma zero_mem_encode_iff : 0 ∈ encode text ↔ '\x00' ∈ text := by
  have hchar : ∀ c : Char, 0 ∈ String.utf8EncodeChar c ↔ c = '\x00' := by
    intro c
    rw [(spells_encodeChar c).zero_mem_iff, ← Char.toNat_inj]
    rfl
  unfold encode
  simp only [List.mem_flatMap, hchar, exists_eq_right]

lemma encode_append (text text' : List Char) :
    encode (text ++ text') = encode text ++ encode text' :=
  List.flatMap_append

lemma findIdx?_encode_of_notMem (h : '\x00' ∉ text) : (encode text).findIdx? (· = 0) = none := by
  rw [List.findIdx?_eq_none_iff]
  intro byte hbyte
  rw [decide_eq_false_iff_not]
  rintro rfl
  exact h (zero_mem_encode_iff.mp hbyte)

lemma findIdx?_encode_of_mem (h : '\x00' ∈ text) : (encode text).findIdx? (· = 0) =
    some (encode (text.takeWhile (· ≠ '\x00'))).length := by
  obtain ⟨front, rest, rfl, hfront⟩ := List.eq_append_cons_of_mem h
  have htake : (front ++ '\x00' :: rest).takeWhile (· ≠ '\x00') = front := by
    rw [List.takeWhile_append_of_pos, List.takeWhile_cons_of_neg (by decide), List.append_nil]
    intro c hc
    rw [decide_eq_true_eq]
    rintro rfl
    exact hfront hc
  have hnul : encode ('\x00' :: rest) = 0 :: encode rest := rfl
  rw [htake, encode_append, hnul, List.findIdx?_append,
    findIdx?_encode_of_notMem hfront, List.findIdx?_cons]
  simp

end Utf8

namespace Utf16

lemma length_units (text : List Char) :
    (units text).length = text.length + text.countP (0xffff < ·.toNat) := by
  induction text with
  | nil => rfl
  | cons c text ih =>
    rw [units_cons, List.length_append, length_unitsOfChar, ih, List.length_cons, List.countP_cons]
    simp only [decide_eq_true_eq]
    split <;> split <;> omega

lemma toInt_length_units {text : List Char} (hsize : (units text).length < 2 ^ 31) :
    (Int32.ofNat (units text).length).toInt =
      text.length + text.countP (0xffff < ·.toNat) := by
  rw [Int32.toInt_ofNat_of_lt hsize, length_units, Int.natCast_add]

end Utf16

namespace StringObject

variable {c : Class} {text : List Char}

lemma ofText?_of_nul (hc : accepts c = true) (h : '\x00' ∈ text) : ofText? c text =
    .error (.interiorNul (Utf8.encode (text.takeWhile (· ≠ '\x00'))).length) := by
  simp only [ofText?, checkClass, hc, if_true, Utf8.findIdx?_encode_of_mem h]

lemma ofText?_of_clear (hc : accepts c = true) (h : '\x00' ∉ text) : ofText? c text =
    .ok ⟨c.handle, bufferAddress, bufferAddress, UInt64.ofNat ((Utf8.encode text).length + 1),
      Utf8.encode text⟩ := by
  simp only [ofText?, checkClass, hc, if_true, Utf8.findIdx?_encode_of_notMem h]

lemma units_encode (text : List Char) : units (Utf8.encode text) = Utf16.units text := by
  rw [units, Utf8.decodeLossy_encode]

end StringObject

lemma Builtin.StringQuestion.answer_length_encode (text : List Char) :
    StringQuestion.length.answer (Utf8.encode text) =
      .int (Int32.ofNat (Utf16.units text).length) := by
  rw [answer, StringObject.units_encode]

namespace Environment

open Builtin

variable {env : Environment} {c : Class}

lemma newString_of_get? (hc : env.table.get? stringClasspath stringClassname = some c)
    (text : List Char) :
    env.newString text = (StringObject.ofText? c text).mapError .object := by
  simp only [newString, hc]

lemma accepts_of_builtin (hbuiltin : c = stringClass c.handle) :
    StringObject.accepts c = true := by
  rw [hbuiltin]
  rfl

lemma stringAt?_of_within (hwithin : env.table.Within env.classAt?)
    (hc : env.table.get? stringClasspath stringClassname = some c)
    (haccepts : StringObject.accepts c = true) {s : StringObject} (hs : s.cls = c.handle)
    {m : Memory} {object : Handle} (hlive : m.instance? object = some (.string s)) :
    env.stringAt? m object = some s := by
  have hclass : env.classOf? m object = some c := by
    unfold classOf?
    rw [hlive, Option.bind_some, Instance.classHandle, hs]
    exact hwithin.get? hc
  exact stringAt?_of_live hclass haccepts hlive

lemma exists_call_by_key (hwithin : env.table.Within env.classAt?)
    (hc : env.table.get? "java/lang" "String" = some c) (hbuiltin : c = stringClass c.handle)
    (q : StringQuestion) {m : Memory} {object : Handle} {s : StringObject}
    (h : env.stringAt? m object = some s) :
    ∃ id method, env.table.findMethod?
        ⟨"java/lang", "String", q.method.name, q.method.signature⟩ = some (id, method) ∧
      (env.call ⟨.virtual object, some id, .packed []⟩ m).value.result =
        .ok (some (q.answer s.bytes)) := by
  have hfind : ∃ id, env.table.findMethod?
      ⟨"java/lang", "String", q.method.name, q.method.signature⟩ = some (id, q.method) := by
    unfold ClassTable.findMethod?
    rw [hc, hbuiltin]
    cases q <;> exact ⟨_, rfl⟩
  obtain ⟨id, hid⟩ := hfind
  exact ⟨id, q.method, hid, q.call_of_string (methodAt?_of_findMethod? hwithin hid) h⟩

/-- A string is made of every text without NUL, and any other text is refused at the first one. -/
theorem newString_preserves_text (env : Environment) (hwithin : env.table.Within env.classAt?)
    (c : Class) (hc : env.table.get? "java/lang" "String" = some c)
    (hbuiltin : c = stringClass c.handle) (text : List Char)
    (hsize : (Utf16.units text).length < 2 ^ 31) :
    ((∃ s, env.newString text = .ok s) ↔ '\x00' ∉ text) ∧
    ('\x00' ∈ text → env.newString text = .error (.object (.interiorNul
      (Utf8.encode (text.takeWhile (· ≠ '\x00'))).length))) ∧
    ∀ s, env.newString text = .ok s →
      s.cls = c.handle ∧ s.owned = true ∧ s.bytes = Utf8.encode text ∧ 0 ∉ s.bytes ∧
      ∀ m object, m.instance? object = some (.string s) →
        ∃ n : Int32, n.toInt = text.length + text.countP (0xffff < ·.toNat) ∧
          env.getStringLength m object = (n, []) ∧
          StringQuestion.length.Answers env m object (.int n) ∧
          ∃ id method, env.table.findMethod? ⟨"java/lang", "String", "length", "()I"⟩ =
              some (id, method) ∧
            (env.call ⟨.virtual object, some id, .packed []⟩ m).value.result =
              .ok (some (.int n)) := by
  have haccepts := accepts_of_builtin hbuiltin
  have hnew := newString_of_get? hc text
  by_cases hnul : '\x00' ∈ text
  · rw [StringObject.ofText?_of_nul haccepts hnul] at hnew
    have hfails : ∀ s, env.newString text ≠ .ok s := by
      intro s hs
      cases hnew.symm.trans hs
    exact ⟨⟨fun ⟨s, hs⟩ => absurd hs (hfails s), fun hclear => absurd hnul hclear⟩,
      fun _ => hnew, fun s hs => absurd hs (hfails s)⟩
  · rw [StringObject.ofText?_of_clear haccepts hnul] at hnew
    refine ⟨⟨fun _ => hnul, fun _ => ⟨_, hnew⟩⟩, fun h => absurd h hnul, ?_⟩
    intro s hs
    obtain rfl := Except.ok.inj (hnew.symm.trans hs)
    refine ⟨rfl, rfl, rfl, mt Utf8.zero_mem_encode_iff.mp hnul, ?_⟩
    intro m object hlive
    have htext := stringAt?_of_within hwithin hc haccepts rfl hlive
    have hcall := exists_call_by_key hwithin hc hbuiltin .length htext
    rw [StringQuestion.answer_length_encode] at hcall
    refine ⟨_, Utf16.toInt_length_units hsize, ?_, ?_, hcall⟩
    · rw [getStringLength_of_stringAt? htext, StringObject.utf16Length, StringObject.units_encode]
    · rw [StringQuestion.answers_iff_of_string htext, StringQuestion.answer_length_encode]

lemma within_wordEnvironment :
    Sample.wordEnvironment.table.Within Sample.wordEnvironment.classAt? := by
  intro c hc
  have hc : c ∈ [stringClass ⟨0x40⟩, primitiveClass Sample.intType ⟨0x48⟩,
      primitiveArrayClass Sample.intType ⟨0x50⟩] := hc
  simp only [List.mem_cons, List.not_mem_nil, or_false] at hc
  obtain rfl | rfl | rfl := hc <;> rfl

theorem accented_text_preserved :
    let env := Sample.wordEnvironment
    let text := ['é', '𝄞', 'a']
    env.table.Within env.classAt? ∧
      env.table.get? "java/lang" "String" = some (stringClass ⟨0x40⟩) ∧
      (Utf16.units text).length < 2 ^ 31 ∧
      ∃ s, env.newString text = .ok s ∧ s.bytes = [0xc3, 0xa9, 0xf0, 0x9d, 0x84, 0x9e, 0x61] ∧
        ∃ n : Int32, n.toInt = 4 ∧
          env.getStringLength (Sample.wordMemory.write ⟨0x700⟩ (.string s)) ⟨0x700⟩ = (n, []) := by
  intro env text
  have hwithin : env.table.Within env.classAt? := within_wordEnvironment
  have hsize : (Utf16.units text).length < 2 ^ 31 := by decide
  have hstring : env.table.get? "java/lang" "String" = some (stringClass ⟨0x40⟩) := rfl
  obtain ⟨hmade, _, hkept⟩ := newString_preserves_text env hwithin _ hstring rfl text hsize
  obtain ⟨s, hs⟩ := hmade.mpr (by decide)
  obtain ⟨_, _, hbytes, _, hread⟩ := hkept s hs
  obtain ⟨n, hn, hlength, _⟩ := hread (Sample.wordMemory.write ⟨0x700⟩ (.string s)) ⟨0x700⟩ rfl
  exact ⟨hwithin, hstring, hsize, s, hs, hbytes.trans (by decide), n, hn.trans (by decide), hlength⟩

end Environment

end NativeBridge
