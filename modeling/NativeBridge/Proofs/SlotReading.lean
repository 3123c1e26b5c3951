import NativeBridge.Proofs.CallGuards
import NativeBridge.Proofs.SlotBytes

/-!
# Reading packed slots

A slot is read at a type that need not be the one it was written at. The read takes the low bytes of
the slot, as many as its type is wide, and these are the low bytes of the value that was packed,
with zeros above where the value is narrower. At the value's own type the read gives the value back,
and so a cursor gives back any list of values, one slot after the other.
-/

namespace NativeBridge

namespace LittleEndian

lemma encode_mod (width n : Nat) : encode width (n % Nat.pow 256 width) = encode width n := by
  have hbytes := encode_decode (encode width n)
  rw [length_encode, decode_encode] at hbytes
  exact hbytes

lemma take_encode {narrow wide : Nat} (h : narrow ≤ wide) (n : Nat) :
    (encode wide n).take narrow = encode narrow n := by
  have hwide : narrow + (wide - narrow) = wide := Nat.add_sub_of_le h
  rw [← hwide, encode_add]
  exact List.take_left' (length_encode narrow n)

end LittleEndian

namespace ValueType

lemma type_ofSlot (t : ValueType) (s : Slot) : (t.ofSlot s).type = t := by
  rw [ofSlot_eq_ofBits, type_ofBits]

theorem bytes_ofSlot (t : ValueType) (s : Slot) : (t.ofSlot s).bytes = s.bytes.take t.width := by
  rw [Value.bytes, type_ofSlot, ofSlot_eq_ofBits, bits_ofBits, LittleEndian.encode_mod, Slot.bytes,
    LittleEndian.take_encode t.width_le]

end ValueType

namespace Value

lemma ofBytes_bytes (v : Value) : v.type.ofBytes v.bytes = v := by
  have hbits : LittleEndian.decode v.bytes = v.bits := by
    rw [bytes, LittleEndian.decode_encode]
    exact Nat.mod_eq_of_lt v.bits_lt
  rw [ValueType.ofBytes, hbits, ofBits_bits]

lemma eq_iff_type_bytes {v w : Value} : v = w ↔ v.type = w.type ∧ v.bytes = w.bytes := by
  constructor
  · rintro rfl
    exact ⟨rfl, rfl⟩
  · rintro ⟨htype, hbytes⟩
    rw [← v.ofBytes_bytes, ← w.ofBytes_bytes, htype, hbytes]

lemma getElem?_bytes_toSlot (v : Value) {place : Nat} (hwidth : v.type.width ≤ place)
    (hplace : place < 8) : v.toSlot.bytes[place]? = some 0 := by
  have hbeyond : place - v.type.width < 8 - v.type.width := by omega
  rw [bytes_toSlot, List.getElem?_append_right (by rwa [length_bytes]), length_bytes,
    List.getElem?_replicate, if_pos hbeyond]

end Value

lemma ParamType.ofSlot_toSlot {p : ParamType} {v : Value} (h : p.valueType = v.type) :
    p.ofSlot v.toSlot = v := by
  rw [ofSlot, h, Value.ofSlot_toSlot]

lemma readSlots_toSlot {params : List ParamType} {values : List Value}
    (h : List.Forall₂ (fun p v => p.valueType = v.type) params values) (behind : List Slot) :
    readSlots params (values.map Value.toSlot ++ behind) = some (values, behind) := by
  induction h with
  | nil => rfl
  | cons htype _ ih =>
    rw [List.map_cons, List.cons_append, readSlots, ih, Option.map_some,
      ParamType.ofSlot_toSlot htype]

lemma readSlots_take_toSlot {params : List ParamType} {values : List Value}
    (h : List.Forall₂ (fun p v => p.valueType = v.type) params values) (behind : List Slot)
    (count : Nat) :
    readSlots (params.take count) (values.map Value.toSlot ++ behind) =
      some (values.take count, (values.drop count).map Value.toSlot ++ behind) := by
  have hsplit : values.map Value.toSlot ++ behind = (values.take count).map Value.toSlot ++
      ((values.drop count).map Value.toSlot ++ behind) := by
    rw [← List.append_assoc, ← List.map_append, List.take_append_drop]
  rw [hsplit, readSlots_toSlot (List.forall₂_take count h)]

lemma extractPacked_of_readSlots {params : List ParamType} {slots behind : List Slot}
    {arguments : List Value} (hlength : params.length ≤ slots.length)
    (h : readSlots params slots = some (arguments, behind)) :
    extractPacked params slots = arguments := by
  rw [readSlots_of_length_le hlength] at h
  exact congrArg Prod.fst (Option.some.inj h)

/-- A slot read at the type of a parameter is the value with the low bytes of the value packed into
it. At its own type it is that value, and what lies beyond the value is zero. Any list of values is
read back from its slots, one slot for each read. -/
theorem slots_read_low_bytes :
    (∀ (p : ParamType) (v w : Value), w = p.ofSlot v.toSlot ↔ w.type = p.valueType ∧
      w.bytes = (v.bytes ++ List.replicate (8 - v.type.width) 0).take p.valueType.width) ∧
    (∀ (p : ParamType) (v : Value), p.valueType = v.type → p.ofSlot v.toSlot = v) ∧
    (∀ (v : Value) (place : Nat), v.type.width ≤ place → place < 8 →
      v.toSlot.bytes[place]? = some 0) ∧
    ∀ (params : List ParamType) (values : List Value) (behind : List Slot),
      List.Forall₂ (fun p v => p.valueType = v.type) params values →
      extractPacked params (values.map Value.toSlot ++ behind) = values ∧
      ∀ count, readSlots (params.take count) (values.map Value.toSlot ++ behind) =
        some (values.take count, (values.drop count).map Value.toSlot ++ behind) := by
  refine ⟨?_, fun p v h => ParamType.ofSlot_toSlot h,
    fun v place hwidth hplace => v.getElem?_bytes_toSlot hwidth hplace, ?_⟩
  · intro p v w
    rw [Value.eq_iff_type_bytes, ParamType.ofSlot, ValueType.type_ofSlot, ValueType.bytes_ofSlot,
      Value.bytes_toSlot]
  · intro params values behind htypes
    have hlength : params.length ≤ (values.map Value.toSlot ++ behind).length := by
      rw [List.length_append, List.length_map, htypes.length_eq]
      exact Nat.le_add_right _ _
    exact ⟨extractPacked_of_readSlots hlength (readSlots_toSlot htypes behind),
      readSlots_take_toSlot htypes behind⟩

theorem mixed_slots_read :
    ParamType.long.ofSlot (Value.int (-2)).toSlot = .long 4294967294 ∧
      ParamType.byte.ofSlot (Value.short (-129)).toSlot = .byte 127 ∧
      ParamType.float.ofSlot (Value.float ⟨0x7f800001⟩).toSlot = .float ⟨0x7f800001⟩ ∧
      (Value.char 0xfffe).toSlot.bytes[2]? = some 0 ∧
      let values := [.short (-2), .float ⟨0x7f800001⟩, .object ⟨0xdead⟩, .boolean 2]
      extractPacked [.short, .float, .string, .boolean] (values.map Value.toSlot) = values ∧
      readSlots [.short, .float] (values.map Value.toSlot) =
        some ([.short (-2), .float ⟨0x7f800001⟩],
          [(Value.object ⟨0xdead⟩).toSlot, (Value.boolean 2).toSlot]) := by
  obtain ⟨hlow, hown, hbeyond, hlist⟩ := slots_read_low_bytes
  refine ⟨((hlow .long (.int (-2)) _).mpr (by decide)).symm,
    ((hlow .byte (.short (-129)) _).mpr (by decide)).symm, hown .float _ rfl,
    hbeyond (.char 0xfffe) 2 (by decide) (by decide), ?_⟩
  intro values
  have htypes : List.Forall₂ (fun (p : ParamType) v => p.valueType = v.type)
      [.short, .float, .string, .boolean] values :=
    .cons rfl (.cons rfl (.cons rfl (.cons rfl .nil)))
  obtain ⟨hentered, hread⟩ := hlist _ values [] htypes
  exact ⟨hentered, hread 2⟩

end NativeBridge
