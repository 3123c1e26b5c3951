import Mathlib.Algebra.Order.Ring.Int
import NativeBridge.Class.Builtin
import NativeBridge.Memory.Elements
import NativeBridge.Proofs.BlockWindows
import NativeBridge.Proofs.ElementList

/-!
# Arrays hold lists of elements

An array keeps its elements as bytes, one element after the other, and computes places in machine
words. It nevertheless answers every access as the list of its elements does, and its bytes show
what the list then has. The array and the list are related by layout: the list has as many elements
as the array counts, and the element at a place is what the bytes show at the place times the width.
-/

namespace NativeBridge

section Windows

variable {place width : Nat} {values : List (List UInt8)}

lemma length_flatten_of_width (h : ∀ value ∈ values, value.length = width) :
    values.flatten.length = values.length * width := by
  induction values with
  | nil => simp
  | cons value values ih =>
    obtain ⟨hvalue, hvalues⟩ := List.forall_mem_cons.mp h
    rw [List.flatten_cons, List.length_append, hvalue, ih hvalues, List.length_cons, Nat.succ_mul,
      Nat.add_comm]

lemma take_drop_flatten (h : ∀ value ∈ values, value.length = width)
    (hplace : place < values.length) :
    (values.flatten.drop (place * width)).take width = values[place] := by
  induction values generalizing place with
  | nil => cases hplace
  | cons value values ih =>
    obtain ⟨hvalue, hvalues⟩ := List.forall_mem_cons.mp h
    cases place with
    | zero =>
      rw [List.flatten_cons, Nat.zero_mul, List.drop_zero, List.getElem_cons_zero]
      exact List.take_left' hvalue
    | succ place =>
      have hsucc : (place + 1) * width = value.length + place * width := by
        rw [hvalue, Nat.succ_mul, Nat.add_comm]
      rw [List.flatten_cons, hsucc, List.drop_length_add_append, List.getElem_cons_succ]
      exact ih hvalues (Nat.lt_of_succ_lt_succ hplace)

end Windows

lemma toNat_toUInt64_of_nonneg {x : Int32} (h : 0 ≤ x.toInt) :
    x.toInt64.toUInt64.toNat = x.toInt.toNat := by
  have hlong : 0 ≤ x.toInt64 := by
    rw [Int64.le_iff_toInt_le, Int32.toInt_toInt64]
    exact h
  rw [Int64.toNat_toUInt64_of_le hlong]
  exact congrArg Int.toNat x.toInt_toInt64

lemma toNat_mul_toNat_lt (x y : Int32) : x.toInt.toNat * y.toInt.toNat < 2 ^ 62 := by
  have hproduct : x.toInt.toNat * y.toInt.toNat < 2 ^ 31 * 2 ^ 31 := by
    apply Nat.mul_lt_mul''
    · have := x.toInt_lt
      omega
    · have := y.toInt_lt
      omega
  omega

lemma toNat_mul_toUInt64_of_nonneg {x y : Int32} (hx : 0 ≤ x.toInt) (hy : 0 ≤ y.toInt) :
    (x.toInt64.toUInt64 * y.toInt64.toUInt64).toNat = x.toInt.toNat * y.toInt.toNat := by
  have hproduct := toNat_mul_toNat_lt x y
  rw [UInt64.toNat_mul, toNat_toUInt64_of_nonneg hx, toNat_toUInt64_of_nonneg hy]
  exact Nat.mod_eq_of_lt (by omega)

namespace ArrayObject

/-- Performs an access: what the caller sees of it, and the array it leaves. -/
def perform (a : ArrayObject) (op : ArrayOperation) : AccessOutcome × ArrayObject :=
  match op with
  | .getElement width index =>
    match a.getElement width index with
    | .error r => (.refused r op.buffer, a)
    | .ok element => (.done [element], a)
  | .setElement _ index value =>
    match a.setElement index value.toList with
    | .error r => (.refused r op.buffer, a)
    | .ok a' => (.done [], a')
  | .getRegion width start buffer =>
    match a.getRegion width start buffer.length with
    | .error r => (.refused r op.buffer, a)
    | .ok elements => (.done elements, a)
  | .setRegion width start values =>
    match a.setRegion width start (values.map Vector.toList) with
    | .error r => (.refused r op.buffer, a)
    | .ok a' => (.done [], a')

/-- The offset of the first element accessed, when neither the width nor the place is refused. -/
def locate (a : ArrayObject) (op : ArrayOperation) : Except (Refusal AccessError) UInt64 :=
  match a.checkWidth op.width with
  | .error r => .error r
  | .ok () =>
    match op with
    | .getElement _ index | .setElement _ index _ => a.elementOffset index
    | .getRegion _ start buffer => a.regionOffset start buffer.length
    | .setRegion _ start values => a.regionOffset start values.length

lemma perform_eq (a : ArrayObject) (op : ArrayOperation) :
    a.perform op = match a.locate op with
      | .error r => (.refused r op.buffer, a)
      | .ok offset =>
        match op.written with
        | none => (.done ((List.range op.span).map fun i =>
            a.elements.read (offset.toNat + i * op.width) op.width), a)
        | some values =>
          (.done [], { a with elements := a.elements.write offset.toNat values.flatten }) := by
  -- Each access first checks its width and then its place, and is refused by the first that fails.
  cases op with
  | getElement width index =>
    simp only [perform, getElement, locate, ArrayOperation.width]
    cases a.checkWidth width with
    | error r => rfl
    | ok =>
      cases a.elementOffset index with
      | error r => rfl
      | ok offset => simp [ArrayOperation.written, ArrayOperation.span]
  | setElement width index value =>
    simp only [perform, setElement, locate, ArrayOperation.width, Vector.length_toList]
    cases a.checkWidth width with
    | error r => rfl
    | ok =>
      cases a.elementOffset index with
      | error r => rfl
      | ok offset => simp [ArrayOperation.written]
  | getRegion width start buffer =>
    simp only [perform, getRegion, locate, ArrayOperation.width]
    cases a.checkWidth width with
    | error r => rfl
    | ok => cases a.regionOffset start buffer.length <;> rfl
  | setRegion width start values =>
    simp only [perform, setRegion, locate, ArrayOperation.width, List.length_map]
    cases a.checkWidth width with
    | error r => rfl
    | ok => cases a.regionOffset start values.length <;> rfl

/-- The array holds the elements of the list, and no bytes beyond them. -/
structure Holds (a : ArrayObject) (l : ElementList) : Prop where
  width : a.elementSize.toInt = l.width
  count : a.count.toInt = l.elements.length
  size : a.elements.size = l.elements.length * l.width
  element : ∀ place element, l.elements[place]? = some element →
    a.elements.read (place * l.width) l.width = element

namespace Holds

variable {a : ArrayObject} {l : ElementList} {op : ArrayOperation}

lemma toNat_stride (h : a.Holds l) : a.stride.toNat = l.width := by
  have hwidth := h.width
  unfold stride
  rw [toNat_toUInt64_of_nonneg (by omega)]
  omega

lemma toNat_extent (h : a.Holds l) : a.extent.toNat = l.elements.length := by
  have hcount := h.count
  unfold extent
  rw [toNat_toUInt64_of_nonneg (by omega)]
  omega

lemma toNat_offsetOf (h : a.Holds l) {place : Int32} (hplace : 0 ≤ place.toInt) :
    (a.offsetOf place).toNat = place.toInt.toNat * l.width := by
  have hwidth := h.width
  unfold offsetOf stride
  rw [toNat_mul_toUInt64_of_nonneg hplace (by omega), hwidth, Int.toNat_natCast]

lemma toNat_dataLength (h : a.Holds l) : a.dataLength.toNat = l.elements.length * l.width := by
  have hwidth := h.width
  have hcount := h.count
  unfold dataLength extent stride
  rw [toNat_mul_toUInt64_of_nonneg (by omega) (by omega), hwidth, hcount, Int.toNat_natCast,
    Int.toNat_natCast]

lemma count_eq (h : a.Holds l) : l.count = a.count := by
  have hlength : (l.elements.length : Int) = a.count.toInt := h.count.symm
  unfold ElementList.count
  rw [← Int32.ofInt_eq_ofNat, hlength, Int32.ofInt_toInt]

lemma elementOffset_eq (h : a.Holds l) (index : Int32) :
    a.elementOffset index = if l.Spans index 1 then .ok (a.offsetOf index)
      else .error ⟨.indexOutOfBounds index l.count, [.elementOutOfBounds index l.count]⟩ := by
  have hbounds : (0 ≤ index ∧ index < a.count) ↔ l.Spans index 1 := by
    unfold ElementList.Spans
    rw [Int32.le_iff_toInt_le, Int32.lt_iff_toInt_lt, h.count]
    change 0 ≤ index.toInt ∧ _ ↔ _
    omega
  unfold elementOffset
  rw [h.count_eq]
  exact if_congr hbounds rfl rfl

lemma regionOffset_eq (h : a.Holds l) (start : Int32) (length : Nat) :
    a.regionOffset start length = if l.Spans start length then .ok (a.offsetOf start)
      else .error ⟨.regionOutOfBounds start length l.count,
        [.regionOutOfBounds start length l.count]⟩ := by
  have hbounds : (0 ≤ start ∧ start.toInt.toNat + length ≤ a.extent.toNat) ↔
      l.Spans start length := by
    unfold ElementList.Spans
    rw [Int32.le_iff_toInt_le, h.toNat_extent]
    change 0 ≤ start.toInt ∧ _ ↔ _
    omega
  unfold regionOffset
  rw [h.count_eq]
  exact if_congr hbounds rfl rfl

lemma locate_eq (h : a.Holds l) (op : ArrayOperation) :
    a.locate op =
      if op.width = l.width then
        if l.Spans op.start op.span then .ok (a.offsetOf op.start)
        else .error ⟨op.boundsError l.count, [op.boundsViolation l.count]⟩
      else .error ⟨.elementSizeMismatch l.width op.width, []⟩ := by
  unfold locate checkWidth
  rw [h.toNat_stride]
  by_cases hwidth : op.width = l.width
  · rw [if_pos hwidth, if_pos hwidth]
    cases op with
    | getElement _ index => exact h.elementOffset_eq index
    | setElement _ index value => exact h.elementOffset_eq index
    | getRegion _ start buffer => exact h.regionOffset_eq start buffer.length
    | setRegion _ start values => exact h.regionOffset_eq start values.length
  · rw [if_neg hwidth, if_neg hwidth]

lemma perform_of_width_ne (h : a.Holds l) (hwidth : op.width ≠ l.width) :
    a.perform op = (.refused ⟨.elementSizeMismatch l.width op.width, []⟩ op.buffer, a) := by
  rw [perform_eq, h.locate_eq, if_neg hwidth]

lemma perform_of_not_spans (h : a.Holds l) (hwidth : op.width = l.width)
    (hspans : ¬l.Spans op.start op.span) :
    a.perform op =
      (.refused ⟨op.boundsError l.count, [op.boundsViolation l.count]⟩ op.buffer, a) := by
  rw [perform_eq, h.locate_eq, if_pos hwidth, if_neg hspans]

lemma map_read_eq_select (h : a.Holds l) {start : Int32} {length : Nat}
    (hspans : l.Spans start length) :
    ((List.range length).map fun i =>
      a.elements.read ((a.offsetOf start).toNat + i * l.width) l.width) =
        l.select start.toInt.toNat length := by
  obtain ⟨hstart, hend⟩ := hspans
  rw [h.toNat_offsetOf hstart]
  apply List.ext_getElem
  · simp only [List.length_map, List.length_range, ElementList.select, List.length_take,
      List.length_drop]
    omega
  · intro i hi _
    rw [List.length_map, List.length_range] at hi
    have hplace : start.toInt.toNat + i < l.elements.length := by omega
    have hread := h.element _ _ (List.getElem?_eq_getElem hplace)
    simp only [List.getElem_map, List.getElem_range, ElementList.select, List.getElem_take,
      List.getElem_drop]
    rw [← hread, Nat.add_mul]

lemma perform_of_read (h : a.Holds l) (hwidth : op.width = l.width)
    (hspans : l.Spans op.start op.span) (hwritten : op.written = none) :
    a.perform op = (.done (l.select op.start.toInt.toNat op.span), a) := by
  rw [perform_eq, h.locate_eq, if_pos hwidth, if_pos hspans, hwritten, hwidth,
    ← h.map_read_eq_select hspans]

lemma perform_of_write (h : a.Holds l) {values : List (List UInt8)} (hwidth : op.width = l.width)
    (hspans : l.Spans op.start op.span) (hwritten : op.written = some values) :
    a.perform op = (.done [],
      { a with elements := a.elements.write (op.start.toInt.toNat * l.width) values.flatten }) := by
  rw [perform_eq, h.locate_eq, if_pos hwidth, if_pos hspans, hwritten,
    ← h.toNat_offsetOf hspans.1]

lemma write (h : a.Holds l) {start : Nat} {values : List (List UInt8)}
    (hvalues : ∀ value ∈ values, value.length = l.width)
    (hfit : start + values.length ≤ l.elements.length) :
    Holds { a with elements := a.elements.write (start * l.width) values.flatten }
      (l.replace start values hvalues) := by
  have hlength := ElementList.length_replace (h := hvalues) hfit
  have hflat := length_flatten_of_width hvalues
  have hroom : start * l.width + values.flatten.length ≤ a.elements.size := by
    rw [hflat, h.size, ← Nat.add_mul]
    exact Nat.mul_le_mul_right _ hfit
  refine ⟨h.width, ?_, ?_, ?_⟩
  · rw [hlength]
    exact h.count
  · rw [hlength, Block.size_write]
    exact h.size
  · intro place element helement
    rw [ElementList.getElem?_replace hfit] at helement
    -- Every window either lies within the bytes written or is disjoint from them.
    change (a.elements.write (start * l.width) values.flatten).read (place * l.width) l.width = _
    by_cases hinside : start ≤ place ∧ place < start + values.length
    · rw [if_pos hinside] at helement
      obtain ⟨hplace, hvalue⟩ := List.getElem?_eq_some_iff.mp helement
      have hoffset : place * l.width = start * l.width + (place - start) * l.width := by
        rw [← Nat.add_mul, Nat.add_sub_cancel' hinside.1]
      have hwindow : (place - start) * l.width + l.width ≤ values.flatten.length := by
        rw [hflat, ← Nat.succ_mul]
        exact Nat.mul_le_mul_right _ hplace
      rw [hoffset, Block.read_write_of_inside hroom hwindow, take_drop_flatten hvalues hplace]
      exact hvalue
    · rw [if_neg hinside] at helement
      rw [Block.read_write_of_outside, h.element place element helement]
      rw [hflat, ← Nat.succ_mul, ← Nat.add_mul]
      by_cases hbefore : place < start
      · exact .inl (Nat.mul_le_mul_right _ hbefore)
      · exact .inr (Nat.mul_le_mul_right _ (by omega))

/-- An array and the list it holds give the same answer to an access, and the array then holds the
list that the access leaves. -/
lemma perform (h : a.Holds l) (op : ArrayOperation) :
    (a.perform op).1 = (l.perform op).1 ∧ (a.perform op).2.Holds (l.perform op).2 := by
  by_cases hwidth : op.width = l.width
  · by_cases hspans : l.Spans op.start op.span
    · cases hwritten : op.written with
      | none =>
        rw [h.perform_of_read hwidth hspans hwritten,
          ElementList.perform_of_read hwidth hspans hwritten]
        exact ⟨rfl, h⟩
      | some values =>
        obtain ⟨hvalues, hlist⟩ := ElementList.perform_of_write hwidth hspans hwritten
        rw [h.perform_of_write hwidth hspans hwritten, hlist]
        refine ⟨rfl, h.write hvalues ?_⟩
        rw [ArrayOperation.length_written hwritten]
        obtain ⟨hstart, hend⟩ := hspans
        omega
    · rw [h.perform_of_not_spans hwidth hspans, ElementList.perform_of_not_spans hwidth hspans]
      exact ⟨rfl, h⟩
  · rw [h.perform_of_width_ne hwidth, ElementList.perform_of_width_ne hwidth]
    exact ⟨rfl, h⟩

end Holds

/-- When an access of an array of `count` elements of `width` bytes is refused, and what a refusal
leaves. -/
structure RefusesExactly (a : ArrayObject) (width : Nat) (count : Int32) (op : ArrayOperation) :
    Prop where
  wrongWidth : (a.perform op).1.cause = some (.elementSizeMismatch width op.width) ↔
    op.width ≠ width
  outOfBounds : (a.perform op).1.cause = some (op.boundsError count) ↔
    op.width = width ∧ ¬op.Inside count
  carriedOut : (a.perform op).1.cause = none ↔ op.width = width ∧ op.Inside count
  unchanged : (a.perform op).1.cause ≠ none →
    (a.perform op).2 = a ∧ (a.perform op).1.held = op.buffer
  reports : (a.perform op).1.reports.length =
    if (a.perform op).1.cause = some (op.boundsError count) then 1 else 0

lemma Holds.refusesExactly {a : ArrayObject} {l : ElementList} (h : a.Holds l)
    (op : ArrayOperation) : a.RefusesExactly l.width a.count op := by
  have hinside : op.Inside a.count ↔ l.Spans op.start op.span := by
    unfold ArrayOperation.Inside ElementList.Spans
    rw [h.count]
  by_cases hwidth : op.width = l.width
  · by_cases hspans : l.Spans op.start op.span
    · have hcause : (a.perform op).1.cause = none ∧ (a.perform op).1.reports = [] := by
        cases hwritten : op.written with
        | none =>
          rw [h.perform_of_read hwidth hspans hwritten]
          exact ⟨rfl, rfl⟩
        | some values =>
          rw [h.perform_of_write hwidth hspans hwritten]
          exact ⟨rfl, rfl⟩
      constructor <;> simp [hcause, hwidth, hinside, hspans]
    · constructor <;> rw [h.perform_of_not_spans hwidth hspans, h.count_eq] <;>
        simp [AccessOutcome.refused, hwidth, hinside, hspans]
  · constructor <;> rw [h.perform_of_width_ne hwidth] <;>
      simp [AccessOutcome.refused, hwidth, ArrayOperation.boundsError_ne_elementSizeMismatch.symm]

lemma exists_bufferSize?_eq_some {count elementSize : Int32} (hcount : 0 ≤ count.toInt)
    (hsize : 0 ≤ elementSize.toInt) :
    ∃ size, bufferSize? count elementSize = some size ∧
      size.toNat = count.toInt.toNat * elementSize.toInt.toNat := by
  have hproduct := toNat_mul_toUInt64_of_nonneg hcount hsize
  have hbound := toNat_mul_toNat_lt count elementSize
  have hlargest : largestBuffer.toNat = 2 ^ 63 - 8 := by decide
  refine ⟨_, if_pos ⟨?_, ?_⟩, hproduct⟩
  · rw [toNat_toUInt64_of_nonneg hcount, toNat_toUInt64_of_nonneg hsize]
    unfold UInt64.size
    omega
  · rw [UInt64.le_iff_toNat_le, hproduct, hlargest]
    omega

/-- An array just made: it is of the given classes, has `length` elements of `width` bytes, all
zero, and has a buffer unless it has no bytes. -/
structure IsNew (a : ArrayObject) (arrayClass elementClass : Class) (length width : Int32) :
    Prop where
  cls : a.cls = arrayClass.handle
  elementClass : a.elementClass = elementClass.handle
  count : a.count = length
  elementSize : a.elementSize = width
  elements : a.elements = .zeros (length.toInt.toNat * width.toInt.toNat)
  buffer : a.buffer = .null ↔ length.toInt.toNat * width.toInt.toNat = 0

lemma exists_make?_isNew {arrayClass : Class} (elementClass : Class) {count elementSize : Int32}
    (harray : arrayClass.isArray = true) (hcount : 0 ≤ count.toInt)
    (hsize : 0 < elementSize.toInt) :
    ∃ a, make? arrayClass elementClass count elementSize = .ok a ∧
      a.IsNew arrayClass elementClass count elementSize := by
  have hnonneg : ¬count < 0 := by
    rw [Int32.lt_iff_toInt_lt]
    exact Int.not_lt.mpr hcount
  have hpos : ¬elementSize ≤ 0 := by
    rw [Int32.le_iff_toInt_le]
    exact Int.not_le.mpr hsize
  obtain ⟨size, hbuffer, hproduct⟩ := exists_bufferSize?_eq_some hcount (Int.le_of_lt hsize)
  have hzero : size = 0 ↔ count.toInt.toNat * elementSize.toInt.toNat = 0 := by
    rw [← hproduct, ← UInt64.toNat_inj, UInt64.toNat_zero]
  unfold make?
  rw [harray, Bool.not_true, if_neg Bool.false_ne_true, if_neg hnonneg, if_neg hpos, hbuffer]
  refine ⟨_, rfl, rfl, rfl, rfl, rfl, congrArg Block.zeros hproduct, ?_⟩
  rw [← hzero]
  change (if size = 0 then Handle.null else bufferAddress) = .null ↔ size = 0
  split <;> simp_all [bufferAddress, Handle.null]

lemma IsNew.holds {a : ArrayObject} {arrayClass elementClass : Class} {count elementSize : Int32}
    (h : a.IsNew arrayClass elementClass count elementSize) (hcount : 0 ≤ count.toInt)
    (hsize : 0 < elementSize.toInt) :
    a.Holds (.zeros count.toInt.toNat elementSize.toInt.toNat) := by
  refine ⟨?_, ?_, ?_, ?_⟩
  · rw [h.elementSize]
    exact (Int.toNat_of_nonneg (Int.le_of_lt hsize)).symm
  · change a.count.toInt = ((List.replicate _ _).length : Int)
    rw [h.count, List.length_replicate, Int.toNat_of_nonneg hcount]
  · change _ = (List.replicate _ _).length * _
    rw [h.elements, List.length_replicate]
    rfl
  · intro place element helement
    have hzero : element = List.replicate elementSize.toInt.toNat 0 :=
      List.eq_of_mem_replicate (List.mem_of_getElem? helement)
    rw [hzero, h.elements]
    change (List.range elementSize.toInt.toNat).map (fun _ => (0 : UInt8)) = _
    rw [List.map_const', List.length_range]

/-- An array behaves as a list of its elements, all zero at first, through every sequence of
accesses. It gives the answers of the list and holds what the list then has, an access is refused
for its width before its bounds and for nothing else, and a refusal leaves the array and the
caller's buffer alone. -/
theorem made_refines_elementList (arrayClass elementClass : Class) (count elementSize : Int32)
    (harray : arrayClass.isArray = true) (hcount : 0 ≤ count.toInt)
    (hsize : 0 < elementSize.toInt) :
    let n := count.toInt.toNat
    let w := elementSize.toInt.toNat
    ∃ a, make? arrayClass elementClass count elementSize = .ok a ∧ a.Holds (.zeros n w) ∧
      ∀ ops,
        let array := performAll perform a ops
        let list := performAll ElementList.perform (.zeros n w) ops
        array.1 = list.1 ∧ array.2.Holds list.2 ∧
          list.2.width = w ∧ list.2.elements.length = n ∧
          array.2.elements.size = n * w ∧ array.2.dataLength.toNat = n * w ∧
          ∀ op, array.2.RefusesExactly w count op := by
  intro n w
  obtain ⟨a, hmake, hnew⟩ := exists_make?_isNew elementClass harray hcount hsize
  have hholds := hnew.holds hcount hsize
  refine ⟨a, hmake, hholds, fun ops => ?_⟩
  obtain ⟨hanswers, hafter⟩ := performAll_of_simulation (fun _ _ op h => h.perform op) hholds ops
  -- No access changes the width or the length of the list, so the layout of the array stays too.
  obtain ⟨hsameWidth, hsameLength⟩ := (ElementList.zeros n w).width_and_length_performAll ops
  have hwidth : (performAll ElementList.perform (.zeros n w) ops).2.width = w := hsameWidth
  have hlength : (performAll ElementList.perform (.zeros n w) ops).2.elements.length = n :=
    hsameLength.trans List.length_replicate
  have hcount' : (performAll perform a ops).2.count = count := by
    rw [← Int32.toInt_inj, hafter.count, hlength, Int.toNat_of_nonneg hcount]
  refine ⟨hanswers, hafter, hwidth, hlength, ?_, ?_, ?_⟩
  · rw [hafter.size, hlength, hwidth]
  · rw [hafter.toNat_dataLength, hlength, hwidth]
  · intro op
    rw [← hwidth, ← hcount']
    exact hafter.refusesExactly op

end ArrayObject

namespace Sample

def shortArrayClass : Class := Builtin.bare "" "[S" 32 ⟨0x40⟩

/-- Accesses of each kind, and one for each reason to refuse an access of three elements. -/
def shortAccesses : List ArrayOperation :=
  [.setRegion 2 1 [#v[1, 2], #v[3, 4]], .setElement 2 2 #v[5, 6], .getElement 2 1,
    .getRegion 2 1 [#v[0, 0], #v[0, 0]], .getRegion 2 3 [], .getRegion 2 4 [],
    .getRegion 2 (-1) [#v[7, 7]], .setElement 2 3 #v[8, 8], .getElement 4 3]

end Sample

namespace ArrayObject

theorem short_accesses_answered :
    ∃ a, make? Sample.shortArrayClass Sample.shortArrayClass 3 2 = .ok a ∧
      (performAll perform a Sample.shortAccesses).1 =
        [⟨none, [], []⟩, ⟨none, [], []⟩, ⟨none, [], [[1, 2]]⟩, ⟨none, [], [[1, 2], [5, 6]]⟩,
          ⟨none, [], []⟩,
          ⟨some (.regionOutOfBounds 4 0 3), [.regionOutOfBounds 4 0 3], []⟩,
          ⟨some (.regionOutOfBounds (-1) 1 3), [.regionOutOfBounds (-1) 1 3], [[7, 7]]⟩,
          ⟨some (.indexOutOfBounds 3 3), [.elementOutOfBounds 3 3], []⟩,
          ⟨some (.elementSizeMismatch 2 4), [], []⟩] ∧
      (performAll perform a Sample.shortAccesses).2.Holds
        ⟨2, [[0, 0], [1, 2], [5, 6]], by decide⟩ := by
  obtain ⟨a, hmake, _, hrun⟩ := made_refines_elementList Sample.shortArrayClass
    Sample.shortArrayClass 3 2 (by decide) (by decide) (by decide)
  obtain ⟨hanswers, hholds, _⟩ := hrun Sample.shortAccesses
  exact ⟨a, hmake, hanswers.trans (by decide), hholds⟩

end ArrayObject

end NativeBridge
