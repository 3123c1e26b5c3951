import Mathlib.Tactic.Common
import NativeBridge.Memory.Error
import NativeBridge.Violation

/-!
# Lists of elements

To its users an array is a list of elements of one width that never changes its length. An access
states a width and a place. The width comes first: one that is not the width of the list is
refused, wherever the place is. A place that leaves the list is refused next, with a report. What
remains reads the elements at the place or puts others there.
-/

namespace NativeBridge

/-- An access to the elements of an array. A region is read into a buffer of the caller, which has
its length and holds elements of the accessed width. -/
inductive ArrayOperation where
  | getElement (width : Nat) (index : Int32)
  | setElement (width : Nat) (index : Int32) (value : Vector UInt8 width)
  | getRegion (width : Nat) (start : Int32) (buffer : List (Vector UInt8 width))
  | setRegion (width : Nat) (start : Int32) (values : List (Vector UInt8 width))

namespace ArrayOperation

def width : ArrayOperation → Nat
  | getElement width _ | setElement width .. | getRegion width .. | setRegion width .. => width

def start : ArrayOperation → Int32
  | getElement _ index | setElement _ index _ => index
  | getRegion _ start _ | setRegion _ start _ => start

def span : ArrayOperation → Nat
  | getElement .. | setElement .. => 1
  | getRegion _ _ buffer => buffer.length
  | setRegion _ _ values => values.length

def written : ArrayOperation → Option (List (List UInt8))
  | getElement .. | getRegion .. => none
  | setElement _ _ value => some [value.toList]
  | setRegion _ _ values => some (values.map Vector.toList)

/-- What the caller's buffer holds before the access. -/
def buffer : ArrayOperation → List (List UInt8)
  | getRegion _ _ buffer => buffer.map Vector.toList
  | getElement .. | setElement .. | setRegion .. => []

def boundsError (count : Int32) : ArrayOperation → AccessError
  | getElement _ index | setElement _ index _ => .indexOutOfBounds index count
  | getRegion _ start buffer => .regionOutOfBounds start buffer.length count
  | setRegion _ start values => .regionOutOfBounds start values.length count

def boundsViolation (count : Int32) : ArrayOperation → Violation
  | getElement _ index | setElement _ index _ => .elementOutOfBounds index count
  | getRegion _ start buffer => .regionOutOfBounds start buffer.length count
  | setRegion _ start values => .regionOutOfBounds start values.length count

/-- The elements accessed lie among `count` elements. An empty region may begin right after the last
of them. -/
def Inside (op : ArrayOperation) (count : Int32) : Prop :=
  0 ≤ op.start.toInt ∧ op.start.toInt + op.span ≤ count.toInt

variable {op : ArrayOperation}

lemma length_of_mem_written {values : List (List UInt8)} (h : op.written = some values) :
    ∀ element ∈ values, element.length = op.width := by
  intro element hmem
  cases op with
  | getElement => cases h
  | getRegion => cases h
  | setElement width index value =>
    cases h
    obtain rfl := List.mem_singleton.mp hmem
    exact value.length_toList
  | setRegion width start vectors =>
    cases h
    obtain ⟨value, _, rfl⟩ := List.mem_map.mp hmem
    exact value.length_toList

lemma length_written {values : List (List UInt8)} (h : op.written = some values) :
    values.length = op.span := by
  cases op with
  | getElement => cases h
  | getRegion => cases h
  | setElement => cases h; rfl
  | setRegion => cases h; exact List.length_map _

@[simp] lemma boundsError_ne_elementSizeMismatch {count : Int32} {expected actual : Nat} :
    op.boundsError count ≠ .elementSizeMismatch expected actual := by
  cases op <;> exact AccessError.noConfusion

end ArrayOperation

structure AccessOutcome where
  /-- Why it was refused, if it was. -/
  cause : Option AccessError
  reports : List Violation
  /-- The elements that the caller holds afterwards: the one read, or those in the buffer. -/
  held : List (List UInt8)
deriving DecidableEq

namespace AccessOutcome

def done (held : List (List UInt8)) : AccessOutcome := ⟨none, [], held⟩

def refused (refusal : Refusal AccessError) (held : List (List UInt8)) : AccessOutcome :=
  ⟨some refusal.cause, refusal.reports, held⟩

end AccessOutcome

/-- Elements that are all `width` bytes wide. -/
structure ElementList where
  width : Nat
  elements : List (List UInt8)
  length_of_mem : ∀ element ∈ elements, element.length = width
deriving DecidableEq

namespace ElementList

def zeros (count width : Nat) : ElementList where
  width := width
  elements := List.replicate count (List.replicate width 0)
  length_of_mem element hmem := by
    obtain ⟨_, rfl⟩ := List.mem_replicate.mp hmem
    exact List.length_replicate

def count (l : ElementList) : Int32 := Int32.ofNat l.elements.length

/-- The `length` places from `start` on are places of the list. An empty region may begin right
after the last element. -/
def Spans (l : ElementList) (start : Int32) (length : Nat) : Prop :=
  0 ≤ start.toInt ∧ start.toInt + length ≤ l.elements.length

instance (l : ElementList) (start : Int32) (length : Nat) : Decidable (l.Spans start length) :=
  inferInstanceAs (Decidable (_ ∧ _))

/-- The `length` elements from `start` on. -/
def select (l : ElementList) (start length : Nat) : List (List UInt8) :=
  (l.elements.drop start).take length

/-- The list with the elements from `start` on replaced, as many as there are new ones. -/
def replace (l : ElementList) (start : Nat) (values : List (List UInt8))
    (h : ∀ element ∈ values, element.length = l.width) : ElementList where
  width := l.width
  elements := l.elements.take start ++ values ++ l.elements.drop (start + values.length)
  length_of_mem element hmem := by
    rw [List.mem_append, List.mem_append] at hmem
    obtain (hbefore | hvalue) | hafter := hmem
    · exact l.length_of_mem element (List.mem_of_mem_take hbefore)
    · exact h element hvalue
    · exact l.length_of_mem element (List.mem_of_mem_drop hafter)

/-- Performs an access: what it answers, and the list it leaves. -/
def perform (l : ElementList) (op : ArrayOperation) : AccessOutcome × ElementList :=
  if hwidth : op.width = l.width then
    if l.Spans op.start op.span then
      let start := op.start.toInt.toNat
      match hwritten : op.written with
      | none => (.done (l.select start op.span), l)
      | some values =>
        (.done [], l.replace start values fun element hmem =>
          (ArrayOperation.length_of_mem_written hwritten element hmem).trans hwidth)
    else (.refused ⟨op.boundsError l.count, [op.boundsViolation l.count]⟩ op.buffer, l)
  else (.refused ⟨.elementSizeMismatch l.width op.width, []⟩ op.buffer, l)

variable {l : ElementList} {op : ArrayOperation}

lemma perform_of_width_ne (hwidth : op.width ≠ l.width) :
    l.perform op = (.refused ⟨.elementSizeMismatch l.width op.width, []⟩ op.buffer, l) :=
  dif_neg hwidth

lemma perform_of_not_spans (hwidth : op.width = l.width) (hspans : ¬l.Spans op.start op.span) :
    l.perform op =
      (.refused ⟨op.boundsError l.count, [op.boundsViolation l.count]⟩ op.buffer, l) := by
  unfold perform
  rw [dif_pos hwidth, if_neg hspans]

lemma perform_of_read (hwidth : op.width = l.width) (hspans : l.Spans op.start op.span)
    (hwritten : op.written = none) :
    l.perform op = (.done (l.select op.start.toInt.toNat op.span), l) := by
  unfold perform
  rw [dif_pos hwidth, if_pos hspans]
  split
  · rfl
  · next hvalues => cases hwritten.symm.trans hvalues

lemma perform_of_write {values : List (List UInt8)} (hwidth : op.width = l.width)
    (hspans : l.Spans op.start op.span) (hwritten : op.written = some values) :
    ∃ h, l.perform op = (.done [], l.replace op.start.toInt.toNat values h) := by
  have hvalues : ∀ element ∈ values, element.length = l.width := fun element hmem =>
    (ArrayOperation.length_of_mem_written hwritten element hmem).trans hwidth
  refine ⟨hvalues, ?_⟩
  unfold perform
  rw [dif_pos hwidth, if_pos hspans]
  split
  · next hnone => cases hwritten.symm.trans hnone
  · next values' hsome =>
    obtain rfl : values' = values := Option.some.inj (hsome.symm.trans hwritten)
    rfl

section Replace

variable {start : Nat} {values : List (List UInt8)}
  {h : ∀ element ∈ values, element.length = l.width}

lemma length_replace (hfit : start + values.length ≤ l.elements.length) :
    (l.replace start values h).elements.length = l.elements.length := by
  unfold replace
  simp only [List.length_append, List.length_take, List.length_drop]
  omega

lemma getElem?_replace (hfit : start + values.length ≤ l.elements.length) (place : Nat) :
    (l.replace start values h).elements[place]? =
      if start ≤ place ∧ place < start + values.length then values[place - start]?
      else l.elements[place]? := by
  unfold replace
  have htake : (l.elements.take start).length = start := List.length_take_of_le (by omega)
  simp only
  by_cases hbefore : place < start
  · rw [if_neg (by omega), List.append_assoc, List.getElem?_append_left (by omega),
      List.getElem?_take_of_lt hbefore]
  · by_cases hinside : place < start + values.length
    · rw [if_pos ⟨by omega, hinside⟩, List.append_assoc, List.getElem?_append_right (by omega),
        htake, List.getElem?_append_left (by omega)]
    · have hlength : (l.elements.take start ++ values).length = start + values.length := by
        rw [List.length_append, htake]
      rw [if_neg (by omega), List.getElem?_append_right (by omega), hlength, List.getElem?_drop]
      congr 1
      omega

end Replace

lemma width_and_length_perform (l : ElementList) (op : ArrayOperation) :
    (l.perform op).2.width = l.width ∧
      (l.perform op).2.elements.length = l.elements.length := by
  by_cases hwidth : op.width = l.width
  · by_cases hspans : l.Spans op.start op.span
    · cases hwritten : op.written with
      | none =>
        rw [perform_of_read hwidth hspans hwritten]
        exact ⟨rfl, rfl⟩
      | some values =>
        obtain ⟨hvalues, hperform⟩ := perform_of_write hwidth hspans hwritten
        rw [hperform]
        refine ⟨rfl, length_replace (h := hvalues) ?_⟩
        rw [ArrayOperation.length_written hwritten]
        obtain ⟨hstart, hend⟩ := hspans
        omega
    · rw [perform_of_not_spans hwidth hspans]
      exact ⟨rfl, rfl⟩
  · rw [perform_of_width_ne hwidth]
    exact ⟨rfl, rfl⟩

end ElementList

section Runs

variable {σ τ α β : Type}

/-- Performs operations one after the other: what each answers, and the state they leave. -/
def performAll (perform : σ → α → β × σ) : σ → List α → List β × σ
  | s, [] => ([], s)
  | s, op :: ops =>
    let (answer, s') := perform s op
    let (answers, last) := performAll perform s' ops
    (answer :: answers, last)

/-- Related states answer a sequence of operations alike when they answer each operation alike and
are related again after it. -/
lemma performAll_of_simulation {f : σ → α → β × σ} {g : τ → α → β × τ} {related : σ → τ → Prop}
    (hstep : ∀ s t op, related s t → (f s op).1 = (g t op).1 ∧ related (f s op).2 (g t op).2)
    {s : σ} {t : τ} (h : related s t) (ops : List α) :
    (performAll f s ops).1 = (performAll g t ops).1 ∧
      related (performAll f s ops).2 (performAll g t ops).2 := by
  induction ops generalizing s t with
  | nil => exact ⟨rfl, h⟩
  | cons op ops ih =>
    obtain ⟨hanswer, hrelated⟩ := hstep s t op h
    obtain ⟨hanswers, hlast⟩ := ih hrelated
    exact ⟨congrArg₂ List.cons hanswer hanswers, hlast⟩

end Runs

lemma ElementList.width_and_length_performAll (l : ElementList) (ops : List ArrayOperation) :
    (performAll perform l ops).2.width = l.width ∧
      (performAll perform l ops).2.elements.length = l.elements.length := by
  induction ops generalizing l with
  | nil => exact ⟨rfl, rfl⟩
  | cons op ops ih =>
    obtain ⟨hwidth, hlength⟩ := l.width_and_length_perform op
    obtain ⟨hwidths, hlengths⟩ := ih (l.perform op).2
    exact ⟨hwidths.trans hwidth, hlengths.trans hlength⟩

end NativeBridge
