import NativeBridge.Proofs.CallGuards

/-!
# Reading past mismatches and past the end

A variable argument list is read by position: the k-th read of a sequence finds the argument that
stands k places behind the first, whatever the reads before it wanted and whether they found it. An
argument of another class is passed over, and past the end there is nothing to pass over. So a call
with ill-typed or missing arguments still reads its parameters one after the other, and enters its
function once with what has been read.
-/

namespace NativeBridge

namespace VarArgs

/-- The list of the arguments of which those in front of the position have been read. -/
def cursorAt (arguments : List Promoted) (position : Nat) : VarArgs :=
  ⟨position, arguments.drop position⟩

def afterReads (a : VarArgs) (classes : List PromotedClass) : VarArgs :=
  classes.foldl (fun a wanted => (a.next wanted).rest) a

/-- The reading that belongs to a position: the argument there if it is of the wanted class, and
otherwise zero with one violation, after which an argument of another class counts as read. -/
structure ReadsAt (arguments : List Promoted) (position : Nat) (wanted : PromotedClass)
    (reading : Reading wanted.Carrier) : Prop where
  fitting : ∀ v, arguments[position]? = some (wanted.wrap v) →
    reading = ⟨v, cursorAt arguments (position + 1), []⟩
  mismatch : ∀ passed, arguments[position]? = some passed → passed.promotedClass ≠ wanted →
    reading = ⟨wanted.zero, cursorAt arguments (position + 1),
      [.argumentClassMismatch wanted (position + 1) passed]⟩
  underflow : arguments[position]? = none →
    reading = ⟨wanted.zero, cursorAt arguments arguments.length,
      [.argumentUnderflow wanted (arguments.length + 1) arguments.length]⟩

lemma as?_wrap (wanted : PromotedClass) (v : wanted.Carrier) :
    (wanted.wrap v).as? wanted = some v := by
  cases wanted <;> rfl

lemma as?_of_ne {wanted : PromotedClass} {passed : Promoted} (h : passed.promotedClass ≠ wanted) :
    passed.as? wanted = none := by
  cases passed <;> cases wanted <;> simp_all [Promoted.as?, Promoted.promotedClass]

lemma count_cursorAt {arguments : List Promoted} {position : Nat}
    (h : position ≤ arguments.length) :
    (cursorAt arguments position).count = arguments.length := by
  simp only [cursorAt, count, List.length_drop]
  omega

lemma next_cursorAt_of_getElem? {arguments : List Promoted} {position : Nat} {passed : Promoted}
    (h : arguments[position]? = some passed) (wanted : PromotedClass) :
    (cursorAt arguments position).next wanted =
      match passed.as? wanted with
      | some v => ⟨v, cursorAt arguments (position + 1), []⟩
      | none => ⟨wanted.zero, cursorAt arguments (position + 1),
          [.argumentClassMismatch wanted (position + 1) passed]⟩ := by
  have hdrop : arguments.drop position = passed :: arguments.drop (position + 1) := by
    obtain ⟨hlt, hget⟩ := List.getElem?_eq_some_iff.mp h
    rw [List.drop_eq_getElem_cons hlt, hget]
  unfold cursorAt
  rw [hdrop]
  cases hfit : passed.as? wanted <;> simp only [next, hfit]

lemma next_cursorAt_length (arguments : List Promoted) (wanted : PromotedClass) :
    (cursorAt arguments arguments.length).next wanted =
      ⟨wanted.zero, cursorAt arguments arguments.length,
        [.argumentUnderflow wanted (arguments.length + 1) arguments.length]⟩ := by
  have hcount := count_cursorAt (le_refl arguments.length)
  simp only [cursorAt, List.drop_length] at hcount ⊢
  simp only [next, hcount]

lemma readsAt_next_cursorAt {arguments : List Promoted} {position : Nat}
    (h : position ≤ arguments.length) (wanted : PromotedClass) :
    ReadsAt arguments position wanted ((cursorAt arguments position).next wanted) := by
  refine ⟨?_, ?_, ?_⟩
  · intro v hget
    rw [next_cursorAt_of_getElem? hget, as?_wrap]
  · intro passed hget hother
    rw [next_cursorAt_of_getElem? hget, as?_of_ne hother]
  · intro hnone
    have hend : arguments.length ≤ position := List.getElem?_eq_none_iff.mp hnone
    obtain rfl : position = arguments.length := by omega
    exact next_cursorAt_length arguments wanted

lemma rest_next_cursorAt {arguments : List Promoted} {position : Nat}
    (h : position ≤ arguments.length) (wanted : PromotedClass) :
    ((cursorAt arguments position).next wanted).rest =
      cursorAt arguments (min (position + 1) arguments.length) := by
  have hreads := readsAt_next_cursorAt h wanted
  cases hget : arguments[position]? with
  | none =>
    have hend : arguments.length ≤ position := List.getElem?_eq_none_iff.mp hget
    rw [hreads.underflow hget, Nat.min_eq_right (by omega)]
  | some passed =>
    have hlt := (List.getElem?_eq_some_iff.mp hget).1
    rw [Nat.min_eq_left (by omega), next_cursorAt_of_getElem? hget]
    cases passed.as? wanted <;> rfl

lemma afterReads_cursorAt {arguments : List Promoted} {position : Nat}
    (h : position ≤ arguments.length) (classes : List PromotedClass) :
    (cursorAt arguments position).afterReads classes =
      cursorAt arguments (min (position + classes.length) arguments.length) := by
  induction classes generalizing position with
  | nil =>
    rw [List.length_nil, Nat.add_zero, Nat.min_eq_left h]
    rfl
  | cons wanted classes ih =>
    have hstep := ih (Nat.min_le_right (position + 1) arguments.length)
    have hsum : min (min (position + 1) arguments.length + classes.length) arguments.length =
        min (position + (classes.length + 1)) arguments.length := by omega
    rw [← rest_next_cursorAt h wanted, hsum] at hstep
    exact hstep

/-- Whatever has been read before, a read is the one of its place in the sequence. -/
lemma readsAt_next_afterReads {arguments : List Promoted} {position : Nat}
    (h : position ≤ arguments.length) (earlier : List PromotedClass) (wanted : PromotedClass) :
    ReadsAt arguments (position + earlier.length) wanted
      (((cursorAt arguments position).afterReads earlier).next wanted) := by
  rw [afterReads_cursorAt h]
  by_cases hlt : position + earlier.length ≤ arguments.length
  · rw [Nat.min_eq_left hlt]
    exact readsAt_next_cursorAt hlt wanted
  · -- The list was exhausted before, so both places lie behind its last argument.
    have hend : arguments[position + earlier.length]? = none :=
      List.getElem?_eq_none (by omega)
    rw [Nat.min_eq_right (by omega)]
    refine ⟨?_, ?_, fun _ => next_cursorAt_length arguments wanted⟩
    · intro v hget
      rw [hend] at hget
      cases hget
    · intro passed hget
      rw [hend] at hget
      cases hget

/-- The reading of the k-th of some parameters, after those of the parameters before it. -/
def readingOf (a : VarArgs) (params : List ParamType) (k : Nat) (p : ParamType) : Reading Value :=
  (a.afterReads ((params.take k).map fun q => q.valueType.promotedClass)).nextValue p.valueType

end VarArgs

section Parameters

variable (params : List ParamType) (a : VarArgs)

lemma arguments_extractVariadic : (extractVariadic params a).arguments =
    params.mapIdx fun k p => (a.readingOf params k p).value := by
  induction params generalizing a with
  | nil => rfl
  | cons p params ih =>
    rw [extractVariadic, List.mapIdx_cons, ih]
    rfl

lemma rest_extractVariadic : (extractVariadic params a).rest =
    a.afterReads (params.map fun p => p.valueType.promotedClass) := by
  induction params generalizing a with
  | nil => rfl
  | cons p params ih =>
    rw [extractVariadic, ih]
    rfl

lemma events_extractVariadic : (extractVariadic params a).events =
    (params.mapIdx fun k p => (a.readingOf params k p).violations.map .violation ++
      p.extractionEvents (a.readingOf params k p).value).flatten := by
  induction params generalizing a with
  | nil => rfl
  | cons p params ih =>
    rw [extractVariadic, List.mapIdx_cons, List.flatten_cons, ih]
    rfl

lemma violationsOf_violations (reports : List Violation) :
    violationsOf (reports.map .violation) = reports := by
  unfold violationsOf
  rw [List.filterMap_map]
  exact List.filterMap_some

lemma violationsOf_extractVariadic : violationsOf (extractVariadic params a).events =
    (params.mapIdx fun k p => (a.readingOf params k p).violations).flatten := by
  induction params generalizing a with
  | nil => rfl
  | cons p params ih =>
    rw [extractVariadic, List.mapIdx_cons, List.flatten_cons, violationsOf_append,
      violationsOf_append, violationsOf_violations, violationsOf_extractionEvents, List.append_nil,
      ih]
    rfl

end Parameters

namespace ManagedMethod

lemma invokeVariadic_eq_bodyRun (env : Environment) (nested : NestedCall) (method : ManagedMethod)
    (frame : CallFrame) (list : VarArgs) (m : Memory) :
    let params := method.function.parameters
    let values := params.mapIdx fun k p => (list.readingOf params k p).value
    method.invokeVariadic env nested frame list m =
      ((method.bodyRun env nested frame m values).map fun v => (v,
        list.afterReads (params.map fun p => p.valueType.promotedClass))).after
        ((extractVariadic params list).events ++
          [.entered (method.function.entry (frame.prelude method.shape) values)]) := by
  intro params values
  have hvalues : (extractVariadic params list).arguments = values :=
    arguments_extractVariadic params list
  have hrest := rest_extractVariadic params list
  simp only [invokeVariadic, enter, bodyRun, Run.after, Run.map, List.append_assoc]
  rw [hvalues, hrest]

/-- Whatever the arguments are and wherever the list stands, its reads stay defined. After any
sequence of reads the position is the number of reads further on, at most at the end, so that the
rest never falls short, and the next read is the one of its place. A call reads for each parameter
the argument of its place, narrowed to the type of the parameter, in the order of the parameters;
then it enters its function exactly once with these values, however many violations the reads have
reported, and these are all that it reports itself. -/
theorem variadicCall_reads_by_position (arguments : List Promoted) (position : Nat)
    (hposition : position ≤ arguments.length) :
    let list := VarArgs.cursorAt arguments position
    (∀ earlier wanted,
      let cursor := list.afterReads earlier
      cursor.consumed = min (position + earlier.length) arguments.length ∧
        cursor.count = arguments.length ∧
        cursor.remaining = arguments.length - position - earlier.length ∧
        VarArgs.ReadsAt arguments (position + earlier.length) wanted (cursor.next wanted)) ∧
    ∀ env nested (method : ManagedMethod) frame m,
      let params := method.function.parameters
      let reading := list.readingOf params
      let values := params.mapIdx fun k p => (reading k p).value
      let entry := method.function.entry (frame.prelude method.shape) values
      let body := method.bodyRun env nested frame m values
      let run := method.invokeVariadic env nested frame list m
      (∀ k p, params[k]? = some p → ∃ r,
        VarArgs.ReadsAt arguments (position + k) p.valueType.promotedClass r ∧
          reading k p = ⟨p.valueType.narrow r.value, r.rest, r.violations⟩) ∧
      run.events = (params.mapIdx fun k p => (reading k p).violations.map .violation ++
        p.extractionEvents (reading k p).value).flatten ++ .entered entry :: body.events ∧
      entriesOf run.events = entry :: entriesOf body.events ∧
      violationsOf run.events =
        (params.mapIdx fun k p => (reading k p).violations).flatten ++ violationsOf body.events ∧
      run.memory = body.memory ∧ run.value.1 = body.value ∧
      run.value.2 =
        VarArgs.cursorAt arguments (min (position + params.length) arguments.length) := by
  intro list
  constructor
  · intro earlier wanted cursor
    have hcursor : cursor = VarArgs.cursorAt arguments (min (position + earlier.length)
        arguments.length) := VarArgs.afterReads_cursorAt hposition earlier
    refine ⟨congrArg VarArgs.consumed hcursor, ?_, ?_, ?_⟩
    · rw [hcursor, VarArgs.count_cursorAt (Nat.min_le_right _ _)]
    · rw [hcursor, VarArgs.remaining, VarArgs.cursorAt, List.length_drop]
      omega
    · exact VarArgs.readsAt_next_afterReads hposition earlier wanted
  · intro env nested method frame m params reading values entry body run
    -- All reads come first; entering the function and its body add their events behind them.
    have hrun : run = (body.map fun v => (v,
        list.afterReads (params.map fun p => p.valueType.promotedClass))).after
        ((extractVariadic params list).events ++ [.entered entry]) :=
      method.invokeVariadic_eq_bodyRun env nested frame list m
    have hevents : run.events =
        (extractVariadic params list).events ++ .entered entry :: body.events := by
      rw [hrun, Run.after, List.append_assoc]
      rfl
    refine ⟨?_, ?_, ?_, ?_, ?_, ?_, ?_⟩
    · intro k p hp
      have hk : ((params.take k).map fun q => q.valueType.promotedClass).length = k := by
        have hlt := (List.getElem?_eq_some_iff.mp hp).1
        rw [List.length_map, List.length_take]
        omega
      have hreads := VarArgs.readsAt_next_afterReads hposition
        ((params.take k).map fun q => q.valueType.promotedClass) p.valueType.promotedClass
      rw [hk] at hreads
      exact ⟨_, hreads, rfl⟩
    · rw [hevents, events_extractVariadic]
    · rw [hevents, entriesOf_append, entriesOf_extractVariadic]
      rfl
    · rw [hevents, violationsOf_append, violationsOf_extractVariadic]
      rfl
    · rw [hrun]
      rfl
    · rw [hrun]
      rfl
    · have hrest : run.value.2 =
          list.afterReads (params.map fun p => p.valueType.promotedClass) := by rw [hrun]; rfl
      rw [hrest, VarArgs.afterReads_cursorAt hposition, List.length_map]

/-- A probe that is passed an `int` for its `char`, a `long` for its `double` and nothing for its
`int`, by a list of which one argument has been read. -/
theorem variadicCall_of_probe_defined :
    let arguments : List Promoted := [.pointer ⟨7⟩, .int 70000, .long 3]
    let method : ManagedMethod := ⟨"probe", "(CDI)J", .static,
      Probe.make .static "CDR>J" [.char, .double, .observed] (some .long)⟩
    let run := method.invokeVariadic (Environment.ofTable ClassRegistry.empty.toTable [])
      Environment.refuseNested ⟨.null, .null, ⟨9⟩⟩ (VarArgs.cursorAt arguments 1) (.empty .standard)
    1 ≤ arguments.length ∧
      entriesOf run.events = [⟨"CDR>J", .null, none, some ⟨9⟩,
        [(.char, .char 4464), (.double, .double ⟨0⟩), (.observed, .int 0)]⟩] ∧
      violationsOf run.events =
        [.argumentClassMismatch .double 3 (.long 3), .argumentUnderflow .int 4 3] ∧
      run.value.2.remaining = 0 := by
  intro arguments method run
  have hposition : 1 ≤ arguments.length := by decide
  obtain ⟨-, hcalls⟩ := variadicCall_reads_by_position arguments 1 hposition
  obtain ⟨-, -, hentries, hviolations, -, -, hrest⟩ := hcalls
    (Environment.ofTable ClassRegistry.empty.toTable []) Environment.refuseNested method
    ⟨.null, .null, ⟨9⟩⟩ (.empty .standard)
  refine ⟨hposition, hentries.trans (by decide), hviolations.trans (by decide), ?_⟩
  exact congrArg VarArgs.remaining hrest

end ManagedMethod

end NativeBridge
