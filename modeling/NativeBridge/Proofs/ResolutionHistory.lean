import NativeBridge.Proofs.ResolutionOutcome

/-!
# The history behind a linkage

Resolutions end one after the other, those that a lookup starts before the one that looks up. This
file lists them in that order and relates the linkage to the list: a name is resolved when a
resolution of it has succeeded, a native method is bound when a resolution that succeeded found it,
and nothing is bound twice. Every resolution keeps this relation, whatever its lookups start.
-/

namespace NativeBridge

/-- Every class of the table is the one that lives at its address. -/
def ClassTable.Within (t : ClassTable) (heap : Handle → Option Class) : Prop :=
  ∀ cls ∈ t.classes, heap cls.handle = some cls

lemma ClassTable.Within.get? {t : ClassTable} {heap : Handle → Option Class} (ht : t.Within heap)
    {classpath classname : String} {cls : Class} (h : t.get? classpath classname = some cls) :
    heap cls.handle = some cls := by
  obtain ⟨position, _, hget⟩ := Option.bind_eq_some_iff.mp h
  exact ht cls (List.mem_of_getElem? hget)

structure EndedResolution where
  table : ClassTable
  interface : ModuleInterface
  result : Except ResolveError ResolveReport

namespace EndedResolution

def Succeeded (e : EndedResolution) : Prop := ∃ report, e.result = .ok report

/-- The resolution found this address for the native method. -/
def Located (e : EndedResolution) (id : NativeId) (address : CodeAddress) : Prop :=
  ∃ d ∈ e.table.nativesOf e.interface.name, d.id = id ∧ e.interface.nativeAddress? d = some address

end EndedResolution

mutual

/-- The resolutions of an attempt in the order they end. -/
def Attempt.ended (t : ClassTable) : Attempt → List EndedResolution
  | .mk i result _ nested => Attempt.endedAll t nested ++ [⟨t, i, result⟩]

def Attempt.endedAll (t : ClassTable) : List Attempt → List EndedResolution
  | [] => []
  | attempt :: attempts => attempt.ended t ++ Attempt.endedAll t attempts

end

lemma Attempt.endedAll_append (t : ClassTable) (attempts attempts' : List Attempt) :
    Attempt.endedAll t (attempts ++ attempts') =
      Attempt.endedAll t attempts ++ Attempt.endedAll t attempts' := by
  induction attempts with
  | nil => rfl
  | cons attempt attempts ih =>
    rw [List.cons_append, Attempt.endedAll, ih, Attempt.endedAll, List.append_assoc]

lemma Attempt.mem_ended (t : ClassTable) (attempt : Attempt) :
    ⟨t, attempt.interface, attempt.result⟩ ∈ attempt.ended t := by
  obtain ⟨i, result, lookups, nested⟩ := attempt
  exact List.mem_append_right _ (List.mem_singleton.mpr rfl)

lemma ClassTable.Within.eq_of_id_eq {heap : Handle → Option Class} {t t' : ClassTable}
    {name name' : String} {d d' : DeclaredNative} (ht : t.Within heap) (ht' : t'.Within heap)
    (hd : d ∈ t.nativesOf name) (hd' : d' ∈ t'.nativesOf name') (hid : d.id = d'.id) : d = d' := by
  obtain ⟨hcls, hdeclared, _⟩ := ClassTable.mem_nativesOf.mp hd
  obtain ⟨hcls', hdeclared', _⟩ := ClassTable.mem_nativesOf.mp hd'
  obtain ⟨howner, hget⟩ := Class.mem_declaredNatives.mp hdeclared
  obtain ⟨howner', hget'⟩ := Class.mem_declaredNatives.mp hdeclared'
  have hhandle : d.cls.handle = d'.cls.handle := by
    rw [← howner, ← howner', hid]
  have hsame : d.cls = d'.cls := by
    have hheap := ht d.cls hcls
    rw [hhandle, ht' d'.cls hcls'] at hheap
    exact Option.some.inj hheap.symm
  have hmethod : d.method = d'.method := by
    rw [hsame, hid, hget'] at hget
    exact Option.some.inj hget.symm
  cases d
  cases d'
  obtain rfl := hsame
  obtain rfl := hid
  obtain rfl := hmethod
  rfl

lemma ClassTable.Within.nativesDistinct {heap : Handle → Option Class} {t : ClassTable}
    (ht : t.Within heap) (moduleName : String) : t.NativesDistinct moduleName :=
  fun _ hd _ hd' hid => ht.eq_of_id_eq ht hd' hd hid

lemma Linkage.isResolved_iff {l : Linkage} {name : String} :
    l.isResolved name = true ↔ ∃ mapping, l.ledger name = some (.resolved mapping) := by
  unfold isResolved
  cases hstate : l.ledger name with
  | none => simp
  | some state =>
    cases state with
    | resolving => simp
    | resolved mapping => simp

/-- The linkage is what the ended resolutions have made of it, while resolutions of the running
names are still going on. -/
structure Linkage.LinkedBy (heap : Handle → Option Class) (running : String → Prop)
    (history : List EndedResolution) (l : Linkage) : Prop where
  tables : ∀ e ∈ history, e.table.Within heap
  /-- A resolution is refused its name, or ends as its module and table demand. -/
  results : ∀ e ∈ history, e.result = .error (.alreadyResolved e.interface.name) ∨
    e.result = e.interface.outcome e.table
  resolving_iff : ∀ name, l.ledger name = some .resolving ↔ running name
  resolved_iff : ∀ name, l.isResolved name = true ↔
    ∃ e ∈ history, e.Succeeded ∧ e.interface.name = name
  /-- After a success the name is refused. -/
  refused : history.Pairwise fun earlier later => earlier.Succeeded →
    later.interface.name = earlier.interface.name →
      later.result = .error (.alreadyResolved earlier.interface.name)
  natives_iff : ∀ id address, l.natives id = some address ↔
    ∃ e ∈ history, e.Succeeded ∧ e.Located id address

namespace Linkage.LinkedBy

variable {heap : Handle → Option Class} {running : String → Prop}
  {history : List EndedResolution} {l : Linkage}

lemma not_succeeded_of_resolving (h : l.LinkedBy heap running history) {name : String}
    (hstate : l.ledger name = some .resolving) :
    ∀ e ∈ history, e.Succeeded → e.interface.name ≠ name := by
  intro e he hsucceeded hname
  obtain ⟨mapping, hresolved⟩ :=
    Linkage.isResolved_iff.mp ((h.resolved_iff name).mpr ⟨e, he, hsucceeded, hname⟩)
  rw [hstate] at hresolved
  cases hresolved

lemma append_failed (h : l.LinkedBy heap running history) {e : EndedResolution}
    {error : ResolveError} (htable : e.table.Within heap) (herror : e.result = .error error)
    (hresult : e.result = .error (.alreadyResolved e.interface.name) ∨
      e.result = e.interface.outcome e.table)
    (hrefused : ∀ e' ∈ history, e'.Succeeded → e'.interface.name = e.interface.name →
      e.result = .error (.alreadyResolved e.interface.name)) :
    l.LinkedBy heap running (history ++ [e]) := by
  have hfailed : ¬e.Succeeded := by
    rintro ⟨report, hok⟩
    rw [herror] at hok
    cases hok
  -- Everything the invariant says of a history is about its successes, and there is no new one.
  have hsame : ∀ P : EndedResolution → Prop,
      (∃ e' ∈ history ++ [e], e'.Succeeded ∧ P e') ↔ ∃ e' ∈ history, e'.Succeeded ∧ P e' := by
    intro P
    constructor
    · rintro ⟨e', he', hsucceeded, hP⟩
      obtain he' | he' := List.mem_append.mp he'
      · exact ⟨e', he', hsucceeded, hP⟩
      · obtain rfl := List.mem_singleton.mp he'
        exact absurd hsucceeded hfailed
    · rintro ⟨e', he', hrest⟩
      exact ⟨e', List.mem_append_left _ he', hrest⟩
  refine ⟨?_, ?_, h.resolving_iff, ?_, ?_, ?_⟩
  · exact List.forall_mem_append.mpr ⟨h.tables, List.forall_mem_singleton.mpr htable⟩
  · exact List.forall_mem_append.mpr ⟨h.results, List.forall_mem_singleton.mpr hresult⟩
  · intro name
    rw [h.resolved_iff, hsame]
  · refine List.pairwise_append.mpr ⟨h.refused, List.pairwise_singleton _ _, ?_⟩
    intro e' he' later hlater hsucceeded hname
    obtain rfl := List.mem_singleton.mp hlater
    rw [← hname]
    exact hrefused e' he' hsucceeded hname.symm
  · intro id address
    rw [h.natives_iff, hsame]

/-- The entry of a name that is not resolved can be replaced by another one that is not, if the
names that run are changed with it. -/
lemma mark {running' : String → Prop} {name : String} {state : Option ModuleState}
    (h : l.LinkedBy heap running history)
    (hold : ∀ mapping, l.ledger name ≠ some (.resolved mapping))
    (hnew : ∀ mapping, state ≠ some (.resolved mapping))
    (hname : state = some .resolving ↔ running' name)
    (hother : ∀ n, n ≠ name → (running' n ↔ running n)) :
    (l.mark name state).LinkedBy heap running' history := by
  refine ⟨h.tables, h.results, ?_, ?_, h.refused, h.natives_iff⟩
  · intro n
    by_cases hn : n = name
    · simp [hn, hname]
    · simp [hn, h.resolving_iff, hother n hn]
  · intro n
    rw [← h.resolved_iff, Linkage.isResolved_iff, Linkage.isResolved_iff]
    by_cases hn : n = name
    · simp [hn, hold, hnew]
    · simp [hn]

lemma claim (h : l.LinkedBy heap running history) {name : String} (hfree : l.ledger name = none) :
    (l.mark name (some .resolving)).LinkedBy heap (fun n => n = name ∨ running n) history := by
  apply h.mark
  · simp [hfree]
  · simp
  · simp
  · intro n hn
    simp [hn]

lemma release {name : String} (h : l.LinkedBy heap (fun n => n = name ∨ running n) history)
    (hname : ¬running name) : (l.mark name none).LinkedBy heap running history := by
  have hstate : l.ledger name = some .resolving := (h.resolving_iff name).mpr (.inl rfl)
  apply h.mark
  · simp [hstate]
  · simp
  · simp [hname]
  · intro n hn
    simp [hn]

/-- Binding a module extends the history by a success: the names and the native methods of the
module were free. -/
lemma bind {t : ClassTable} {i : ModuleInterface} {report : ResolveReport}
    (h : l.LinkedBy heap (fun n => n = i.name ∨ running n) history) (ht : t.Within heap)
    (hname : ¬running i.name) (hok : i.outcome t = .ok report) :
    ((l.carryOut i (i.plan t)).mark i.name (some (.resolved i.mapping))).LinkedBy heap running
      (history ++ [⟨t, i, .ok report⟩]) := by
  have hstate : l.ledger i.name = some .resolving := (h.resolving_iff i.name).mpr (.inl rfl)
  have hnew := h.not_succeeded_of_resolving hstate
  obtain ⟨hlocated, _⟩ := ModuleInterface.located_of_outcome_eq_ok hok
  refine ⟨?_, ?_, ?_, ?_, ?_, ?_⟩
  · exact List.forall_mem_append.mpr ⟨h.tables, List.forall_mem_singleton.mpr ht⟩
  · exact List.forall_mem_append.mpr ⟨h.results, List.forall_mem_singleton.mpr (.inr hok.symm)⟩
  · intro n
    by_cases hn : n = i.name
    · simp [hn, hname]
    · simp [hn, h.resolving_iff]
  · intro n
    rw [Linkage.isResolved_iff]
    by_cases hn : n = i.name
    · subst hn
      simp [EndedResolution.Succeeded]
    · have hold := h.resolved_iff n
      rw [Linkage.isResolved_iff] at hold
      simp [hn, hold, or_and_right, exists_or, Ne.symm hn]
  · refine List.pairwise_append.mpr ⟨h.refused, List.pairwise_singleton _ _, ?_⟩
    intro e he later hlater hsucceeded hsame
    obtain rfl := List.mem_singleton.mp hlater
    exact absurd hsame.symm (hnew e he hsucceeded)
  · intro id address
    rw [Linkage.natives_mark]
    have hsplit : (∃ e ∈ history ++ [⟨t, i, .ok report⟩], e.Succeeded ∧ e.Located id address) ↔
        (∃ e ∈ history, e.Succeeded ∧ e.Located id address) ∨
          ∃ d ∈ t.nativesOf i.name, d.id = id ∧ i.nativeAddress? d = some address := by
      simp [or_and_right, exists_or, EndedResolution.Succeeded, EndedResolution.Located]
    rw [hsplit, l.natives_carryOut_eq_some_iff hlocated (ht.nativesDistinct i.name), h.natives_iff]
    constructor
    · rintro (hmine | ⟨_, hold⟩)
      · exact .inr hmine
      · exact .inl hold
    · rintro (hold | hmine)
      · -- an earlier success with the native method would have had the name of this module
        refine .inr ⟨?_, hold⟩
        intro d hd hid
        obtain ⟨e, he, hsucceeded, d', hd', hid', _⟩ := hold
        obtain rfl := (h.tables e he).eq_of_id_eq ht hd' hd (hid'.trans hid.symm)
        have hname' := (ClassTable.mem_nativesOf.mp hd').2.2
        have hname'' := (ClassTable.mem_nativesOf.mp hd).2.2
        exact absurd (hname'.symm.trans hname'') (hnew e he hsucceeded)
      · exact .inl hmine

lemma refuse {t : ClassTable} (h : l.LinkedBy heap running history) (ht : t.Within heap)
    (i : ModuleInterface) :
    l.LinkedBy heap running (history ++ [⟨t, i, .error (.alreadyResolved i.name)⟩]) :=
  h.append_failed ht rfl (.inl rfl) fun _ _ _ _ => rfl

lemma finish {t : ClassTable} {i : ModuleInterface}
    (h : l.LinkedBy heap (fun n => n = i.name ∨ running n) history) (ht : t.Within heap)
    (hidle : ¬running i.name) :
    (finishResolution t i l).linkage.LinkedBy heap running (history ++ [⟨t, i, i.outcome t⟩]) := by
  cases hresult : i.outcome t with
  | ok report =>
    rw [linkage_finishResolution_of_ok hresult]
    exact h.bind ht hidle hresult
  | error error =>
    rw [linkage_finishResolution_of_error hresult]
    have hresolving := (h.resolving_iff i.name).mpr (.inl rfl)
    have hnew := h.not_succeeded_of_resolving hresolving
    refine (h.release hidle).append_failed ht rfl (.inr hresult.symm) ?_
    intro e he hsucceeded hname
    exact absurd hname (hnew e he hsucceeded)

lemma not_running_of_free (h : l.LinkedBy heap running history) {name : String}
    (hfree : l.ledger name = none) : ¬running name := by
  intro hrunning
  rw [(h.resolving_iff name).mpr hrunning] at hfree
  cases hfree

end Linkage.LinkedBy

section Preservation

variable {heap : Handle → Option Class} {t : ClassTable}

/-- What the lookups start keeps the linkage in step with the history. -/
def LookupHook.Keeps (heap : Handle → Option Class) (t : ClassTable) (hook : LookupHook) : Prop :=
  ∀ running history l k, Linkage.LinkedBy heap running history l →
    (hook k l).linkage.LinkedBy heap running (history ++ Attempt.endedAll t (hook k l).value)

lemma LookupHook.Keeps.runAll {hook : LookupHook} (hhook : hook.Keeps heap t)
    {running : String → Prop} {history : List EndedResolution} {l : Linkage} (lookups : List Nat)
    (h : l.LinkedBy heap running history) :
    (hook.runAll lookups l).linkage.LinkedBy heap running
      (history ++ Attempt.endedAll t (hook.runAll lookups l).value) := by
  induction lookups generalizing history l with
  | nil =>
    change l.LinkedBy heap running (history ++ [])
    rw [List.append_nil]
    exact h
  | cons k ks ih =>
    have hfirst := hhook running history l k h
    have hothers := ih hfirst
    rw [List.append_assoc, ← Attempt.endedAll_append] at hothers
    exact hothers

lemma LookupHook.Keeps.resolveWith {hook : LookupHook} (hhook : hook.Keeps heap t)
    (ht : t.Within heap) {i : ModuleInterface} {running : String → Prop}
    {history : List EndedResolution} {l : Linkage} (h : l.LinkedBy heap running history) :
    (NativeBridge.resolveWith t i hook l).linkage.LinkedBy heap running
      (history ++ (NativeBridge.resolveWith t i hook l).value.ended t) := by
  cases hstate : l.ledger i.name with
  | some state =>
    obtain ⟨hvalue, hlinkage⟩ := resolveWith_of_claimed t hook hstate
    rw [hvalue, hlinkage]
    exact h.refuse ht i
  | none =>
    obtain ⟨hvalue, hlinkage⟩ := resolveWith_of_free t hook hstate
    have hduring := hhook.runAll (List.range (i.lookups t).length) (h.claim hstate)
    rw [hvalue, hlinkage, Attempt.ended, ← List.append_assoc]
    exact hduring.finish ht (h.not_running_of_free hstate)

end Preservation

mutual

/-- Resolving a module keeps the linkage in step with the history. -/
theorem ForeignModule.resolve_keeps {heap : Handle → Option Class} {t : ClassTable}
    (ht : t.Within heap) : ∀ (module : ForeignModule) {running : String → Prop}
      {history : List EndedResolution} {l : Linkage}, l.LinkedBy heap running history →
      (module.resolve t l).linkage.LinkedBy heap running
        (history ++ (module.resolve t l).value.ended t)
  | .mk i reentry, running, history, l, h => by
    rw [ForeignModule.resolve]
    exact (reentry.hook_keeps ht).resolveWith ht h

theorem Reentry.hook_keeps {heap : Handle → Option Class} {t : ClassTable}
    (ht : t.Within heap) : ∀ reentry : Reentry, LookupHook.Keeps heap t (reentry.hook t)
  | .none => by
    intro running history l k h
    rw [Reentry.hook]
    change l.LinkedBy heap running (history ++ [])
    rw [List.append_nil]
    exact h
  | .also lookup module rest => by
    intro running history l k h
    rw [Reentry.hook]
    by_cases hlookup : lookup = k
    · rw [if_pos hlookup]
      have hfirst := module.resolve_keeps ht h
      have hothers := rest.hook_keeps ht running _ _ k hfirst
      rw [List.append_assoc] at hothers
      exact hothers
    · rw [if_neg hlookup]
      exact rest.hook_keeps ht running history l k h

end

end NativeBridge
