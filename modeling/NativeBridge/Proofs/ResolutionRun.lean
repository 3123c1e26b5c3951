import NativeBridge.Proofs.NestedResolution
import NativeBridge.Proofs.ResolutionHistory

/-!
# Runs of resolutions

A process resolves modules one after the other, each against some table. Over a whole run a name is
resolved at most once, a failed resolution does not count, and a native method is bound by the one
resolution of its module that succeeded, for good.
-/

namespace NativeBridge

/-- A module to be resolved and the table to resolve it against. -/
structure ResolutionCall where
  table : ClassTable
  module : ForeignModule

namespace ResolutionCall

def name (c : ResolutionCall) : String := c.module.interface.name

/-- What the call does to a linkage, attempt by attempt. -/
def attempt (c : ResolutionCall) (l : Linkage) : Attempt := (c.module.resolve c.table l).value

def after (c : ResolutionCall) (l : Linkage) : Linkage := (c.module.resolve c.table l).linkage

end ResolutionCall

def linkageAfter (calls : List ResolutionCall) (l : Linkage) : Linkage :=
  calls.foldl (fun l c => c.after l) l

/-- The resolutions of calls, nested ones included, in the order they end. -/
def historyOf : List ResolutionCall → Linkage → List EndedResolution
  | [], _ => []
  | c :: calls, l => (c.attempt l).ended c.table ++ historyOf calls (c.after l)

lemma historyOf_append (calls calls' : List ResolutionCall) (l : Linkage) :
    historyOf (calls ++ calls') l =
      historyOf calls l ++ historyOf calls' (linkageAfter calls l) := by
  induction calls generalizing l with
  | nil => rfl
  | cons c calls ih =>
    rw [List.cons_append, historyOf, ih, historyOf, List.append_assoc]
    rfl

lemma ForeignModule.resolve_eq_resolveWith (t : ClassTable) (module : ForeignModule) :
    ∃ hook, ∀ l, module.resolve t l = resolveWith t module.interface hook l := by
  obtain ⟨i, reentry⟩ := module
  refine ⟨reentry.hook t, ?_⟩
  intro l
  rw [resolve, interface]

namespace ResolutionCall

variable (c : ResolutionCall) {l : Linkage}

lemma refused {state : ModuleState} (h : l.ledger c.name = some state) :
    (c.attempt l).result = .error (.alreadyResolved c.name) ∧ (c.attempt l).nested = [] ∧
      c.after l = l := by
  obtain ⟨hook, hresolve⟩ := c.module.resolve_eq_resolveWith c.table
  obtain ⟨hvalue, hlinkage⟩ := resolveWith_of_claimed c.table hook h
  unfold attempt after
  rw [hresolve, hvalue]
  exact ⟨rfl, rfl, hlinkage⟩

lemma result_of_free (h : l.ledger c.name = none) :
    (c.attempt l).result = c.module.interface.outcome c.table := by
  obtain ⟨hook, hresolve⟩ := c.module.resolve_eq_resolveWith c.table
  unfold attempt
  rw [hresolve, result_resolveWith]
  exact if_pos h

lemma ledger_after_of_unresolved {missing : List Miss}
    (h : (c.attempt l).result = .error (.unresolved c.name missing)) :
    (c.after l).ledger c.name = none := by
  cases hstate : l.ledger c.name with
  | some state =>
    rw [(c.refused hstate).1] at h
    cases h
  | none =>
    rw [c.result_of_free hstate] at h
    obtain ⟨hook, hresolve⟩ := c.module.resolve_eq_resolveWith c.table
    unfold after
    rw [hresolve, (resolveWith_of_free c.table hook hstate).2,
      linkage_finishResolution_of_error h]
    exact if_pos rfl

end ResolutionCall

lemma linkageAfter_append (calls calls' : List ResolutionCall) (l : Linkage) :
    linkageAfter (calls ++ calls') l = linkageAfter calls' (linkageAfter calls l) :=
  List.foldl_append

lemma linkageAfter_of_claimed {calls : List ResolutionCall} {name : String} {l : Linkage}
    {state : ModuleState} (hcalls : ∀ c ∈ calls, c.name = name) (h : l.ledger name = some state) :
    linkageAfter calls l = l := by
  induction calls with
  | nil => rfl
  | cons c calls ih =>
    obtain ⟨hc, hcalls⟩ := List.forall_mem_cons.mp hcalls
    change linkageAfter calls (c.after l) = l
    rw [(c.refused (hc ▸ h)).2.2]
    exact ih hcalls

lemma linkageAfter_of_failed {calls : List ResolutionCall} {l : Linkage}
    (hplain : ∀ c ∈ calls, ∃ i, c.module = .mk i .none)
    (hfailed : ∀ e ∈ historyOf calls l, ¬e.Succeeded) : linkageAfter calls l = l := by
  induction calls with
  | nil => rfl
  | cons c calls ih =>
    obtain ⟨⟨i, hi⟩, hplain⟩ := List.forall_mem_cons.mp hplain
    obtain ⟨hfirst, hothers⟩ := List.forall_mem_append.mp hfailed
    have hafter : c.after l = l := by
      cases hresult : (c.attempt l).result with
      | ok report => exact absurd ⟨report, hresult⟩ (hfirst _ ((c.attempt l).mem_ended c.table))
      | error e =>
        unfold ResolutionCall.after
        unfold ResolutionCall.attempt at hresult
        rw [hi] at hresult ⊢
        exact ForeignModule.linkage_resolve_of_plain_error hresult
    rw [hafter] at hothers
    change linkageAfter calls (c.after l) = l
    rw [hafter]
    exact ih hplain hothers

section Runs

variable {heap : Handle → Option Class}

/-- A run keeps the linkage in step with its history. -/
theorem linkedBy_historyOf {calls : List ResolutionCall} {history : List EndedResolution}
    {l : Linkage} (hheap : ∀ c ∈ calls, c.table.Within heap)
    (h : l.LinkedBy heap (fun _ => False) history) :
    (linkageAfter calls l).LinkedBy heap (fun _ => False) (history ++ historyOf calls l) := by
  induction calls generalizing history l with
  | nil =>
    rw [historyOf, List.append_nil]
    exact h
  | cons c calls ih =>
    obtain ⟨hc, hcalls⟩ := List.forall_mem_cons.mp hheap
    have hfirst := c.module.resolve_keeps hc h
    have hothers := ih hcalls hfirst
    rw [List.append_assoc] at hothers
    exact hothers

lemma linkedBy_nil (imports : ImportSlot → Option MethodId) :
    Linkage.LinkedBy heap (fun _ => False) [] { Linkage.empty with imports := imports } := by
  refine ⟨?_, ?_, ?_, ?_, List.Pairwise.nil, ?_⟩
  · exact List.forall_mem_nil _
  · exact List.forall_mem_nil _
  · intro name
    simp [Linkage.empty]
  · intro name
    simp [Linkage.isResolved, Linkage.empty]
  · intro id address
    simp [Linkage.empty]

namespace Linkage.LinkedBy

variable {history : List EndedResolution} {l : Linkage}

lemma ledger_eq_none_iff (h : l.LinkedBy heap (fun _ => False) history) {name : String} :
    l.ledger name = none ↔ ¬∃ e ∈ history, e.Succeeded ∧ e.interface.name = name := by
  rw [← h.resolved_iff name, Linkage.isResolved_iff]
  cases hstate : l.ledger name with
  | none => simp
  | some state =>
    cases state with
    | resolving => exact absurd ((h.resolving_iff name).mp hstate) id
    | resolved mapping => simp

lemma pairwise_succeeded {running : String → Prop} (h : l.LinkedBy heap running history) :
    history.Pairwise fun e e' =>
      e.Succeeded → e'.Succeeded → e.interface.name ≠ e'.interface.name := by
  refine h.refused.imp ?_
  intro e e' hrefused hsucceeded hsucceeded' hname
  obtain ⟨report, hok⟩ := hsucceeded'
  rw [hrefused hsucceeded hname.symm] at hok
  cases hok

lemma natives_of_succeeded {running : String → Prop} (h : l.LinkedBy heap running history)
    {e : EndedResolution} (he : e ∈ history) (hsucceeded : e.Succeeded) {cls : Class} {index : Nat}
    {native : NativeMethod} (hget : cls.natives[index]? = some native)
    (hname : e.interface.name = native.moduleName) (hcls : cls ∈ e.table.classes) :
    ∃ address, e.interface.nativeAddress? ⟨cls, ⟨cls.handle, index⟩, native⟩ = some address ∧
      l.natives ⟨cls.handle, index⟩ = some address := by
  obtain ⟨report, hok⟩ := hsucceeded
  have houtcome : e.interface.outcome e.table = .ok report := by
    obtain hrefused | hresult := h.results e he
    · rw [hok] at hrefused
      cases hrefused
    · rw [← hresult, hok]
  have hd : (⟨cls, ⟨cls.handle, index⟩, native⟩ : DeclaredNative) ∈
      e.table.nativesOf e.interface.name :=
    hname ▸ ClassTable.mk_mem_nativesOf hcls hget
  obtain ⟨address, haddress⟩ := (ModuleInterface.located_of_outcome_eq_ok houtcome).1 _ hd
  exact ⟨address, haddress,
    (h.natives_iff _ address).mpr ⟨e, he, ⟨report, hok⟩, _, hd, rfl, haddress⟩⟩

lemma isSome_natives_iff {running : String → Prop} (h : l.LinkedBy heap running history)
    {cls : Class} {index : Nat} {native : NativeMethod} (hheap : heap cls.handle = some cls)
    (hget : cls.natives[index]? = some native) :
    (l.natives ⟨cls.handle, index⟩).isSome ↔ ∃ e ∈ history, e.Succeeded ∧
      e.interface.name = native.moduleName ∧ cls ∈ e.table.classes := by
  constructor
  · intro hsome
    obtain ⟨address, haddress⟩ := Option.isSome_iff_exists.mp hsome
    obtain ⟨e, he, hsucceeded, d, hd, hid, _⟩ := (h.natives_iff _ address).mp haddress
    obtain ⟨hcls, hdeclared, hname⟩ := ClassTable.mem_nativesOf.mp hd
    obtain ⟨howner, hget'⟩ := Class.mem_declaredNatives.mp hdeclared
    rw [hid] at howner hget'
    have hsame : d.cls = cls := by
      have hd' := h.tables e he d.cls hcls
      rw [← howner, hheap] at hd'
      exact Option.some.inj hd'.symm
    rw [hsame, hget] at hget'
    obtain rfl := Option.some.inj hget'
    exact ⟨e, he, hsucceeded, hname.symm, hsame ▸ hcls⟩
  · rintro ⟨e, he, hsucceeded, hname, hcls⟩
    obtain ⟨address, _, hbound⟩ := h.natives_of_succeeded he hsucceeded hget hname hcls
    rw [hbound]
    rfl

end Linkage.LinkedBy

/-- Over any run that starts with an empty ledger and no native method bound, at most one
resolution of a name succeeds, a name is resolved when one has, and later ones are refused and
change nothing; a resolution that misses members leaves its name free and later ones as they would
be without it; and a native method is bound, for good, by the resolution of its module that
succeeded with its class in the table. -/
theorem ledger_and_natives_of_run (heap : Handle → Option Class)
    (imports : ImportSlot → Option MethodId) (calls : List ResolutionCall)
    (hheap : ∀ c ∈ calls, c.table.Within heap) :
    let start : Linkage := { Linkage.empty with imports := imports }
    let history := historyOf calls start
    let final := linkageAfter calls start
    (history.Pairwise fun e e' =>
      e.Succeeded → e'.Succeeded → e.interface.name ≠ e'.interface.name) ∧
    (∀ name, final.isResolved name = true ↔
      ∃ e ∈ history, e.Succeeded ∧ e.interface.name = name) ∧
    (history.Pairwise fun earlier later => earlier.Succeeded →
      later.interface.name = earlier.interface.name →
        later.result = .error (.alreadyResolved earlier.interface.name)) ∧
    (∀ before c rest, calls = before ++ c :: rest →
      let l := linkageAfter before start
      let done := ∃ e ∈ historyOf before start, e.Succeeded ∧ e.interface.name = c.name
      (done → (c.attempt l).result = .error (.alreadyResolved c.name) ∧
        (c.attempt l).nested = [] ∧ c.after l = l) ∧
      (¬done → (c.attempt l).result = (c.attempt start).result) ∧
      ∀ missing, (c.attempt l).result = .error (.unresolved c.name missing) →
        (c.after l).ledger c.name = none) ∧
    (∀ cls index native, heap cls.handle = some cls → cls.natives[index]? = some native →
      ((final.natives ⟨cls.handle, index⟩).isSome ↔ ∃ e ∈ history, e.Succeeded ∧
        e.interface.name = native.moduleName ∧ cls ∈ e.table.classes) ∧
      ∀ e ∈ history, e.Succeeded → e.interface.name = native.moduleName →
        cls ∈ e.table.classes → ∃ address,
          e.interface.nativeAddress? ⟨cls, ⟨cls.handle, index⟩, native⟩ = some address ∧
            final.natives ⟨cls.handle, index⟩ = some address) ∧
    ∀ before rest, calls = before ++ rest → ∀ id address,
      (linkageAfter before start).natives id = some address → final.natives id = some address := by
  intro start history final
  have hstart : start.LinkedBy heap (fun _ => False) [] := linkedBy_nil imports
  have hfinal : final.LinkedBy heap (fun _ => False) history := linkedBy_historyOf hheap hstart
  -- The calls made before a given one are a run themselves, so the invariant holds there too.
  have hbefore : ∀ before rest, calls = before ++ rest →
      (linkageAfter before start).LinkedBy heap (fun _ => False) (historyOf before start) := by
    intro before rest hcalls
    apply linkedBy_historyOf _ hstart
    intro c hc
    exact hheap c (hcalls ▸ List.mem_append_left rest hc)
  refine ⟨hfinal.pairwise_succeeded, hfinal.resolved_iff, hfinal.refused, ?_, ?_, ?_⟩
  · intro before c rest hcalls l done
    have hl := hbefore before (c :: rest) hcalls
    refine ⟨?_, ?_, ?_⟩
    · intro hdone
      obtain ⟨mapping, hstate⟩ := Linkage.isResolved_iff.mp ((hl.resolved_iff c.name).mpr hdone)
      exact c.refused hstate
    · intro hnone
      rw [c.result_of_free (hl.ledger_eq_none_iff.mpr hnone)]
      exact (c.result_of_free rfl).symm
    · intro missing hmissing
      exact c.ledger_after_of_unresolved hmissing
  · intro cls index native hcls hget
    refine ⟨hfinal.isSome_natives_iff hcls hget, ?_⟩
    intro e he hsucceeded hname hmem
    exact hfinal.natives_of_succeeded he hsucceeded hget hname hmem
  · intro before rest hcalls id address hbound
    obtain ⟨e, he, hlocated⟩ := ((hbefore before rest hcalls).natives_iff id address).mp hbound
    refine (hfinal.natives_iff id address).mpr ⟨e, ?_, hlocated⟩
    have hhistory :
        history = historyOf before start ++ historyOf rest (linkageAfter before start) := by
      rw [← historyOf_append, ← hcalls]
    rw [hhistory]
    exact List.mem_append_left _ he

end Runs

namespace Sample

def steppingHeap (h : Handle) : Option Class := if h = ⟨0x40⟩ then some steppingClass else none

/-- The engine without its exports, and then the engine twice. -/
def engineCalls : List ResolutionCall :=
  [⟨steppingTable, .mk { engine with symbol := fun _ => none } .none⟩,
    ⟨steppingTable, .mk engine .none⟩, ⟨steppingTable, .mk engine .none⟩]

end Sample

theorem run_of_engine_binds_once :
    let before := linkageAfter (Sample.engineCalls.take 2) .empty
    let final := linkageAfter Sample.engineCalls .empty
    (∀ c ∈ Sample.engineCalls, c.table.Within Sample.steppingHeap) ∧
      before.natives ⟨⟨0x40⟩, 0⟩ = some 0x2000 ∧
      (ResolutionCall.attempt ⟨Sample.steppingTable, .mk Sample.engine .none⟩ before).result =
        .error (.alreadyResolved "engine") ∧
      final.isResolved "engine" = true ∧ final.natives ⟨⟨0x40⟩, 0⟩ = some 0x2000 := by
  intro before final
  have hheap : ∀ c ∈ Sample.engineCalls, c.table.Within Sample.steppingHeap := by
    intro c hc cls hcls
    have htable : c.table = Sample.steppingTable := by
      simp only [Sample.engineCalls, List.mem_cons, List.not_mem_nil, or_false] at hc
      obtain rfl | rfl | rfl := hc <;> rfl
    rw [htable] at hcls
    obtain rfl : cls = Sample.steppingClass := List.mem_singleton.mp hcls
    rfl
  obtain ⟨_, hresolved, _, hcalls, _, hkept⟩ :=
    ledger_and_natives_of_run Sample.steppingHeap (fun _ => none) Sample.engineCalls hheap
  have hhistory : historyOf (Sample.engineCalls.take 2) .empty =
      [⟨Sample.steppingTable, { Sample.engine with symbol := fun _ => none },
          .error (.unresolved "engine" [.native "Java_it_Tally_step" "Java_it_Tally_step__"])⟩,
        ⟨Sample.steppingTable, Sample.engine, .ok ⟨"engine", 1, 1⟩⟩] := by
    rfl
  have hdone : ∃ e ∈ historyOf (Sample.engineCalls.take 2) .empty,
      e.Succeeded ∧ e.interface.name = "engine" := by
    rw [hhistory]
    exact ⟨_, List.mem_cons_of_mem _ (List.mem_singleton.mpr rfl), ⟨_, rfl⟩, rfl⟩
  have hbound : before.natives ⟨⟨0x40⟩, 0⟩ = some 0x2000 := by rfl
  refine ⟨hheap, hbound, ?_, ?_, hkept _ _ (List.take_append_drop 2 _).symm _ _ hbound⟩
  · exact ((hcalls (Sample.engineCalls.take 2) _ [] rfl).1 hdone).1
  · obtain ⟨e, he, hsucceeded, hname⟩ := hdone
    refine (hresolved "engine").mpr ⟨e, ?_, hsucceeded, hname⟩
    exact historyOf_append (Sample.engineCalls.take 2) (Sample.engineCalls.drop 2) .empty ▸
      List.mem_append_left _ he

end NativeBridge
