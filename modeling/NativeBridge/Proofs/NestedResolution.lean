import NativeBridge.Proofs.ResolutionOutcome

/-!
# Resolutions within resolutions

A resolution looks symbols up, and each lookup may start further resolutions before it answers,
against the same table or against others. With these a resolution is a finite tree. Here the lookups
are forgotten: what a resolution starts is a list of resolutions that run one after the other, and a
fact about every resolution follows from the fact about those that it starts.
-/

namespace NativeBridge

/-- Resolutions started during symbol lookups, each against a table of its own and with the number
of the lookup that starts it. -/
inductive Nesting where
  | none
  | also (lookup : Nat) (table : ClassTable) (interface : ModuleInterface) (during rest : Nesting)

/-- A resolution to be made, with those that its lookups start. -/
structure NestedResolution where
  table : ClassTable
  interface : ModuleInterface
  during : Nesting

/-- Runs what a lookup starts. -/
def Nesting.hook : Nesting → LookupHook
  | .none, _, l => ⟨[], l, []⟩
  | .also lookup table interface during rest, k, l =>
    if lookup = k then
      let first := resolveWith table interface during.hook l
      let others := rest.hook k first.linkage
      ⟨first.value :: others.value, others.linkage, first.records ++ others.records⟩
    else rest.hook k l

/-- The calls that the lookup with the number `k` starts, in order. -/
def Nesting.startedAt (k : Nat) : Nesting → List NestedResolution
  | .none => []
  | .also lookup table interface during rest =>
    if lookup = k then ⟨table, interface, during⟩ :: rest.startedAt k else rest.startedAt k

namespace NestedResolution

def name (c : NestedResolution) : String := c.interface.name

def run (c : NestedResolution) (l : Linkage) : Resolved Attempt :=
  resolveWith c.table c.interface c.during.hook l

def runAll : List NestedResolution → Linkage → Resolved (List Attempt)
  | [], l => ⟨[], l, []⟩
  | c :: calls, l =>
    let first := c.run l
    let others := runAll calls first.linkage
    ⟨first.value :: others.value, others.linkage, first.records ++ others.records⟩

def started (c : NestedResolution) : List NestedResolution :=
  (List.range (c.interface.lookups c.table).length).flatMap c.during.startedAt

/-- The second call is the first one or happens within it, at any depth. -/
inductive Involves : NestedResolution → NestedResolution → Prop
  | self (c : NestedResolution) : Involves c c
  | started {c c' d : NestedResolution} (hstarted : c' ∈ c.started) (hd : Involves c' d) :
    Involves c d

lemma involves_iff {c d : NestedResolution} :
    c.Involves d ↔ d = c ∨ ∃ c' ∈ c.started, c'.Involves d := by
  constructor
  · rintro (_ | ⟨hstarted, hd⟩)
    · exact .inl rfl
    · exact .inr ⟨_, hstarted, hd⟩
  · rintro (rfl | ⟨c', hstarted, hd⟩)
    · exact .self d
    · exact .started hstarted hd

/-- A fact holds of all calls if it holds of every call for which it holds of the calls started. -/
theorem induction {motive : NestedResolution → Prop}
    (step : ∀ c, (∀ c' ∈ c.started, motive c') → motive c) (c : NestedResolution) : motive c := by
  -- A call is not built from the calls it starts but from the nesting that holds them, so the
  -- induction is on nestings, for all lookups at once.
  have hnesting : ∀ nesting : Nesting, ∀ k, ∀ c' ∈ nesting.startedAt k, motive c' := by
    intro nesting
    induction nesting with
    | none =>
      intro k c' hc'
      cases hc'
    | also lookup table interface during rest ihduring ihrest =>
      intro k c' hc'
      rw [Nesting.startedAt] at hc'
      by_cases hlookup : lookup = k
      · rw [if_pos hlookup] at hc'
        obtain rfl | hc' := List.mem_cons.mp hc'
        · refine step _ ?_
          intro d hd
          obtain ⟨k', _, hd⟩ := List.mem_flatMap.mp hd
          exact ihduring k' d hd
        · exact ihrest k c' hc'
      · rw [if_neg hlookup] at hc'
        exact ihrest k c' hc'
  refine step c ?_
  intro c' hc'
  obtain ⟨k, _, hc'⟩ := List.mem_flatMap.mp hc'
  exact hnesting c.during k c' hc'

lemma runAll_append (calls calls' : List NestedResolution) (l : Linkage) :
    runAll (calls ++ calls') l =
      ⟨(runAll calls l).value ++ (runAll calls' (runAll calls l).linkage).value,
        (runAll calls' (runAll calls l).linkage).linkage,
        (runAll calls l).records ++ (runAll calls' (runAll calls l).linkage).records⟩ := by
  induction calls generalizing l with
  | nil => rfl
  | cons c calls ih =>
    rw [List.cons_append, runAll, ih, runAll]
    simp only [List.cons_append, List.append_assoc]

lemma hook_eq_runAll (nesting : Nesting) (k : Nat) (l : Linkage) :
    nesting.hook k l = runAll (nesting.startedAt k) l := by
  induction nesting generalizing l with
  | none => rfl
  | also lookup table interface during rest _ ihrest =>
    rw [Nesting.hook, Nesting.startedAt]
    by_cases hlookup : lookup = k
    · rw [if_pos hlookup, if_pos hlookup, runAll, ← ihrest]
      rfl
    · rw [if_neg hlookup, if_neg hlookup, ihrest]

lemma runAll_hook_eq_runAll (nesting : Nesting) (lookups : List Nat) (l : Linkage) :
    nesting.hook.runAll lookups l = runAll (lookups.flatMap nesting.startedAt) l := by
  induction lookups generalizing l with
  | nil => rfl
  | cons k lookups ih =>
    rw [LookupHook.runAll, ih, hook_eq_runAll, List.flatMap_cons, runAll_append]

section Run

variable (c : NestedResolution) {l : Linkage}

/-- The linkage and the attempts that the started calls leave when the name of the module was free,
which is claimed for them. -/
def duringLookups (l : Linkage) : Resolved (List Attempt) :=
  runAll c.started (l.mark c.name (some .resolving))

lemma run_of_claimed {state : ModuleState} (h : l.ledger c.name = some state) :
    c.run l = ⟨.mk c.interface (.error (.alreadyResolved c.name)) [] [], l,
      [⟨.error, "resolve", s!"module '{c.name}' resolved twice"⟩]⟩ := by
  unfold name at h
  unfold run resolveWith
  rw [h]
  rfl

lemma run_of_free (h : l.ledger c.name = none) :
    let ended := finishResolution c.table c.interface (c.duringLookups l).linkage
    c.run l = ⟨.mk c.interface ended.value (c.interface.lookups c.table) (c.duringLookups l).value,
      ended.linkage, (c.duringLookups l).records ++ ended.records⟩ := by
  unfold name at h
  unfold run resolveWith
  rw [h]
  simp only [runAll_hook_eq_runAll]
  rfl

lemma result_run : (c.run l).value.result =
    if l.ledger c.name = none then c.interface.outcome c.table
    else .error (.alreadyResolved c.name) :=
  result_resolveWith c.table _

end Run

end NestedResolution

mutual

def ForeignModule.call (t : ClassTable) : ForeignModule → NestedResolution
  | .mk interface reentry => ⟨t, interface, reentry.nesting t⟩

/-- What the lookups of a module start, all against one table. -/
def Reentry.nesting (t : ClassTable) : Reentry → Nesting
  | .none => .none
  | .also lookup module rest =>
    .also lookup t (module.call t).interface (module.call t).during (rest.nesting t)

end

lemma ForeignModule.started_call_of_plain (t : ClassTable) (i : ModuleInterface) :
    ((mk i .none).call t).started = [] :=
  List.flatMap_eq_nil_iff.mpr fun _ _ => rfl

mutual

theorem ForeignModule.resolve_eq_run (t : ClassTable) : ∀ (module : ForeignModule) (l : Linkage),
    module.resolve t l = (module.call t).run l
  | .mk i reentry, l => by
    rw [ForeignModule.resolve, Reentry.hook_eq_hook t reentry]
    rfl

theorem Reentry.hook_eq_hook (t : ClassTable) : ∀ reentry : Reentry,
    reentry.hook t = (reentry.nesting t).hook
  | .none => by
    funext k l
    rw [Reentry.hook]
    rfl
  | .also lookup module rest => by
    funext k l
    rw [Reentry.hook, Reentry.hook_eq_hook t rest, ForeignModule.resolve_eq_run t module]
    obtain ⟨i, reentry⟩ := module
    rfl

end

namespace ForeignModule

variable {t : ClassTable} {i : ModuleInterface} {l : Linkage}

lemma nested_resolve_of_plain : ((mk i .none).resolve t l).value.nested = [] := by
  rw [resolve_eq_run]
  cases hstate : l.ledger i.name with
  | some state =>
    rw [((mk i .none).call t).run_of_claimed hstate]
    rfl
  | none =>
    rw [((mk i .none).call t).run_of_free hstate]
    change (NestedResolution.runAll ((mk i .none).call t).started _).value = []
    rw [started_call_of_plain]
    rfl

lemma linkage_resolve_of_plain_error {e : ResolveError}
    (h : ((mk i .none).resolve t l).value.result = .error e) :
    ((mk i .none).resolve t l).linkage = l := by
  rw [linkage_resolve_of_error h]
  exact afterLookups_of_nil nested_resolve_of_plain

end ForeignModule

end NativeBridge
