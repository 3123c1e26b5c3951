import Mathlib.Data.Set.Basic
import NativeBridge.Proofs.NestedResolution

/-!
# The footprint of a resolution

A resolution reads and writes only the places that belong to its module and to the modules of the
resolutions it involves: their names in the ledger, their native methods and their import slots. Of
what it finds there only the entries of the names matter. Hence a resolution does the same wherever
these entries are the same, and resolutions with separate footprints can be made in either order.
-/

namespace NativeBridge

namespace Linkage

inductive Place where
  | entry (name : String)
  | native (id : NativeId)
  | slot (slot : ImportSlot)

/-- What a place of this kind holds. -/
def Place.Content : Place → Type
  | .entry _ => Option ModuleState
  | .native _ => Option CodeAddress
  | .slot _ => Option MethodId

def content (l : Linkage) : (x : Place) → x.Content
  | .entry name => l.ledger name
  | .native id => l.natives id
  | .slot slot => l.imports slot

lemma ext_content {l l' : Linkage} (h : ∀ x, l.content x = l'.content x) : l = l' := by
  have hledger : l.ledger = l'.ledger := funext fun name => h (.entry name)
  have hnatives : l.natives = l'.natives := funext fun id => h (.native id)
  have himports : l.imports = l'.imports := funext fun slot => h (.slot slot)
  cases l
  cases l'
  obtain rfl := hledger
  obtain rfl := hnatives
  obtain rfl := himports
  rfl

/-- Two linkages have the same ledger entries at some places. -/
def SameEntries (places : Set Place) (l l' : Linkage) : Prop :=
  ∀ name, .entry name ∈ places → l.ledger name = l'.ledger name

/-- At a place two steps do the same: neither changes what is there, or both end with the same. -/
def SameChange (l after l' after' : Linkage) (x : Place) : Prop :=
  after.content x = l.content x ∧ after'.content x = l'.content x ∨
    after.content x = after'.content x

lemma SameChange.trans {l m r l' m' r' : Linkage} {x : Place} (h : SameChange l m l' m' x)
    (h' : SameChange m r m' r' x) : SameChange l r l' r' x := by
  obtain ⟨hr, hr'⟩ | hsame := h'
  · rw [SameChange, hr, hr']
    exact h
  · exact .inr hsame

lemma content_mark (l : Linkage) (name : String) (state : Option ModuleState) {x : Place}
    (hx : x ≠ .entry name) : (l.mark name state).content x = l.content x := by
  cases x with
  | entry n =>
    have hn : n ≠ name := fun hn => hx (congrArg Place.entry hn)
    exact if_neg hn
  | native id => rfl
  | slot slot => rfl

end Linkage

open Linkage

/-- The step changes nothing outside some places, and what it does depends on the ledger entries
among them only. -/
structure Confined {α : Type} (places : Set Place) (f : Linkage → Resolved α) : Prop where
  frame : ∀ l x, x ∉ places → (f l).linkage.content x = l.content x
  value : ∀ l l', SameEntries places l l' → (f l).value = (f l').value
  records : ∀ l l', SameEntries places l l' → (f l).records = (f l').records
  change : ∀ l l', SameEntries places l l' → ∀ x, SameChange l (f l).linkage l' (f l').linkage x

namespace Confined

variable {α β γ : Type} {places places' : Set Place} {f : Linkage → Resolved α}
  {g : Linkage → Resolved β}

lemma mono (hf : Confined places f) (hsub : places ⊆ places') : Confined places' f := by
  have hsame : ∀ {l l'}, SameEntries places' l l' → SameEntries places l l' :=
    fun h name hname => h name (hsub hname)
  refine ⟨?_, ?_, ?_, ?_⟩
  · intro l x hx
    exact hf.frame l x fun hmem => hx (hsub hmem)
  · intro l l' h
    exact hf.value l l' (hsame h)
  · intro l l' h
    exact hf.records l l' (hsame h)
  · intro l l' h
    exact hf.change l l' (hsame h)

lemma sameEntries_linkage (hf : Confined places f) {l l' : Linkage} (h : SameEntries places l l') :
    SameEntries places (f l).linkage (f l').linkage := by
  intro name hname
  obtain ⟨hl, hl'⟩ | hsame := hf.change l l' h (.entry name)
  · exact hl.trans ((h name hname).trans hl'.symm)
  · exact hsame

lemma still (a : α) (records : List LogRecord) :
    Confined places fun l => ⟨a, l, records⟩ :=
  ⟨fun _ _ _ => rfl, fun _ _ _ => rfl, fun _ _ _ => rfl, fun _ _ _ _ => .inl ⟨rfl, rfl⟩⟩

lemma andThen (hf : Confined places f) (hg : Confined places g) (combine : α → β → γ) :
    Confined places fun l => ⟨combine (f l).value (g (f l).linkage).value,
      (g (f l).linkage).linkage, (f l).records ++ (g (f l).linkage).records⟩ := by
  refine ⟨?_, ?_, ?_, ?_⟩
  · intro l x hx
    exact (hg.frame _ x hx).trans (hf.frame l x hx)
  · intro l l' h
    exact congrArg₂ combine (hf.value l l' h) (hg.value _ _ (hf.sameEntries_linkage h))
  · intro l l' h
    exact congrArg₂ _ (hf.records l l' h) (hg.records _ _ (hf.sameEntries_linkage h))
  · intro l l' h x
    exact (hf.change l l' h x).trans (hg.change _ _ (hf.sameEntries_linkage h) x)

lemma ofEntry {name : String} {f : Linkage → Resolved α} {g : Linkage → Resolved α}
    {h : Linkage → Resolved α} (hname : .entry name ∈ places) (hg : Confined places g)
    (hh : Confined places h) (hclaimed : ∀ l, l.ledger name ≠ none → f l = g l)
    (hfree : ∀ l, l.ledger name = none → f l = h l) : Confined places f := by
  have hboth : ∀ l, f l = g l ∨ f l = h l := by
    intro l
    by_cases hl : l.ledger name = none
    · exact .inr (hfree l hl)
    · exact .inl (hclaimed l hl)
  -- Linkages with the same entries take the same branch.
  have hpair : ∀ l l', SameEntries places l l' →
      f l = g l ∧ f l' = g l' ∨ f l = h l ∧ f l' = h l' := by
    intro l l' hsame
    by_cases hl : l.ledger name = none
    · exact .inr ⟨hfree l hl, hfree l' (hsame name hname ▸ hl)⟩
    · exact .inl ⟨hclaimed l hl, hclaimed l' (hsame name hname ▸ hl)⟩
  refine ⟨?_, ?_, ?_, ?_⟩
  · intro l x hx
    obtain hl | hl := hboth l
    · rw [hl, hg.frame l x hx]
    · rw [hl, hh.frame l x hx]
  · intro l l' hsame
    obtain ⟨hl, hl'⟩ | ⟨hl, hl'⟩ := hpair l l' hsame
    · rw [hl, hl', hg.value l l' hsame]
    · rw [hl, hl', hh.value l l' hsame]
  · intro l l' hsame
    obtain ⟨hl, hl'⟩ | ⟨hl, hl'⟩ := hpair l l' hsame
    · rw [hl, hl', hg.records l l' hsame]
    · rw [hl, hl', hh.records l l' hsame]
  · intro l l' hsame x
    obtain ⟨hl, hl'⟩ | ⟨hl, hl'⟩ := hpair l l' hsame
    · rw [hl, hl']
      exact hg.change l l' hsame x
    · rw [hl, hl']
      exact hh.change l l' hsame x

lemma mark {name : String} (state : Option ModuleState) (hname : .entry name ∈ places) :
    Confined places fun l => ⟨(), l.mark name state, []⟩ := by
  have hother : ∀ x ∉ places, x ≠ .entry name := fun x hx heq => hx (heq ▸ hname)
  refine ⟨?_, fun _ _ _ => rfl, fun _ _ _ => rfl, ?_⟩
  · intro l x hx
    exact l.content_mark name state (hother x hx)
  · intro l l' _ x
    by_cases hx : x = .entry name
    · subst hx
      exact .inr ((if_pos rfl).trans (if_pos rfl).symm)
    · exact .inl ⟨l.content_mark name state hx, l'.content_mark name state hx⟩

/-- Two steps with separate places do the same in either order. -/
theorem commute {places₁ places₂ : Set Place} (hf : Confined places₁ f) (hg : Confined places₂ g)
    (hapart : ∀ x ∈ places₁, x ∉ places₂) (l : Linkage) :
    (f (g l).linkage).value = (f l).value ∧ (f (g l).linkage).records = (f l).records ∧
      (g (f l).linkage).value = (g l).value ∧ (g (f l).linkage).records = (g l).records ∧
        (g (f l).linkage).linkage = (f (g l).linkage).linkage := by
  have hfirst : SameEntries places₁ (g l).linkage l := fun name hname =>
    hg.frame l (.entry name) (hapart _ hname)
  have hsecond : SameEntries places₂ (f l).linkage l := fun name hname =>
    hf.frame l (.entry name) fun hname' => hapart _ hname' hname
  refine ⟨hf.value _ _ hfirst, hf.records _ _ hfirst, hg.value _ _ hsecond,
    hg.records _ _ hsecond, ?_⟩
  apply ext_content
  intro x
  by_cases hx : x ∈ places₁
  · have hx' : x ∉ places₂ := hapart x hx
    rw [hg.frame _ x hx']
    obtain ⟨hmoved, hhere⟩ | hsame := hf.change _ _ hfirst x
    · rw [hmoved, hhere, hg.frame l x hx']
    · exact hsame.symm
  · rw [hf.frame _ x hx]
    obtain ⟨hmoved, hhere⟩ | hsame := hg.change _ _ hsecond x
    · rw [hmoved, hhere, hf.frame l x hx]
    · exact hsame

end Confined

/-- The places of a module: its name, the native methods of a table that name it, and the slots of
its requests. -/
def ModuleInterface.places (i : ModuleInterface) (t : ClassTable) : Set Place
  | .entry name => name = i.name
  | .native id => id ∈ t.nativeSlots i.name
  | .slot slot => slot ∈ i.importSlots

section Finish

variable {t : ClassTable} {i : ModuleInterface}

lemma content_carryOut_of_notMem (l : Linkage) {x : Place} (hx : x ∉ i.places t) :
    (l.carryOut i (i.plan t)).content x = l.content x := by
  cases x with
  | entry name => exact congrFun (l.ledger_carryOut i (i.plan t)) name
  | native id =>
    apply l.natives_carryOut_of_forall_ne
    intro d hd heq
    exact hx (List.mem_toFinset.mpr (List.mem_map.mpr ⟨d, hd, heq⟩))
  | slot slot =>
    apply l.imports_carryOut_of_forall_ne
    intro r hr heq
    exact hx (ModuleInterface.mem_importSlots.mpr ⟨r, hr, heq⟩)

lemma sameChange_carryOut (l l' : Linkage) (plan : BindingPlan) (x : Place) :
    SameChange l (l.carryOut i plan) l' (l'.carryOut i plan) x := by
  cases x with
  | entry name =>
    exact .inl ⟨congrFun (l.ledger_carryOut i plan) name, congrFun (l'.ledger_carryOut i plan) name⟩
  | native id =>
    by_cases hid : ∃ n ∈ plan.natives, some n.id = some id
    · exact .inr (l.natives_carryOut_eq_of_mem l' i plan hid)
    · exact .inl ⟨l.natives_carryOut_of_notMem i plan hid, l'.natives_carryOut_of_notMem i plan hid⟩
  | slot slot =>
    by_cases hslot : ∃ r ∈ plan.imports, i.slot r.index = some slot
    · exact .inr (l.imports_carryOut_eq_of_mem l' i plan hslot)
    · exact .inl
        ⟨l.imports_carryOut_of_notMem i plan hslot, l'.imports_carryOut_of_notMem i plan hslot⟩

lemma confined_finishResolution : Confined (i.places t) (finishResolution t i) := by
  have hname : .entry i.name ∈ i.places t := rfl
  have hcarry : Confined (i.places t) fun l => ⟨(), l.carryOut i (i.plan t), []⟩ :=
    ⟨fun l _ hx => content_carryOut_of_notMem l hx, fun _ _ _ => rfl, fun _ _ _ => rfl,
      fun l l' _ x => sameChange_carryOut l l' (i.plan t) x⟩
  unfold finishResolution
  cases i.misses t with
  | nil =>
    exact (hcarry.andThen (.mark (some (.resolved i.mapping)) hname) fun _ _ => ()).andThen
      (.still (Except.ok ((i.plan t).report i.name)) ((i.plan t).records i.name))
      fun _ result => result
  | cons miss missing =>
    exact (Confined.mark none hname).andThen
      (.still (Except.error (ResolveError.unresolved i.name (miss :: missing)))
        (missingRecords i.name (miss :: missing))) fun _ result => result

end Finish

namespace NestedResolution

/-- The places of all modules that a resolution involves. -/
def places (c : NestedResolution) : Set Place :=
  {x | ∃ d, c.Involves d ∧ x ∈ d.interface.places d.table}

lemma confined_runAll {places : Set Place} {calls : List NestedResolution}
    (h : ∀ c ∈ calls, Confined places c.run) : Confined places (runAll calls) := by
  induction calls with
  | nil => exact .still [] []
  | cons c calls ih =>
    obtain ⟨hc, hcalls⟩ := List.forall_mem_cons.mp h
    exact hc.andThen (ih hcalls) List.cons

theorem confined_run (c : NestedResolution) : Confined c.places c.run := by
  induction c using NestedResolution.induction with
  | step c ih =>
    have hname : .entry c.name ∈ c.places := ⟨c, .self c, rfl⟩
    have hown : c.interface.places c.table ⊆ c.places := fun x hx => ⟨c, .self c, hx⟩
    have hstarted : Confined c.places (runAll c.started) := by
      apply confined_runAll
      intro c' hc'
      refine (ih c' hc').mono ?_
      rintro x ⟨d, hd, hx⟩
      exact ⟨d, .started hc' hd, hx⟩
    have hduring : Confined c.places c.duringLookups :=
      (Confined.mark (some .resolving) hname).andThen hstarted fun _ attempts => attempts
    have hended := hduring.andThen (confined_finishResolution.mono hown) fun attempts result =>
      Attempt.mk c.interface result (c.interface.lookups c.table) attempts
    apply Confined.ofEntry hname (.still _ _) hended
    · intro l hl
      obtain ⟨state, hstate⟩ := Option.ne_none_iff_exists'.mp hl
      exact c.run_of_claimed hstate
    · exact fun l hl => c.run_of_free hl

end NestedResolution

end NativeBridge
