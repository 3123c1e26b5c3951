import NativeBridge.Proofs.ResolutionFootprint

/-!
# The order of resolutions

A native method names one module, so modules of different names have different native methods to
bind. When they also have different import slots the order in which they are resolved does not
matter, whether they succeed, miss members or are refused.
-/

namespace NativeBridge

open Linkage

lemma ClassTable.DistinctHandles.disjoint_nativeSlots {t : ClassTable} (ht : t.DistinctHandles)
    {name name' : String} (hname : name ≠ name') :
    Disjoint (t.nativeSlots name) (t.nativeSlots name') := by
  rw [Finset.disjoint_left]
  intro id hid hid'
  obtain ⟨cls, hcls, howner, native, hget, rfl⟩ := mem_nativeSlots.mp hid
  obtain ⟨cls', hcls', howner', native', hget', rfl⟩ := mem_nativeSlots.mp hid'
  obtain rfl : cls = cls' := List.inj_on_of_nodup_map ht hcls hcls' (howner.trans howner'.symm)
  rw [hget] at hget'
  obtain rfl := Option.some.inj hget'
  exact hname rfl

lemma ModuleInterface.notMem_places_of_mem {t : ClassTable} (ht : t.DistinctHandles)
    {i j : ModuleInterface} (hname : i.name ≠ j.name)
    (hslots : Disjoint i.importSlots j.importSlots) {x : Place} (hi : x ∈ i.places t) :
    x ∉ j.places t := by
  intro hj
  cases x with
  | entry name => exact hname (Eq.trans (Eq.symm hi) hj)
  | native id => exact Finset.disjoint_left.mp (ht.disjoint_nativeSlots hname) hi hj
  | slot slot => exact Finset.disjoint_left.mp hslots hi hj

namespace NestedResolution

/-- No module that one of the resolutions involves shares its name or an import slot with one that
the other involves. -/
def Apart (a b : NestedResolution) : Prop :=
  ∀ c d, a.Involves c → b.Involves d → c.interface.name ≠ d.interface.name ∧
    Disjoint c.interface.importSlots d.interface.importSlots

end NestedResolution

theorem Reentry.exists_call_of_mem_startedAt {t : ClassTable} {k : Nat} {c : NestedResolution} :
    ∀ reentry : Reentry, c ∈ (reentry.nesting t).startedAt k →
      ∃ module : ForeignModule, c = module.call t
  | .none, hc => by
    rw [Reentry.nesting, Nesting.startedAt] at hc
    cases hc
  | .also lookup module rest, hc => by
    rw [Reentry.nesting, Nesting.startedAt] at hc
    by_cases hlookup : lookup = k
    · rw [if_pos hlookup] at hc
      obtain rfl | hc := List.mem_cons.mp hc
      · refine ⟨module, ?_⟩
        obtain ⟨i, reentry⟩ := module
        rfl
      · exact rest.exists_call_of_mem_startedAt hc
    · rw [if_neg hlookup] at hc
      exact rest.exists_call_of_mem_startedAt hc

namespace ForeignModule

variable {t : ClassTable}

lemma table_of_involves {module : ForeignModule} {c : NestedResolution}
    (hc : (module.call t).Involves c) : c.table = t := by
  have hcall : ∀ a d : NestedResolution, a.Involves d →
      (∃ module : ForeignModule, a = module.call t) → d.table = t := by
    intro a d hd
    induction hd with
    | self a =>
      rintro ⟨⟨i, reentry⟩, rfl⟩
      rfl
    | started hstarted _ ih =>
      rintro ⟨⟨i, reentry⟩, rfl⟩
      obtain ⟨k, _, hstarted⟩ := List.mem_flatMap.mp hstarted
      exact ih (reentry.exists_call_of_mem_startedAt hstarted)
  exact hcall _ c hc ⟨module, rfl⟩

lemma notMem_places_of_apart (ht : t.DistinctHandles) {a b : ForeignModule}
    (hapart : (a.call t).Apart (b.call t)) : ∀ x ∈ (a.call t).places, x ∉ (b.call t).places := by
  rintro x ⟨c, hc, hx⟩ ⟨d, hd, hx'⟩
  rw [table_of_involves hc] at hx
  rw [table_of_involves hd] at hx'
  obtain ⟨hname, hslots⟩ := hapart c d hc hd
  exact ModuleInterface.notMem_places_of_mem ht hname hslots hx hx'

/-- Modules whose lookups start nothing are apart when their names and their import slots are. -/
lemma apart_of_plain {i j : ModuleInterface} (hname : i.name ≠ j.name)
    (hslots : Disjoint i.importSlots j.importSlots) :
    ((mk i .none).call t).Apart ((mk j .none).call t) := by
  have hplain : ∀ (i : ModuleInterface) (c : NestedResolution),
      ((mk i .none).call t).Involves c → c.interface = i := by
    intro i c hc
    obtain rfl | ⟨c', hstarted, _⟩ := NestedResolution.involves_iff.mp hc
    · rfl
    · rw [started_call_of_plain] at hstarted
      cases hstarted
  intro c d hc hd
  rw [hplain i c hc, hplain j d hd]
  exact ⟨hname, hslots⟩

/-- Two modules that are apart can be resolved in either order, from any linkage: each resolution
ends the same way and writes the same records, and in the end the ledger, the native methods and
the import slots are the same. -/
theorem resolve_comm (t : ClassTable) (ht : t.DistinctHandles) (a b : ForeignModule) (l : Linkage)
    (hapart : (a.call t).Apart (b.call t)) :
    let firstA := a.resolve t l
    let thenB := b.resolve t firstA.linkage
    let firstB := b.resolve t l
    let thenA := a.resolve t firstB.linkage
    (thenA.value = firstA.value ∧ thenA.records = firstA.records) ∧
      (thenB.value = firstB.value ∧ thenB.records = firstB.records) ∧
        thenB.linkage = thenA.linkage := by
  intro firstA thenB firstB thenA
  have hplaces := notMem_places_of_apart ht hapart
  obtain ⟨hvalue, hrecords, hvalue', hrecords', hlinkage⟩ :=
    (a.call t).confined_run.commute (b.call t).confined_run hplaces l
  have ha : ∀ l, a.resolve t l = (a.call t).run l := a.resolve_eq_run t
  have hb : ∀ l, b.resolve t l = (b.call t).run l := b.resolve_eq_run t
  simp only [firstA, thenB, firstB, thenA, ha, hb]
  exact ⟨⟨hvalue, hrecords⟩, ⟨hvalue', hrecords'⟩, hlinkage⟩

end ForeignModule

namespace Sample

/-- A module without native methods in the sample table, which asks for one method. -/
def gauge : ModuleInterface where
  name := "gauge"
  symbol _ := none
  imports := [⟨0, "it", "Tally", "tally", "(III)I", some .static, none⟩]
  slot index := if index = 0 then some ⟨9, 0⟩ else none
  mapping := none

/-- The second module of the sample table, without its export. -/
def brakes : ModuleInterface where
  name := "brakes"
  symbol _ := none
  imports := [⟨0, "it", "Tally", "tally", "(III)I", some .static, none⟩]
  slot index := if index = 0 then some ⟨8, 0⟩ else none
  mapping := none

/-- The engine, which has the gauge resolved while its symbol is looked up. -/
def gaugedEngine : ForeignModule := .mk engine (.also 0 (.mk gauge .none) .none)

end Sample

theorem ForeignModule.resolve_engine_and_brakes :
    let t := Sample.steppingTable
    let engine := Sample.gaugedEngine
    let brakes := ForeignModule.mk Sample.brakes .none
    let afterEngine := (engine.resolve t .empty).linkage
    let afterBrakes := (brakes.resolve t .empty).linkage
    t.DistinctHandles ∧ (engine.call t).Apart (brakes.call t) ∧
      (engine.resolve t afterBrakes).value.result = .ok ⟨"engine", 1, 1⟩ ∧
      (brakes.resolve t afterEngine).value.result =
        .error (.unresolved "brakes" [.native "Java_it_Tally_halt" "Java_it_Tally_halt__"]) ∧
      (brakes.resolve t afterEngine).linkage = (engine.resolve t afterBrakes).linkage := by
  intro t engine brakes afterEngine afterBrakes
  have ht : t.DistinctHandles := by
    unfold ClassTable.DistinctHandles
    decide
  have hbrakes : (brakes.call t).started = [] := rfl
  have hengine : (engine.call t).started = [(ForeignModule.mk Sample.gauge .none).call t] := rfl
  have hgauge : ((ForeignModule.mk Sample.gauge .none).call t).started = [] := rfl
  have hapart : (engine.call t).Apart (brakes.call t) := by
    intro c d hc hd
    obtain rfl | ⟨d', hd', _⟩ := NestedResolution.involves_iff.mp hd
    · obtain rfl | ⟨c', hc', hc⟩ := NestedResolution.involves_iff.mp hc
      · exact ⟨by decide, by decide⟩
      · obtain rfl := List.mem_singleton.mp (hengine ▸ hc')
        obtain rfl | ⟨c'', hc'', _⟩ := NestedResolution.involves_iff.mp hc
        · exact ⟨by decide, by decide⟩
        · exact absurd (hgauge ▸ hc'') List.not_mem_nil
    · exact absurd (hbrakes ▸ hd') List.not_mem_nil
  obtain ⟨⟨hfirst, _⟩, ⟨hsecond, _⟩, hlinkage⟩ := resolve_comm t ht engine brakes .empty hapart
  refine ⟨ht, hapart, ?_, ?_, hlinkage⟩
  · rw [hfirst]
    rfl
  · rw [hsecond]
    rfl

end NativeBridge
