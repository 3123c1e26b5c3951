import NativeBridge.Proofs.ModuleSlots
import NativeBridge.Proofs.PlanWrites
import NativeBridge.Sample.Account

/-!
# What a resolution leaves behind

A resolution either binds a module completely or changes nothing. This file says how a resolution
ends and what it leaves: after an error the linkage is what it was, and after a success it differs
exactly in the slots of the module and in the module's name. Resolutions that the lookups start come
before either.
-/

namespace NativeBridge

/-- How a resolution ends that nothing keeps from locating the members of its module. -/
def ModuleInterface.outcome (i : ModuleInterface) (t : ClassTable) :
    Except ResolveError ResolveReport :=
  match i.misses t with
  | [] => .ok ((i.plan t).report i.name)
  | missing => .error (.unresolved i.name missing)

lemma ModuleInterface.outcome_eq_ok_iff {i : ModuleInterface} {t : ClassTable}
    {report : ResolveReport} :
    i.outcome t = .ok report ↔ i.misses t = [] ∧ report = (i.plan t).report i.name := by
  unfold outcome
  cases i.misses t with
  | nil => simp [eq_comm]
  | cons miss missing => simp

lemma ModuleInterface.exists_missing_of_outcome_eq_error {i : ModuleInterface} {t : ClassTable}
    {e : ResolveError} (h : i.outcome t = .error e) :
    ∃ missing, e = .unresolved i.name missing := by
  unfold outcome at h
  cases hmisses : i.misses t with
  | nil =>
    rw [hmisses] at h
    cases h
  | cons miss missing =>
    rw [hmisses] at h
    exact ⟨miss :: missing, Except.error.inj h.symm⟩

lemma ModuleInterface.located_of_outcome_eq_ok {i : ModuleInterface} {t : ClassTable}
    {report : ResolveReport} (h : i.outcome t = .ok report) :
    (∀ d ∈ t.nativesOf i.name, ∃ address, i.nativeAddress? d = some address) ∧
      ∀ r ∈ i.imports, ∃ located, t.locateImport r = .ok located := by
  obtain ⟨hmisses, _⟩ := outcome_eq_ok_iff.mp h
  exact misses_eq_nil_iff.mp hmisses

lemma ModuleInterface.exists_plan_import_of_mem {i : ModuleInterface} {t : ClassTable}
    {report : ResolveReport} (h : i.outcome t = .ok report) {slot : ImportSlot}
    (hslot : slot ∈ i.importSlots) : ∃ r ∈ (i.plan t).imports, i.slot r.index = some slot := by
  obtain ⟨r, hr, hassigned⟩ := mem_importSlots.mp hslot
  obtain ⟨located, hlocate⟩ := (located_of_outcome_eq_ok h).2 r hr
  refine ⟨located, mem_plan_imports.mpr ⟨r, hr, hlocate⟩, ?_⟩
  obtain ⟨_, id, method, _, _, rfl⟩ := ClassTable.locateImport_eq_ok_iff.mp hlocate
  exact hassigned

section Finish

variable {t : ClassTable} {i : ModuleInterface} {l : Linkage}

lemma value_finishResolution : (finishResolution t i l).value = i.outcome t := by
  unfold finishResolution ModuleInterface.outcome
  cases i.misses t with
  | nil => rfl
  | cons miss missing => rfl

lemma linkage_finishResolution_of_ok {report : ResolveReport} (h : i.outcome t = .ok report) :
    (finishResolution t i l).linkage =
      (l.carryOut i (i.plan t)).mark i.name (some (.resolved i.mapping)) := by
  obtain ⟨hmisses, _⟩ := ModuleInterface.outcome_eq_ok_iff.mp h
  unfold finishResolution
  rw [hmisses]

lemma linkage_finishResolution_of_error {e : ResolveError} (h : i.outcome t = .error e) :
    (finishResolution t i l).linkage = l.mark i.name none := by
  unfold finishResolution
  unfold ModuleInterface.outcome at h
  cases hmisses : i.misses t with
  | nil =>
    rw [hmisses] at h
    cases h
  | cons miss missing => rfl

end Finish

section Attempts

variable (t : ClassTable) {i : ModuleInterface} (hook : LookupHook) {l : Linkage}

lemma resolveWith_of_claimed {state : ModuleState} (h : l.ledger i.name = some state) :
    (resolveWith t i hook l).value = .mk i (.error (.alreadyResolved i.name)) [] [] ∧
      (resolveWith t i hook l).linkage = l := by
  unfold resolveWith
  rw [h]
  exact ⟨rfl, rfl⟩

lemma resolveWith_of_free (h : l.ledger i.name = none) :
    let during := hook.runAll (List.range (i.lookups t).length)
      (l.mark i.name (some .resolving))
    (resolveWith t i hook l).value =
        .mk i (i.outcome t) (i.lookups t) during.value ∧
      (resolveWith t i hook l).linkage = (finishResolution t i during.linkage).linkage := by
  intro during
  unfold resolveWith
  rw [h]
  exact ⟨by rw [← value_finishResolution], rfl⟩

lemma result_resolveWith :
    (resolveWith t i hook l).value.result =
      if l.ledger i.name = none then i.outcome t else .error (.alreadyResolved i.name) := by
  cases hstate : l.ledger i.name with
  | some state =>
    rw [(resolveWith_of_claimed t hook hstate).1, if_neg (by simp)]
    rfl
  | none =>
    rw [(resolveWith_of_free t hook hstate).1, if_pos rfl]
    rfl

end Attempts

/-- The linkage that the resolutions started during the lookups of a module leave, with the name of
the module not claimed. -/
def ForeignModule.afterLookups (t : ClassTable) : ForeignModule → Linkage → Linkage
  | .mk i reentry, l =>
    match l.ledger i.name with
    | some _ => l
    | none =>
      let during := LookupHook.runAll (reentry.hook t) (List.range (i.lookups t).length)
        (l.mark i.name (some .resolving))
      during.linkage.mark i.name none

namespace ForeignModule

variable {t : ClassTable} {i : ModuleInterface} {l : Linkage} (reentry : Reentry)

lemma afterLookups_of_claimed {state : ModuleState} (h : l.ledger i.name = some state) :
    (mk i reentry).afterLookups t l = l := by
  simp only [afterLookups, h]

lemma afterLookups_of_free (h : l.ledger i.name = none) :
    (mk i reentry).afterLookups t l =
      (LookupHook.runAll (reentry.hook t) (List.range (i.lookups t).length)
        (l.mark i.name (some .resolving))).linkage.mark i.name none := by
  simp only [afterLookups, h]

end ForeignModule

theorem Reentry.linkage_hook_of_nil (t : ClassTable) : ∀ (reentry : Reentry) (k : Nat)
    (l : Linkage), (reentry.hook t k l).value = [] → (reentry.hook t k l).linkage = l
  | .none, k, l, _ => by rw [Reentry.hook]
  | .also lookup module rest, k, l, h => by
    rw [Reentry.hook] at h ⊢
    by_cases hlookup : lookup = k
    · rw [if_pos hlookup] at h
      cases h
    · rw [if_neg hlookup] at h ⊢
      exact linkage_hook_of_nil t rest k l h

lemma LookupHook.linkage_runAll_of_nil {hook : LookupHook}
    (hhook : ∀ k l, (hook k l).value = [] → (hook k l).linkage = l) (lookups : List Nat)
    (l : Linkage) (h : (hook.runAll lookups l).value = []) :
    (hook.runAll lookups l).linkage = l := by
  induction lookups generalizing l with
  | nil => rfl
  | cons k ks ih =>
    obtain ⟨hfirst, hothers⟩ := List.append_eq_nil_iff.mp h
    have hsame : (hook k l).linkage = l := hhook k l hfirst
    rw [hsame] at hothers
    change (hook.runAll ks (hook k l).linkage).linkage = l
    rw [hsame]
    exact ih l hothers

lemma length_plan_natives {i : ModuleInterface} {t : ClassTable} (h : i.misses t = []) :
    (i.plan t).natives.length = (t.nativesOf i.name).length := by
  have hnone : failures (i.locatedNatives t) = [] := (List.append_eq_nil_iff.mp h).1
  change (successes (i.locatedNatives t)).length = _
  rw [length_successes hnone, ModuleInterface.locatedNatives, List.length_map]

lemma length_plan_imports {i : ModuleInterface} {t : ClassTable} (h : i.misses t = []) :
    (i.plan t).imports.length = i.imports.length := by
  have hnone : failures (i.locatedImports t) = [] := (List.append_eq_nil_iff.mp h).2
  change (successes (i.locatedImports t)).length = _
  rw [length_successes hnone, ModuleInterface.locatedImports, List.length_map]

/-- The linkage after a module has been bound against a table, compared with the one before. -/
structure ModuleInterface.BoundIn (i : ModuleInterface) (t : ClassTable)
    (before after : Linkage) : Prop where
  /-- Every native method that names the module has the address of its short symbol, or else that
  of its long one. -/
  natives : ∀ cls ∈ t.classes, ∀ index native, cls.natives[index]? = some native →
    native.moduleName = i.name → ∃ address, after.natives ⟨cls.handle, index⟩ = some address ∧
      (i.symbol (Symbol.short cls.fullName native.name) = some address ∨
        i.symbol (Symbol.short cls.fullName native.name) = none ∧
          i.symbol (Symbol.long cls.fullName native.name native.signature) = some address)
  /-- Every slot of the module has the method its request asks for, in the shape it asks for. -/
  imports : ∀ r ∈ i.imports, ∃ slot id method, i.slot r.index = some slot ∧
    after.imports slot = some id ∧ t.findMethod? r.key = some (id, method) ∧
      r.shape = some method.shape
  otherNatives : ∀ id, id ∉ t.nativeSlots i.name → after.natives id = before.natives id
  otherImports : ∀ slot, slot ∉ i.importSlots → after.imports slot = before.imports slot
  /-- The ledger has gained the name of the module. -/
  added : before.ledger i.name = none ∧ after.ledger i.name = some (.resolved i.mapping)
  otherNames : ∀ name, name ≠ i.name → after.ledger name = before.ledger name

lemma ModuleInterface.imports_carryOut_of_outcome {t : ClassTable} {i : ModuleInterface}
    {report : ResolveReport} (hi : i.OwnSlots) (hok : i.outcome t = .ok report) (l : Linkage) :
    ∀ r ∈ i.imports, ∃ slot id method, i.slot r.index = some slot ∧
      (l.carryOut i (i.plan t)).imports slot = some id ∧ t.findMethod? r.key = some (id, method) ∧
        r.shape = some method.shape := by
  obtain ⟨_, himports⟩ := located_of_outcome_eq_ok hok
  intro r hr
  obtain ⟨located, hlocate⟩ := himports r hr
  obtain ⟨slot, hslot⟩ := Option.isSome_iff_exists.mp (hi.assigned r hr)
  have hunique : ∀ r' ∈ i.imports, i.slot r'.index = some slot → r' = r := by
    intro r' hr' hslot'
    exact hi.eq_of_slot_eq hr' hr (hslot'.trans hslot.symm)
  have hwritten := l.imports_carryOut_of_mem hr hlocate hslot hunique
  obtain ⟨_, id, method, hfind, hshape, rfl⟩ := ClassTable.locateImport_eq_ok_iff.mp hlocate
  exact ⟨slot, id, method, hslot, hwritten, hfind, hshape⟩

lemma ModuleInterface.boundIn_carryOut {t : ClassTable} {i : ModuleInterface}
    {report : ResolveReport} (hdistinct : t.NativesDistinct i.name) (hi : i.OwnSlots)
    (hok : i.outcome t = .ok report) (l : Linkage) :
    i.BoundIn t (l.mark i.name none)
      ((l.carryOut i (i.plan t)).mark i.name (some (.resolved i.mapping))) := by
  obtain ⟨hnatives, _⟩ := located_of_outcome_eq_ok hok
  refine ⟨?_, ?_, ?_, ?_, ?_, ?_⟩
  · intro cls hcls index native hget hname
    have hd : (⟨cls, ⟨cls.handle, index⟩, native⟩ : DeclaredNative) ∈ t.nativesOf i.name :=
      hname ▸ ClassTable.mk_mem_nativesOf hcls hget
    obtain ⟨address, haddress⟩ := hnatives _ hd
    have hexported := nativeAddress?_eq_some_iff.mp haddress
    refine ⟨address, ?_, hexported⟩
    rw [Linkage.natives_mark]
    exact l.natives_carryOut_of_mem hd haddress (hdistinct _ hd)
  · exact imports_carryOut_of_outcome hi hok l
  · intro id hid
    rw [Linkage.natives_mark, Linkage.natives_mark]
    apply l.natives_carryOut_of_forall_ne
    intro d hd heq
    exact hid (List.mem_toFinset.mpr (List.mem_map.mpr ⟨d, hd, heq⟩))
  · intro slot hslot
    rw [Linkage.imports_mark, Linkage.imports_mark]
    apply l.imports_carryOut_of_forall_ne
    intro r hr heq
    exact hslot (mem_importSlots.mpr ⟨r, hr, heq⟩)
  · simp
  · intro name hname
    simp [hname]

namespace ForeignModule

variable {t : ClassTable} {module : ForeignModule} {l : Linkage}

lemma result_resolve : (module.resolve t l).value.result =
    if l.ledger module.interface.name = none then module.interface.outcome t
    else .error (.alreadyResolved module.interface.name) := by
  obtain ⟨i, reentry⟩ := module
  rw [resolve]
  exact result_resolveWith t _

lemma afterLookups_of_nil (h : (module.resolve t l).value.nested = []) :
    module.afterLookups t l = l := by
  obtain ⟨i, reentry⟩ := module
  cases hstate : l.ledger i.name with
  | some state => exact afterLookups_of_claimed reentry hstate
  | none =>
    rw [resolve, (resolveWith_of_free t _ hstate).1] at h
    have hsame := LookupHook.linkage_runAll_of_nil (reentry.linkage_hook_of_nil t) _ _ h
    rw [afterLookups_of_free reentry hstate, hsame]
    exact l.mark_mark_none i.name _ hstate

lemma linkage_resolve_of_error {e : ResolveError}
    (h : (module.resolve t l).value.result = .error e) :
    (module.resolve t l).linkage = module.afterLookups t l := by
  obtain ⟨i, reentry⟩ := module
  rw [result_resolve, interface] at h
  rw [resolve]
  cases hstate : l.ledger i.name with
  | some state =>
    rw [afterLookups_of_claimed reentry hstate]
    exact (resolveWith_of_claimed t _ hstate).2
  | none =>
    rw [if_pos hstate] at h
    rw [afterLookups_of_free reentry hstate, (resolveWith_of_free t _ hstate).2,
      linkage_finishResolution_of_error h]

lemma free_and_outcome_of_ok {report : ResolveReport}
    (h : (module.resolve t l).value.result = .ok report) :
    l.ledger module.interface.name = none ∧ module.interface.outcome t = .ok report := by
  rw [result_resolve] at h
  by_cases hfree : l.ledger module.interface.name = none
  · rw [if_pos hfree] at h
    exact ⟨hfree, h⟩
  · rw [if_neg hfree] at h
    cases h

lemma exists_linkage_resolve_of_ok {report : ResolveReport}
    (h : (module.resolve t l).value.result = .ok report) :
    ∃ during : Linkage, module.afterLookups t l = during.mark module.interface.name none ∧
      (module.resolve t l).linkage =
        (during.carryOut module.interface (module.interface.plan t)).mark module.interface.name
          (some (.resolved module.interface.mapping)) := by
  obtain ⟨hfree, hok⟩ := free_and_outcome_of_ok h
  obtain ⟨i, reentry⟩ := module
  rw [interface] at hfree hok ⊢
  rw [afterLookups_of_free reentry hfree, resolve, (resolveWith_of_free t _ hfree).2,
    linkage_finishResolution_of_ok hok]
  exact ⟨_, rfl, rfl⟩

lemma boundIn_resolve_of_ok {report : ResolveReport} (ht : t.DistinctHandles)
    (hi : module.interface.OwnSlots) (h : (module.resolve t l).value.result = .ok report) :
    module.interface.BoundIn t (module.afterLookups t l) (module.resolve t l).linkage ∧
      module.interface.outcome t = .ok report := by
  obtain ⟨_, hok⟩ := free_and_outcome_of_ok h
  obtain ⟨during, hbefore, hafter⟩ := exists_linkage_resolve_of_ok h
  refine ⟨?_, hok⟩
  rw [hbefore, hafter]
  exact ModuleInterface.boundIn_carryOut (ht.nativesDistinct _) hi hok _

lemma imports_resolve_of_ok {report : ResolveReport}
    (hi : module.interface.OwnSlots) (h : (module.resolve t l).value.result = .ok report) :
    (module.resolve t l).linkage.ledger module.interface.name =
        some (.resolved module.interface.mapping) ∧
      ∀ r ∈ module.interface.imports, ∃ slot id method, module.interface.slot r.index = some slot ∧
        (module.resolve t l).linkage.imports slot = some id ∧
          t.findMethod? r.key = some (id, method) ∧ r.shape = some method.shape := by
  obtain ⟨_, hok⟩ := free_and_outcome_of_ok h
  obtain ⟨during, _, hafter⟩ := exists_linkage_resolve_of_ok h
  rw [hafter]
  exact ⟨if_pos rfl, ModuleInterface.imports_carryOut_of_outcome hi hok during⟩

/-- Resolution is all or nothing. After an error the linkage is what the lookups left; after a
success every native method and import slot of the module is bound, everything else is as the
lookups left it, and the report counts the slots. Lookups that start no resolutions leave
everything as it was. -/
theorem resolve_all_or_nothing (t : ClassTable) (module : ForeignModule) (l : Linkage)
    (ht : t.DistinctHandles) (hi : module.interface.OwnSlots) :
    let i := module.interface
    let before := module.afterLookups t l
    let ended := module.resolve t l
    (ended.value.nested = [] → before = l) ∧
      (∀ e, ended.value.result = .error e → ended.linkage = before) ∧
      ∀ report, ended.value.result = .ok report → i.BoundIn t before ended.linkage ∧
        report = ⟨i.name, (t.nativeSlots i.name).card, i.importSlots.card⟩ := by
  intro i before ended
  refine ⟨afterLookups_of_nil, fun e h => linkage_resolve_of_error h, ?_⟩
  intro report h
  obtain ⟨hbound, hok⟩ := boundIn_resolve_of_ok ht hi h
  refine ⟨hbound, ?_⟩
  obtain ⟨hmisses, rfl⟩ := ModuleInterface.outcome_eq_ok_iff.mp hok
  rw [BindingPlan.report, length_plan_natives hmisses, length_plan_imports hmisses,
    ht.card_nativeSlots, hi.card_importSlots]

end ForeignModule

namespace Sample

/-- `it/Tally` with native methods of two modules. -/
def steppingClass : Class :=
  { tallyClass ⟨0x40⟩ with natives := [⟨"step", "()V", "engine"⟩, ⟨"halt", "()V", "brakes"⟩] }

def steppingTable : ClassTable := (ClassRegistry.empty.register steppingClass).toTable

/-- The first of the modules, which exports a short symbol and asks for one method. -/
def engine : ModuleInterface where
  name := "engine"
  symbol name := if name = "Java_it_Tally_step" then some 0x2000 else none
  imports := [⟨0, "it", "Tally", "tally", "(III)I", some .static, none⟩]
  slot index := if index = 0 then some ⟨7, 0⟩ else none
  mapping := some 3

end Sample

namespace ForeignModule

theorem resolve_engine_binds :
    let ended := (ForeignModule.mk Sample.engine .none).resolve Sample.steppingTable .empty
    Sample.steppingTable.DistinctHandles ∧ Sample.engine.OwnSlots ∧
      ended.value.result = .ok ⟨"engine", 1, 1⟩ ∧
      Sample.engine.BoundIn Sample.steppingTable .empty ended.linkage ∧
      ended.linkage.natives ⟨⟨0x40⟩, 0⟩ = some 0x2000 := by
  intro ended
  have ht : Sample.steppingTable.DistinctHandles := by
    unfold ClassTable.DistinctHandles
    decide
  have hi : Sample.engine.OwnSlots := ⟨by decide, by decide⟩
  have hok : ended.value.result = .ok ⟨"engine", 1, 1⟩ := by rfl
  obtain ⟨hbefore, _, hsuccess⟩ :=
    resolve_all_or_nothing Sample.steppingTable (.mk Sample.engine .none) .empty ht hi
  obtain ⟨hbound, _⟩ := hsuccess _ hok
  rw [hbefore rfl] at hbound
  refine ⟨ht, hi, hok, hbound, ?_⟩
  obtain ⟨address, haddress, hexport | ⟨hnone, _⟩⟩ :=
    hbound.natives Sample.steppingClass (List.mem_singleton.mpr rfl) 0 _ rfl rfl
  · have hlocated : some address = some 0x2000 := hexport.symm.trans (by decide)
    exact haddress.trans hlocated
  · exact absurd hnone (by decide)

end ForeignModule

end NativeBridge
