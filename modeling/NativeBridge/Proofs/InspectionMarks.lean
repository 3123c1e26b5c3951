import NativeBridge.Linking.Inspection
import NativeBridge.Proofs.ResolutionOutcome

/-!
# What inspection foretells

An inspection marks every request and every native method of a module as found or missing, and so
does the location that precedes binding. The two agree on native methods: a mark names the symbol
whose address is bound. They agree on requests that are sound and declare the shape of the method
they name. An inspection looks at neither condition, so a module that it shows without a missing
member is resolved exactly when its requests meet them.
-/

namespace NativeBridge

def ShowsOk (line : String) : Prop := "    [ok] ".toList <+: line.toList

lemma showsOk_markText_iff (found : Bool) (rest : String) :
    ShowsOk ("    " ++ markText found ++ " " ++ rest) ↔ found = true := by
  unfold ShowsOk
  cases found with
  | false =>
    rw [String.toList_append]
    simp [markText]
  | true =>
    rw [String.toList_append]
    exact ⟨fun _ => rfl, fun _ => List.prefix_append _ _⟩

lemma ImportMark.showsOk_line_iff (mark : ImportMark) : ShowsOk mark.line ↔ mark.found = true := by
  have hmember := showsOk_markText_iff mark.found
    (Text.column 10 ((mark.request.shape.map CallShape.text).getD "?") ++
      (" " ++ mark.request.key.text))
  simp only [String.append_assoc] at hmember
  simp only [line, String.append_assoc]
  exact hmember

lemma NativeMark.showsOk_line_iff (mark : NativeMark) :
    ShowsOk mark.line ↔ ∃ symbol, mark.symbol = some symbol := by
  unfold line
  rw [showsOk_markText_iff, Option.isSome_iff_exists]

lemma NativeMark.line_of_symbol {mark : NativeMark} {symbol : String}
    (h : mark.symbol = some symbol) : mark.line = "    [ok] " ++ symbol := by
  unfold line
  rw [h]
  rfl

/-- Every request and every native method is shown as found. -/
structure Inspection.ShowsAllOk (inspection : Inspection) : Prop where
  imports : ∀ mark ∈ inspection.imports, ShowsOk mark.line
  natives : ∀ mark ∈ inspection.natives, ShowsOk mark.line

/-- The texts of the request are valid, and it declares the shape of the method that the table has
under its key, if there is one. -/
structure ClassTable.Suits (t : ClassTable) (r : ImportRequest) : Prop where
  wellFormed : r.malformed = none
  shape : ∀ id method, t.findMethod? r.key = some (id, method) → r.shape = some method.shape

lemma ClassTable.exists_locateImport_iff {t : ClassTable} {r : ImportRequest} :
    (∃ located, t.locateImport r = .ok located) ↔ (t.findMethod? r.key).isSome ∧ t.Suits r := by
  simp only [ClassTable.locateImport_eq_ok_iff]
  constructor
  · rintro ⟨_, hwell, id, method, hfind, hshape, _⟩
    refine ⟨by rw [hfind]; rfl, hwell, ?_⟩
    intro id' method' hfind'
    rw [hfind] at hfind'
    obtain ⟨rfl, rfl⟩ := Prod.mk.inj (Option.some.inj hfind')
    exact hshape
  · rintro ⟨hfound, hsuits⟩
    obtain ⟨⟨id, method⟩, hfind⟩ := Option.isSome_iff_exists.mp hfound
    exact ⟨_, hsuits.wellFormed, id, method, hfind, hsuits.shape id method hfind, rfl⟩

namespace ModuleInterface

variable {i : ModuleInterface} {t : ClassTable}

lemma nativeAddress?_eq_bind (d : DeclaredNative) :
    i.nativeAddress? d = (i.exportedSymbol? d).bind i.symbol := by
  have hcandidates : d.cls.symbolCandidates d.method = [d.shortSymbol, d.longSymbol] := rfl
  unfold nativeAddress? exportedSymbol?
  rw [hcandidates]
  cases hshort : i.symbol d.shortSymbol with
  | some address => simp [hshort]
  | none =>
    cases hlong : i.symbol d.longSymbol with
    | some address => simp [hshort, hlong]
    | none => simp [hshort, hlong]

lemma isSome_symbol_of_exportedSymbol? {d : DeclaredNative} {symbol : String}
    (h : i.exportedSymbol? d = some symbol) : (i.symbol symbol).isSome := by
  obtain ⟨hexported, _⟩ := List.find?_eq_some_iff_append.mp h
  exact hexported

lemma exists_nativeAddress?_iff {d : DeclaredNative} :
    (∃ address, i.nativeAddress? d = some address) ↔
      ∃ symbol, i.exportedSymbol? d = some symbol := by
  rw [nativeAddress?_eq_bind]
  constructor
  · rintro ⟨address, haddress⟩
    obtain ⟨symbol, hsymbol, _⟩ := Option.bind_eq_some_iff.mp haddress
    exact ⟨symbol, hsymbol⟩
  · rintro ⟨symbol, hsymbol⟩
    obtain ⟨address, haddress⟩ :=
      Option.isSome_iff_exists.mp (isSome_symbol_of_exportedSymbol? hsymbol)
    exact ⟨address, Option.bind_eq_some_iff.mpr ⟨symbol, hsymbol, haddress⟩⟩

lemma exists_locateNative_iff {d : DeclaredNative} :
    (∃ located, i.locateNative d = .ok located) ↔ ∃ address, i.nativeAddress? d = some address := by
  simp only [locateNative_eq_ok_iff]
  constructor
  · rintro ⟨_, address, haddress, _⟩
    exact ⟨address, haddress⟩
  · rintro ⟨address, haddress⟩
    exact ⟨_, address, haddress, rfl⟩

lemma mem_inspect_natives {mark : NativeMark} :
    mark ∈ (i.inspect t).natives ↔
      mark.native ∈ t.nativesOf i.name ∧ mark.symbol = i.exportedSymbol? mark.native := by
  change mark ∈ (t.nativesOf i.name).map _ ↔ _
  rw [List.mem_map]
  constructor
  · rintro ⟨d, hd, rfl⟩
    exact ⟨hd, rfl⟩
  · rintro ⟨hd, hsymbol⟩
    exact ⟨mark.native, hd, by rw [← hsymbol]⟩

lemma showsAllOk_inspect_iff :
    (i.inspect t).ShowsAllOk ↔ (∀ r ∈ i.imports, (t.findMethod? r.key).isSome) ∧
      ∀ d ∈ t.nativesOf i.name, ∃ symbol, i.exportedSymbol? d = some symbol := by
  have himports : (∀ mark ∈ (i.inspect t).imports, ShowsOk mark.line) ↔
      ∀ r ∈ i.imports, (t.findMethod? r.key).isSome := by
    change (∀ mark : ImportMark, mark ∈ i.imports.map _ → ShowsOk mark.line) ↔ _
    rw [List.forall_mem_map]
    exact forall₂_congr fun r _ => ImportMark.showsOk_line_iff _
  have hnatives : (∀ mark ∈ (i.inspect t).natives, ShowsOk mark.line) ↔
      ∀ d ∈ t.nativesOf i.name, ∃ symbol, i.exportedSymbol? d = some symbol := by
    change (∀ mark : NativeMark, mark ∈ (t.nativesOf i.name).map _ → ShowsOk mark.line) ↔ _
    rw [List.forall_mem_map]
    exact forall₂_congr fun d _ => NativeMark.showsOk_line_iff _
  rw [← himports, ← hnatives]
  exact ⟨fun h => ⟨h.imports, h.natives⟩, fun h => ⟨h.1, h.2⟩⟩

lemma misses_eq_nil_iff_showsAllOk :
    i.misses t = [] ↔ (i.inspect t).ShowsAllOk ∧ ∀ r ∈ i.imports, t.Suits r := by
  simp only [misses_eq_nil_iff, showsAllOk_inspect_iff, exists_nativeAddress?_iff,
    ClassTable.exists_locateImport_iff]
  constructor
  · rintro ⟨hnatives, himports⟩
    exact ⟨⟨fun r hr => (himports r hr).1, hnatives⟩, fun r hr => (himports r hr).2⟩
  · rintro ⟨⟨hfound, hnatives⟩, hsuits⟩
    exact ⟨hnatives, fun r hr => ⟨hfound r hr, hsuits r hr⟩⟩

lemma exists_outcome_eq_ok_iff : (∃ report, i.outcome t = .ok report) ↔ i.misses t = [] := by
  simp only [outcome_eq_ok_iff]
  constructor
  · rintro ⟨_, hmisses, _⟩
    exact hmisses
  · intro hmisses
    exact ⟨_, hmisses, rfl⟩

end ModuleInterface

namespace ForeignModule

variable {t : ClassTable} {module : ForeignModule} {l : Linkage}

lemma natives_resolve_of_ok {report : ResolveReport} (ht : t.DistinctHandles)
    (h : (module.resolve t l).value.result = .ok report) {d : DeclaredNative}
    (hd : d ∈ t.nativesOf module.interface.name) :
    (module.resolve t l).linkage.natives d.id = module.interface.nativeAddress? d := by
  obtain ⟨_, hok⟩ := free_and_outcome_of_ok h
  obtain ⟨during, _, hafter⟩ := exists_linkage_resolve_of_ok h
  obtain ⟨address, haddress⟩ := (ModuleInterface.located_of_outcome_eq_ok hok).1 d hd
  rw [hafter, Linkage.natives_mark, haddress]
  exact during.natives_carryOut_of_mem hd haddress (ht.nativesDistinct _ d hd)

/-- A module of a free name is resolved exactly when its inspection shows every member as found and
every request suits the table. A native method is shown as found exactly when it is located, and by
the symbol whose address a successful resolution binds; a request is located exactly when it is
shown as found and suits the table. -/
theorem resolves_iff_showsAllOk (t : ClassTable) (module : ForeignModule) (l : Linkage)
    (hfree : l.ledger module.interface.name = none) (ht : t.DistinctHandles) :
    let i := module.interface
    let ended := module.resolve t l
    ((∃ report, ended.value.result = .ok report) ↔
      (i.inspect t).ShowsAllOk ∧ ∀ r ∈ i.imports, t.Suits r) ∧
    (∀ mark ∈ (i.inspect t).imports, (∃ located, t.locateImport mark.request = .ok located) ↔
      ShowsOk mark.line ∧ t.Suits mark.request) ∧
    (∀ mark ∈ (i.inspect t).natives, (∃ located, i.locateNative mark.native = .ok located) ↔
      ShowsOk mark.line) ∧
    ∀ mark ∈ (i.inspect t).natives, ShowsOk mark.line → ∃ symbol address,
      mark.line = "    [ok] " ++ symbol ∧ i.symbol symbol = some address ∧
        ∀ report, ended.value.result = .ok report →
          ended.linkage.natives mark.native.id = some address := by
  intro i ended
  refine ⟨?_, ?_, ?_, ?_⟩
  · rw [← ModuleInterface.misses_eq_nil_iff_showsAllOk,
      ← ModuleInterface.exists_outcome_eq_ok_iff, result_resolve, if_pos hfree]
  · intro mark hmark
    obtain ⟨r, _, rfl⟩ := List.mem_map.mp hmark
    rw [ClassTable.exists_locateImport_iff, ImportMark.showsOk_line_iff]
  · intro mark hmark
    obtain ⟨_, hexported⟩ := ModuleInterface.mem_inspect_natives.mp hmark
    rw [NativeMark.showsOk_line_iff, hexported, ← ModuleInterface.exists_nativeAddress?_iff]
    exact ModuleInterface.exists_locateNative_iff
  · intro mark hmark hok
    obtain ⟨hd, hexported⟩ := ModuleInterface.mem_inspect_natives.mp hmark
    obtain ⟨symbol, hsymbol⟩ := mark.showsOk_line_iff.mp hok
    have hexports : i.exportedSymbol? mark.native = some symbol := hexported ▸ hsymbol
    obtain ⟨address, haddress⟩ :=
      Option.isSome_iff_exists.mp (ModuleInterface.isSome_symbol_of_exportedSymbol? hexports)
    refine ⟨symbol, address, NativeMark.line_of_symbol hsymbol, haddress, ?_⟩
    intro report hreport
    rw [natives_resolve_of_ok ht hreport hd, ModuleInterface.nativeAddress?_eq_bind, hexports]
    exact haddress

theorem engine_shown_and_resolved :
    let ended := (ForeignModule.mk Sample.engine .none).resolve Sample.steppingTable .empty
    (Sample.engine.inspect Sample.steppingTable).lines =
        ["Module: engine", "Imports (1):", "    [ok] static     it/Tally.tally(III)I", "Natives:",
          "    [ok] Java_it_Tally_step"] ∧
      (Sample.engine.inspect Sample.steppingTable).ShowsAllOk ∧
      (∀ r ∈ Sample.engine.imports, Sample.steppingTable.Suits r) ∧
      ended.linkage.natives ⟨⟨0x40⟩, 0⟩ = some 0x2000 := by
  intro ended
  have ht : Sample.steppingTable.DistinctHandles := by
    unfold ClassTable.DistinctHandles
    decide
  have hok : ended.value.result = .ok ⟨"engine", 1, 1⟩ := by rfl
  obtain ⟨hiff, _, _, hbound⟩ :=
    resolves_iff_showsAllOk Sample.steppingTable (.mk Sample.engine .none) .empty rfl ht
  obtain ⟨hshown, hsuits⟩ := hiff.mp ⟨_, hok⟩
  refine ⟨by rfl, hshown, hsuits, ?_⟩
  obtain ⟨symbol, address, _, haddress, hnatives⟩ :=
    hbound _ (List.mem_singleton.mpr rfl) (hshown.natives _ (List.mem_singleton.mpr rfl))
  -- The module exports one symbol, so the address shown can only be that of this symbol.
  have hexport : (if symbol = "Java_it_Tally_step" then some 0x2000 else none) = some address :=
    haddress
  split at hexport
  · exact (hnatives _ hok).trans hexport.symm
  · cases hexport

end ForeignModule

namespace Sample

/-- A library whose entries all name the method of `it/Tally`: one declares another shape, one an
unknown shape, and one has a path that is not UTF-8 in front of the full name. -/
def misdeclaringLibrary : Library where
  name := "tally.so"
  path := "tally.so"
  file.symbol _ := none
  file.mapping := 1
  file.importTable := some [
    ⟨.ofText "it", .ofText "Tally", .ofText "tally", .ofText "(III)I", 0, ⟨1, 0⟩⟩,
    ⟨.ofText "it", .ofText "Tally", .ofText "tally", .ofText "(III)I", 7, ⟨1, 1⟩⟩,
    ⟨some [0xff], .ofText "it/Tally", .ofText "tally", .ofText "(III)I", 1, ⟨1, 2⟩⟩]

end Sample

namespace ForeignModule

/-- Every member of the library is shown as found, and not one of its requests is located. -/
theorem misdeclaring_shown_unresolved :
    let t := Sample.steppingTable
    let library := Sample.misdeclaringLibrary
    let key : MemberKey := ⟨"it", "Tally", "tally", "(III)I"⟩
    (library.interface.inspect t).ShowsAllOk ∧
      Linkage.empty.ledger library.name = none ∧
      (library.toModule.resolve t .empty).value.result = .error (.unresolved "tally.so"
        [.otherShape key .virtual .static, .unknownShape key, .malformed 2 "classpath"]) := by
  intro t library key
  refine ⟨?_, rfl, by decide +kernel⟩
  rw [ModuleInterface.showsAllOk_inspect_iff]
  constructor
  · decide +kernel
  · intro d hd
    cases hd

end ForeignModule

end NativeBridge
