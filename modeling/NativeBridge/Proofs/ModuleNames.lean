import NativeBridge.Proofs.LossyDecoding
import NativeBridge.Proofs.NestedResolution

/-!
# Module names as bytes

A loader names its module by bytes. The bytes are shown as text before the name is claimed and
compared with those that native methods refer to, and showing them forgets how broken bytes differ.
So two modules are taken for one exactly when their names read alike, and a module is given the
native methods of every name that reads like its own. Names that are UTF-8 are told apart.
-/

namespace NativeBridge

namespace ForeignModule

variable {t : ClassTable} {module : ForeignModule} {l : Linkage}

lemma exists_alreadyResolved_iff :
    (∃ name, (module.resolve t l).value.result = .error (.alreadyResolved name)) ↔
      l.ledger module.interface.name ≠ none := by
  rw [result_resolve]
  by_cases hfree : l.ledger module.interface.name = none
  · rw [if_pos hfree]
    refine iff_of_false ?_ (not_not_intro hfree)
    rintro ⟨name, herror⟩
    obtain ⟨missing, hmissing⟩ := ModuleInterface.exists_missing_of_outcome_eq_error herror
    cases hmissing
  · rw [if_neg hfree]
    exact iff_of_true ⟨_, rfl⟩ hfree

section Resolved

variable {report : ResolveReport}

lemma ledger_resolve_of_ok (h : (module.resolve t l).value.result = .ok report) (name : String) :
    (module.resolve t l).linkage.ledger name =
      if name = module.interface.name then some (.resolved module.interface.mapping)
      else (module.afterLookups t l).ledger name := by
  obtain ⟨during, hbefore, hafter⟩ := exists_linkage_resolve_of_ok h
  rw [hbefore, hafter]
  by_cases hname : name = module.interface.name
  · simp [hname]
  · simp [hname]

lemma natives_resolve_of_notMem (h : (module.resolve t l).value.result = .ok report)
    {id : NativeId} (hid : id ∉ t.nativeSlots module.interface.name) :
    (module.resolve t l).linkage.natives id = (module.afterLookups t l).natives id := by
  obtain ⟨during, hbefore, hafter⟩ := exists_linkage_resolve_of_ok h
  rw [hbefore, hafter, Linkage.natives_mark, Linkage.natives_mark]
  apply Linkage.natives_carryOut_of_forall_ne
  rintro d hd rfl
  exact hid (List.mem_toFinset.mpr (List.mem_map_of_mem hd))

lemma isSome_natives_resolve_of_mem (h : (module.resolve t l).value.result = .ok report)
    {id : NativeId} (hid : id ∈ t.nativeSlots module.interface.name) :
    ((module.resolve t l).linkage.natives id).isSome := by
  obtain ⟨_, hok⟩ := free_and_outcome_of_ok h
  obtain ⟨during, _, hafter⟩ := exists_linkage_resolve_of_ok h
  obtain ⟨d, hd, rfl⟩ := List.mem_map.mp (List.mem_toFinset.mp hid)
  obtain ⟨address, haddress⟩ := (ModuleInterface.located_of_outcome_eq_ok hok).1 d hd
  have hplanned : ∃ n ∈ (module.interface.plan t).natives, some n.id = some d.id :=
    ⟨_, ModuleInterface.mem_plan_natives.mpr ⟨d, hd, address, haddress, rfl⟩, rfl⟩
  obtain ⟨n, _, _, hlast⟩ := exists_foldl_write_eq (fun n : LocatedNative => some n.id)
    Linkage.natives_bindNative _ d.id hplanned
  rw [hafter, Linkage.natives_mark, Linkage.carryOut, Linkage.natives_bindImports]
  exact Option.isSome_iff_exists.mpr ⟨n.address, hlast _⟩

end Resolved

end ForeignModule

lemma resolveForLoader_eq_zero {t : Except RegistryError ClassTable} {module : ForeignModule}
    {l : Linkage} (h : (resolveForLoader t (some module) l).value.1 = 0) :
    ∃ table report, t = .ok table ∧ (module.resolve table l).value.result = .ok report ∧
      (resolveForLoader t (some module) l).linkage = (module.resolve table l).linkage := by
  cases t with
  | error e => cases h
  | ok table =>
    simp only [resolveForLoader, ForeignModule.resolveAgainst] at h ⊢
    cases hresult : (module.resolve table l).value.result with
    | error e =>
      rw [hresult] at h
      cases h
    | ok report => exact ⟨table, report, rfl, hresult, rfl⟩

namespace ModuleDescriptor

def nameBytes (d : ModuleDescriptor) : List UInt8 := d.name.getD []

lemma toList_nameText (d : ModuleDescriptor) :
    d.nameText.toList = Utf8.decodeLossy d.nameBytes := by
  unfold nameText nameBytes
  cases d.name with
  | none => simp [Utf8.decodeLossy, Utf8.pieces]
  | some bytes => exact String.toList_ofList

lemma nameText_eq_iff {d d' : ModuleDescriptor} :
    d.nameText = d'.nameText ↔ Utf8.ReadAlike d.nameBytes d'.nameBytes := by
  rw [← String.toList_inj, toList_nameText, toList_nameText, Utf8.decodeLossy_eq_iff]

lemma eq_nameText_iff {d : ModuleDescriptor} {name : String} :
    name = d.nameText ↔ Utf8.ReadAlike (Utf8.encode name.toList) d.nameBytes := by
  rw [← Utf8.decodeLossy_eq_iff, Utf8.decodeLossy_encode, ← String.toList_inj, toList_nameText]

/-- A module that a loader has resolved stands in the way of another exactly when their names read
alike, whatever else was resolved before, and has been given the native methods of the names that
read like its own and no others. Names that are UTF-8 read alike only if they are equal, and so does
any name with one that is UTF-8 and holds no replacement character. -/
theorem resolved_names_confused_iff (d d' : ModuleDescriptor) (reentry reentry' : Reentry)
    (t : Except RegistryError ClassTable) (t' : ClassTable) (l : Linkage)
    (hresolved : (resolveForLoader t (some (.mk d.interface reentry)) l).value.1 = 0) :
    let module := ForeignModule.mk d.interface reentry
    let after := (resolveForLoader t (some module) l).linkage
    let second := (ForeignModule.mk d'.interface reentry').resolve t' after
    ∃ table, t = .ok table ∧
      let before := module.afterLookups table l
      (reentry = .none → before = l) ∧
      ((∃ name, second.value.result = .error (.alreadyResolved name)) ↔
        before.ledger d'.nameText ≠ none ∨ Utf8.ReadAlike d.nameBytes d'.nameBytes) ∧
      (∀ cls ∈ table.classes, ∀ index native, cls.natives[index]? = some native →
        Utf8.ReadAlike (Utf8.encode native.moduleName.toList) d.nameBytes →
          (after.natives ⟨cls.handle, index⟩).isSome) ∧
      (∀ id, after.natives id ≠ before.natives id → ∃ cls ∈ table.classes, cls.handle = id.owner ∧
        ∃ native, cls.natives[id.index]? = some native ∧
          Utf8.ReadAlike (Utf8.encode native.moduleName.toList) d.nameBytes) ∧
      ∀ text bytes, Utf8.ReadAlike (Utf8.encode text) bytes →
        (∃ text', Utf8.encode text' = bytes) ∨ Utf8.replacement ∉ text →
          Utf8.encode text = bytes := by
  intro module after second
  obtain ⟨table, report, htable, hok, hlinkage⟩ := resolveForLoader_eq_zero hresolved
  have hafter : after = (module.resolve table l).linkage := hlinkage
  refine ⟨table, htable, ?_, ?_, ?_, ?_, fun text bytes h => h.encode_eq⟩
  · rintro rfl
    exact ForeignModule.afterLookups_of_nil ForeignModule.nested_resolve_of_plain
  · rw [ForeignModule.exists_alreadyResolved_iff, ← nameText_eq_iff, hafter,
      ForeignModule.ledger_resolve_of_ok hok]
    change (if d'.nameText = d.nameText then _ else _) ≠ none ↔ _
    by_cases hname : d'.nameText = d.nameText
    · rw [if_pos hname]
      exact iff_of_true (Option.some_ne_none _) (.inr hname.symm)
    · rw [if_neg hname]
      exact (or_iff_left (Ne.symm hname)).symm
  · intro cls hcls index native hget hname
    have hslot : (⟨cls.handle, index⟩ : NativeId) ∈ table.nativeSlots d.nameText :=
      ClassTable.mem_nativeSlots.mpr ⟨cls, hcls, rfl, native, hget, eq_nameText_iff.mpr hname⟩
    rw [hafter]
    exact ForeignModule.isSome_natives_resolve_of_mem hok hslot
  · intro id hchanged
    have hslot : id ∈ table.nativeSlots d.nameText := by
      by_contra hother
      rw [hafter] at hchanged
      exact hchanged (ForeignModule.natives_resolve_of_notMem hok hother)
    obtain ⟨cls, hcls, howner, native, hget, hname⟩ := ClassTable.mem_nativeSlots.mp hslot
    exact ⟨cls, hcls, howner, native, hget, eq_nameText_iff.mp hname⟩

end ModuleDescriptor

namespace Sample

/-- A table with a native method of a module that is named with the replacement character. -/
def lensTable : ClassTable :=
  let lens := { Builtin.bare "demo" "Lens" 8 ⟨0x40⟩ with natives := [⟨"focus", "()V", "l\ufffd"⟩] }
  (ClassRegistry.empty.register lens).toTable

def lens (name : List UInt8) : ModuleDescriptor where
  name := some name
  symbol symbol := if symbol = "Java_demo_Lens_focus" then some 0x3000 else none
  imports := none

end Sample

namespace ModuleDescriptor

lemma interface_lens_of_shown {name : List UInt8} {text : List Char}
    (h : Utf8.decodeLossy name = text) : (Sample.lens name).interface =
      ⟨String.ofList text, (Sample.lens name).symbol, [], fun _ => none, none⟩ := by
  rw [← h]
  rfl

/-- The first of two names is UTF-8. Its module is resolved, and the other, which begins like it and
is broken behind, is not refused for that. -/
theorem plain_name_not_confused :
    let plain := Sample.lens [0x6c]
    let broken := Sample.lens [0x6c, 0xff]
    let ended :=
      resolveForLoader (.ok Sample.lensTable) (some (.mk plain.interface .none)) .empty
    ended.value.1 = 0 ∧ ended.linkage.isResolved "l" ∧
      ¬∃ name, ((ForeignModule.mk broken.interface .none).resolve Sample.lensTable
        ended.linkage).value.result = .error (.alreadyResolved name) := by
  intro plain broken ended
  have hplain : plain.interface = ⟨"l", plain.symbol, [], fun _ => none, none⟩ :=
    interface_lens_of_shown (Utf8.decodeLossy_encode ['l'])
  have hresolved : ended.value.1 = 0 := by
    simp only [ended, hplain]
    rfl
  refine ⟨hresolved, ?_, ?_⟩
  · simp only [ended, hplain]
    rfl
  · obtain ⟨table, _, hbefore, hiff, _, _, hequal⟩ := resolved_names_confused_iff plain broken .none
      .none (.ok Sample.lensTable) Sample.lensTable .empty hresolved
    intro hrefused
    obtain hclaimed | halike := hiff.mp hrefused
    · rw [hbefore rfl] at hclaimed
      exact hclaimed rfl
    · have hbytes := hequal ['l'] broken.nameBytes halike (.inr (by decide))
      exact absurd hbytes (by decide)

/-- Two names that differ in a broken byte. The first module is resolved and given a native method
that refers to neither name, and keeps the second from being resolved as it would be on its own. -/
theorem broken_names_confused :
    let first := Sample.lens [0x6c, 0xff]
    let second := Sample.lens [0x6c, 0xfe]
    let resolve (l : Linkage) :=
      ((ForeignModule.mk second.interface .none).resolve Sample.lensTable l).value.result
    let ended :=
      resolveForLoader (.ok Sample.lensTable) (some (.mk first.interface .none)) .empty
    first.nameBytes ≠ second.nameBytes ∧ ended.value.1 = 0 ∧
      resolve .empty = .ok ⟨"l\ufffd", 1, 0⟩ ∧
      resolve ended.linkage = .error (.alreadyResolved "l\ufffd") ∧
      ended.linkage.natives ⟨⟨0x40⟩, 0⟩ = some 0x3000 ∧
      Utf8.encode "l\ufffd".toList ≠ first.nameBytes := by
  intro first second resolve ended
  have hshown : ∀ byte, byte = 0xff ∨ byte = 0xfe →
      Utf8.decodeLossy [0x6c, byte] = ['l', Utf8.replacement] := by
    rintro byte (rfl | rfl) <;>
      simp [Utf8.decodeLossy, Utf8.pieces, Utf8.readPiece, Utf8.Piece.shown]
  have hfirst : first.interface = ⟨"l\ufffd", first.symbol, [], fun _ => none, none⟩ :=
    interface_lens_of_shown (hshown 0xff (.inl rfl))
  have hsecond : second.interface = ⟨"l\ufffd", second.symbol, [], fun _ => none, none⟩ :=
    interface_lens_of_shown (hshown 0xfe (.inr rfl))
  simp only [ended, resolve, hfirst, hsecond]
  exact ⟨by decide, by rfl, by rfl, by rfl, by rfl, by decide⟩

end ModuleDescriptor

end NativeBridge
