import Mathlib.Data.Finset.Card
import Mathlib.Data.List.Nodup
import NativeBridge.Linking.Library
import NativeBridge.Proofs.ModuleLocation
import NativeBridge.Proofs.RegistryIndex

/-!
# The slots of a module

A module that is bound receives methods in its import slots and gives addresses to the native
methods that name it. This file says which slots these are and when they are as many as the
requests and the native methods: no two classes may be at the same address, as in every sealed
table, and no two requests may share a slot, as when the entries of an import table have their own.
-/

namespace NativeBridge

/-- No two classes of the table are at the same address. -/
def ClassTable.DistinctHandles (t : ClassTable) : Prop := (t.classes.map Class.handle).Nodup

def ClassTable.nativeSlots (t : ClassTable) (moduleName : String) : Finset NativeId :=
  ((t.nativesOf moduleName).map DeclaredNative.id).toFinset

def ModuleInterface.importSlots (i : ModuleInterface) : Finset ImportSlot :=
  (i.imports.filterMap fun r => i.slot r.index).toFinset

/-- Every request of the module has a slot, and no two requests have the same. -/
structure ModuleInterface.OwnSlots (i : ModuleInterface) : Prop where
  assigned : ∀ r ∈ i.imports, (i.slot r.index).isSome
  distinct : (i.imports.map fun r => i.slot r.index).Nodup

theorem ClassTable.mem_nativeSlots {t : ClassTable} {moduleName : String} {id : NativeId} :
    id ∈ t.nativeSlots moduleName ↔ ∃ cls ∈ t.classes, cls.handle = id.owner ∧
      ∃ native, cls.natives[id.index]? = some native ∧ native.moduleName = moduleName := by
  unfold nativeSlots
  rw [List.mem_toFinset, List.mem_map]
  constructor
  · rintro ⟨d, hd, rfl⟩
    obtain ⟨hcls, hdeclared, hname⟩ := mem_nativesOf.mp hd
    obtain ⟨howner, hget⟩ := Class.mem_declaredNatives.mp hdeclared
    exact ⟨d.cls, hcls, howner.symm, d.method, hget, hname⟩
  · rintro ⟨cls, hcls, howner, native, hget, hname⟩
    refine ⟨⟨cls, id, native⟩, mem_nativesOf.mpr ⟨hcls, ?_, hname⟩, rfl⟩
    exact Class.mem_declaredNatives.mpr ⟨howner.symm, hget⟩

lemma ModuleInterface.mem_importSlots {i : ModuleInterface} {slot : ImportSlot} :
    slot ∈ i.importSlots ↔ ∃ r ∈ i.imports, i.slot r.index = some slot := by
  unfold importSlots
  rw [List.mem_toFinset, List.mem_filterMap]

lemma Class.nodup_declaredNatives (cls : Class) :
    (cls.declaredNatives.map Prod.fst).Nodup := by
  have hids : cls.declaredNatives.map Prod.fst =
      (cls.natives.zipIdx.map Prod.snd).map (NativeId.mk cls.handle) := by
    rw [declaredNatives, List.map_map, List.map_map]
    rfl
  rw [hids, List.zipIdx_map_snd]
  apply List.Nodup.map
  · intro index index' h
    exact congrArg NativeId.index h
  · exact List.nodup_range'

lemma ClassTable.DistinctHandles.nodup_nativesOf {t : ClassTable} (ht : t.DistinctHandles)
    (moduleName : String) : ((t.nativesOf moduleName).map DeclaredNative.id).Nodup := by
  unfold nativesOf
  rw [List.map_flatMap, List.nodup_flatMap]
  have hids : ∀ cls : Class, (List.map DeclaredNative.id
      ((cls.declaredNatives.filter fun d => d.2.moduleName == moduleName).map
        fun d => ⟨cls, d.1, d.2⟩)) =
      (cls.declaredNatives.filter fun d => d.2.moduleName == moduleName).map Prod.fst := by
    intro cls
    rw [List.map_map]
    rfl
  simp only [hids]
  constructor
  · intro cls _
    exact cls.nodup_declaredNatives.sublist (List.Sublist.map _ List.filter_sublist)
  · have hpairwise : t.classes.Pairwise fun cls cls' => cls.handle ≠ cls'.handle :=
      List.pairwise_map.mp ht
    refine hpairwise.imp ?_
    intro cls cls' hne id hid hid'
    -- Within a class positions differ; between classes the owner of the identifier does.
    have howner : ∀ c : Class, id ∈ (c.declaredNatives.filter
        fun d => d.2.moduleName == moduleName).map Prod.fst → id.owner = c.handle := by
      intro c hmem
      obtain ⟨⟨id', native⟩, hdeclared, rfl⟩ := List.mem_map.mp hmem
      exact (Class.mem_declaredNatives.mp (List.mem_of_mem_filter hdeclared)).1
    exact hne ((howner cls hid).symm.trans (howner cls' hid'))

lemma ClassTable.DistinctHandles.nativesDistinct {t : ClassTable} (ht : t.DistinctHandles)
    (moduleName : String) : t.NativesDistinct moduleName :=
  fun _ hd _ hd' hid => List.inj_on_of_nodup_map (ht.nodup_nativesOf moduleName) hd' hd hid

lemma ClassTable.DistinctHandles.card_nativeSlots {t : ClassTable} (ht : t.DistinctHandles)
    (moduleName : String) :
    (t.nativeSlots moduleName).card = (t.nativesOf moduleName).length := by
  unfold nativeSlots
  rw [List.toFinset_card_of_nodup (ht.nodup_nativesOf moduleName), List.length_map]

theorem ClassRegistry.Indexed.distinctHandles {r : ClassRegistry} (h : r.Indexed)
    (hhandle : ∀ c ∈ r.classes, ∀ c' ∈ r.classes, c.handle = c'.handle → c = c') :
    r.toTable.DistinctHandles := by
  have hnodup : r.classes.Nodup := h.nodup.of_map Class.fullName
  apply hnodup.map_on
  intro c hc c' hc' heq
  exact hhandle c hc c' hc' heq

namespace ModuleInterface.OwnSlots

variable {i : ModuleInterface}

lemma eq_of_slot_eq (hi : i.OwnSlots) {r r' : ImportRequest} (hr : r ∈ i.imports)
    (hr' : r' ∈ i.imports) (h : i.slot r.index = i.slot r'.index) : r = r' :=
  List.inj_on_of_nodup_map hi.distinct hr hr' h

lemma card_importSlots (hi : i.OwnSlots) : i.importSlots.card = i.imports.length := by
  have hslots : (i.imports.filterMap fun r => i.slot r.index).map some =
      i.imports.map fun r => i.slot r.index := by
    rw [List.map_filterMap_some_eq_filter_map_isSome, List.filter_eq_self, List.forall_mem_map]
    exact hi.assigned
  have hnodup : (i.imports.filterMap fun r => i.slot r.index).Nodup := by
    apply List.Nodup.of_map some
    rw [hslots]
    exact hi.distinct
  unfold importSlots
  rw [List.toFinset_card_of_nodup hnodup, ← List.length_map some, hslots, List.length_map]

end ModuleInterface.OwnSlots

lemma map_slot_importRequests (table : List ImportDescriptor) :
    (importRequests table).map (fun r => table[r.index]?.map ImportDescriptor.slot) =
      (table.map ImportDescriptor.slot).map some := by
  have hentry : ∀ d ∈ table.zipIdx,
      (table[(d.1.request d.2).index]?.map ImportDescriptor.slot) = some d.1.slot := by
    rintro ⟨d, position⟩ hd
    have hget : table[position]? = some d := List.mk_mem_zipIdx_iff_getElem?.mp hd
    change table[position]?.map ImportDescriptor.slot = some d.slot
    rw [hget]
    rfl
  calc (importRequests table).map (fun r => table[r.index]?.map ImportDescriptor.slot)
      = table.zipIdx.map (fun d => table[(d.1.request d.2).index]?.map ImportDescriptor.slot) := by
        rw [importRequests, List.map_map]
        rfl
    _ = table.zipIdx.map (fun d => some d.1.slot) := List.map_congr_left hentry
    _ = (table.zipIdx.map Prod.fst).map (fun d => some d.slot) := by
        rw [List.map_map]
        rfl
    _ = (table.map ImportDescriptor.slot).map some := by
        rw [List.zipIdx_map_fst, List.map_map]
        rfl

lemma ModuleInterface.ownSlots_of_table {i : ModuleInterface} {table : List ImportDescriptor}
    (himports : i.imports = importRequests table)
    (hslot : i.slot = fun index => table[index]?.map ImportDescriptor.slot)
    (hnodup : (table.map ImportDescriptor.slot).Nodup) : i.OwnSlots := by
  have hslots : i.imports.map (fun r => i.slot r.index) =
      (table.map ImportDescriptor.slot).map some := by
    rw [himports, hslot]
    exact map_slot_importRequests table
  constructor
  · intro r hr
    have hmem : i.slot r.index ∈ (table.map ImportDescriptor.slot).map some := by
      rw [← hslots]
      exact List.mem_map_of_mem hr
    obtain ⟨slot, _, hsome⟩ := List.mem_map.mp hmem
    rw [← hsome]
    rfl
  · rw [hslots]
    exact hnodup.map (Option.some_injective _)

theorem ModuleDescriptor.interface_ownSlots (d : ModuleDescriptor)
    (h : (d.table.map ImportDescriptor.slot).Nodup) : d.interface.OwnSlots :=
  ModuleInterface.ownSlots_of_table rfl rfl h

theorem Library.interface_ownSlots (lib : Library)
    (h : (lib.importTable.map ImportDescriptor.slot).Nodup) : lib.interface.OwnSlots :=
  ModuleInterface.ownSlots_of_table rfl rfl h

end NativeBridge
