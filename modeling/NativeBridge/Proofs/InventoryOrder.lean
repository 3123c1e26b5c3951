import NativeBridge.Class.Builtin
import NativeBridge.Class.Inventory
import NativeBridge.Proofs.RegistryIndex

/-!
# The order of submissions

The classes of a process are submitted in an order that nobody fixes, so the table made from them
must not depend on it. It is made exactly when the full names differ and all fields begin inside
their instances, and neither condition depends on the order. Names that differ have only one sorted
arrangement, so the classes come out in the same sequence and every lookup answers alike.
-/

namespace NativeBridge

namespace Class

/-- The class without the handle it was built at. -/
def unplaced (c : Class) : Class := { c with handle := .null }

lemma findMethod?_unplaced (c : Class) (name signature : String) :
    (c.unplaced.findMethod? name signature).map (fun m => (m.1.index, m.2)) =
      (c.findMethod? name signature).map fun m => (m.1.index, m.2) := by
  simp only [findMethod?, declaredMethods, List.find?_map, Option.map_map]
  rfl

lemma findField?_unplaced (c : Class) (name signature : String) :
    (c.unplaced.findField? name signature).map (fun f => (f.1.index, f.2)) =
      (c.findField? name signature).map fun f => (f.1.index, f.2) := by
  simp only [findField?, declaredFields, List.find?_map, Option.map_map]
  rfl

end Class

/-- A constructor makes the same class at every handle. -/
def Constructs (build : Handle → Class) : Prop :=
  ∀ handle, build handle = { build .null with handle := handle }

lemma Constructs.unplaced {build : Handle → Class} (h : Constructs build) (handle : Handle) :
    (build handle).unplaced = build .null := by
  have hnull : (build .null).handle = .null := congrArg Class.handle (h .null)
  calc (build handle).unplaced = (build .null).unplaced := by rw [h handle]; rfl
    _ = { build .null with handle := (build .null).handle } := by rw [hnull]; rfl
    _ = build .null := rfl

lemma unplaced_buildInOrder (space : AddressSpace) {submitted : List (Handle → Class)}
    (h : ∀ build ∈ submitted, Constructs build) :
    (buildInOrder space submitted).map Class.unplaced = submitted.map (· .null) := by
  have hbuilt : ∀ s ∈ submitted.zipIdx,
      (s.1 (space.classHandle s.2)).unplaced = s.1 .null := by
    intro s hs
    have hmem : s.1 ∈ submitted := by
      rw [← List.zipIdx_map_fst 0 submitted]
      exact List.mem_map_of_mem hs
    exact (h s.1 hmem).unplaced _
  calc (buildInOrder space submitted).map Class.unplaced
      = submitted.zipIdx.map fun s => s.1 .null := by
        rw [buildInOrder, List.map_map]
        exact List.map_congr_left hbuilt
    _ = (submitted.zipIdx.map Prod.fst).map (· .null) := by
        rw [List.map_map]
        rfl
    _ = submitted.map (· .null) := by rw [List.zipIdx_map_fst]

namespace ClassRegistry

/-! ### Classes sorted by name -/

section Order

variable {built built' : List Class}

lemma perm_inventoryOrder (built : List Class) : (inventoryOrder built).Perm built :=
  List.mergeSort_perm built _

lemma pairwise_inventoryOrder (built : List Class) :
    (inventoryOrder built).Pairwise fun a b => a.fullName ≤ b.fullName := by
  have hsorted : (inventoryOrder built).Pairwise fun a b =>
      decide (a.fullName ≤ b.fullName) = true := by
    refine List.pairwise_mergeSort ?_ ?_ built
    · intro a b c hab hbc
      simp only [decide_eq_true_eq] at hab hbc ⊢
      exact String.le_trans hab hbc
    · intro a b
      simp only [Bool.or_eq_true, decide_eq_true_eq]
      exact String.le_total a.fullName b.fullName
  exact hsorted.imp of_decide_eq_true

lemma increasing_inventoryOrder (h : (built.map Class.fullName).Nodup) :
    ((inventoryOrder built).map Class.fullName).Pairwise (· < ·) := by
  have hnodup : ((inventoryOrder built).map Class.fullName).Nodup :=
    ((perm_inventoryOrder built).map _).nodup_iff.mpr h
  have hboth := (List.pairwise_map.mpr (pairwise_inventoryOrder built)).and hnodup
  refine hboth.imp ?_
  rintro name name' ⟨hle, hne⟩
  exact String.not_le.mp fun hge => hne (String.le_antisymm hle hge)

/-- Classes whose names differ have one sorted arrangement. -/
lemma inventoryOrder_eq_of_perm (hperm : built.Perm built')
    (h : (built.map Class.fullName).Nodup) : inventoryOrder built = inventoryOrder built' := by
  have hsorted : (inventoryOrder built).Perm (inventoryOrder built') :=
    (perm_inventoryOrder built).trans (hperm.trans (perm_inventoryOrder built').symm)
  refine List.Perm.eq_of_pairwise ?_ (pairwise_inventoryOrder built)
    (pairwise_inventoryOrder built') hsorted
  intro a b ha hb hab hba
  have ha' : a ∈ built := (perm_inventoryOrder built).mem_iff.mp ha
  have hb' : b ∈ built := hperm.mem_iff.mpr ((perm_inventoryOrder built').mem_iff.mp hb)
  exact List.inj_on_of_nodup_map h ha' hb' (String.le_antisymm hab hba)

lemma unplaced_inventoryOrder (built : List Class) :
    (inventoryOrder built).map Class.unplaced = inventoryOrder (built.map Class.unplaced) :=
  List.map_mergeSort fun _ _ _ _ => rfl

end Order

/-! ### Registration of all classes -/

namespace Indexed

variable {r r' : ClassRegistry}

lemma positions_congr (h : r.Indexed) (h' : r'.Indexed)
    (hnames : r.classes.map Class.fullName = r'.classes.map Class.fullName) :
    r.positions = r'.positions := by
  have hzip : ∀ classes : List Class, (classes.zipIdx.map fun m => (m.1.fullName, m.2)) =
      (classes.map Class.fullName).zipIdx := fun classes => (List.zipIdx_map ..).symm
  rw [h.positions_eq, h'.positions_eq, hzip, hzip, hnames]

lemma eq_of_classes_eq (h : r.Indexed) (h' : r'.Indexed) (hclasses : r.classes = r'.classes) :
    r = r' := by
  have hpositions := h.positions_congr h' (congrArg _ hclasses)
  cases r
  cases r'
  obtain rfl := hclasses
  obtain rfl := hpositions
  rfl

lemma insertAll?_eq_ok_iff (h : r.Indexed) (offered : List Class) :
    r.insertAll? offered = .ok r' ↔ ((r.classes ++ offered).map Class.fullName).Nodup ∧
      (∀ c ∈ offered, c.FieldsInside) ∧ r'.classes = r.classes ++ offered ∧ r'.Indexed := by
  -- Only in an indexed registry does a refusal mean that a name is taken, so that is kept.
  induction offered generalizing r with
  | nil =>
    rw [insertAll?, List.append_nil]
    constructor
    · intro hok
      obtain rfl := Except.ok.inj hok
      exact ⟨h.nodup, by simp, rfl, h⟩
    · rintro ⟨-, -, hclasses, h'⟩
      rw [h.eq_of_classes_eq h' hclasses.symm]
  | cons c offered ih =>
    rw [insertAll?]
    cases hresult : r.insert? c with
    | ok next =>
      obtain ⟨_, hinside, hnext⟩ := h.insert?_eq_ok_iff.mp hresult
      have hclasses : next.classes = r.classes ++ [c] := by rw [hnext]
      change next.insertAll? offered = .ok r' ↔ _
      rw [ih (h.insert? hresult), hclasses, List.append_assoc, List.singleton_append]
      simp [hinside]
    | error e =>
      have hrefused : ¬((¬∃ a ∈ r.classes, a.fullName = c.fullName) ∧ c.FieldsInside) := by
        rintro ⟨hfree, hinside⟩
        rw [h.insert?_of_fieldsInside hfree hinside] at hresult
        cases hresult
      simp only [reduceCtorEq, false_iff]
      rintro ⟨hnodup, hinside, -, -⟩
      refine hrefused ⟨?_, hinside c List.mem_cons_self⟩
      rintro ⟨a, ha, hname⟩
      rw [List.map_append, List.nodup_append] at hnodup
      exact hnodup.2.2 _ (List.mem_map_of_mem ha) _ (List.mem_map_of_mem List.mem_cons_self) hname

end Indexed

theorem ofInventory?_eq_ok_iff {built : List Class} {r : ClassRegistry} :
    ofInventory? built = .ok r ↔ (built.map Class.fullName).Nodup ∧
      (∀ c ∈ built, c.FieldsInside) ∧ r.classes = inventoryOrder built ∧ r.Indexed := by
  have hperm := perm_inventoryOrder built
  rw [ofInventory?, indexed_empty.insertAll?_eq_ok_iff]
  change ((inventoryOrder built).map Class.fullName).Nodup ∧ _ ↔ _
  rw [(hperm.map Class.fullName).nodup_iff]
  simp only [hperm.mem_iff]
  rfl

lemma exists_ofInventory?_eq_ok_iff {built : List Class} :
    (∃ r, ofInventory? built = .ok r) ↔
      (built.map Class.fullName).Nodup ∧ ∀ c ∈ built, c.FieldsInside := by
  constructor
  · rintro ⟨r, hok⟩
    obtain ⟨hnodup, hinside, -, -⟩ := ofInventory?_eq_ok_iff.mp hok
    exact ⟨hnodup, hinside⟩
  · rintro ⟨hnodup, hinside⟩
    refine ⟨⟨inventoryOrder built, (inventoryOrder built).zipIdx.map fun m =>
      (m.1.fullName, m.2)⟩, ofInventory?_eq_ok_iff.mpr ⟨hnodup, hinside, rfl, rfl, ?_⟩⟩
    exact ((perm_inventoryOrder built).map Class.fullName).nodup_iff.mpr hnodup

end ClassRegistry

/-! ### The tables of two orders -/

/-- Two tables answer every lookup alike, up to the handles of their classes. -/
structure ClassTable.SameAnswers (t t' : ClassTable) : Prop where
  find : ∀ name, (t.find? name).map Class.unplaced = (t'.find? name).map Class.unplaced
  get : ∀ classpath classname,
    (t.get? classpath classname).map Class.unplaced =
      (t'.get? classpath classname).map Class.unplaced
  method : ∀ key, (t.findMethod? key).map (fun m => (m.1.index, m.2)) =
    (t'.findMethod? key).map fun m => (m.1.index, m.2)
  field : ∀ key, (t.findField? key).map (fun f => (f.1.index, f.2)) =
    (t'.findField? key).map fun f => (f.1.index, f.2)

namespace ClassTable

variable {t t' : ClassTable}

lemma find?_unplaced_congr (hclasses : t.classes.map Class.unplaced = t'.classes.map Class.unplaced)
    (hpositions : t.positions = t'.positions) (name : String) :
    (t.find? name).map Class.unplaced = (t'.find? name).map Class.unplaced := by
  unfold find?
  rw [Option.map_bind, Option.map_bind, hpositions]
  congr 1
  funext position
  have hposition := congrArg (fun classes => classes[position]?) hclasses
  simpa only [Function.comp_apply, List.getElem?_map] using hposition

lemma bind_congr_of_unplaced {α : Type} {search : Class → Option α}
    (hsearch : ∀ c, search c.unplaced = search c) {found found' : Option Class}
    (h : found.map Class.unplaced = found'.map Class.unplaced) :
    found.bind search = found'.bind search := by
  have hbind : ∀ o : Option Class, o.bind search = (o.map Class.unplaced).bind search := by
    intro o
    cases o with
    | none => rfl
    | some c => exact (hsearch c).symm
  rw [hbind found, hbind found', h]

lemma sameAnswers_of_classes
    (hclasses : t.classes.map Class.unplaced = t'.classes.map Class.unplaced)
    (hpositions : t.positions = t'.positions) : t.SameAnswers t' := by
  have hfind := find?_unplaced_congr hclasses hpositions
  refine ⟨hfind, fun classpath classname => hfind _, ?_, ?_⟩
  · intro key
    unfold findMethod?
    rw [Option.map_bind, Option.map_bind]
    exact bind_congr_of_unplaced (fun c => c.findMethod?_unplaced _ _) (hfind _)
  · intro key
    unfold findField?
    rw [Option.map_bind, Option.map_bind]
    exact bind_congr_of_unplaced (fun c => c.findField?_unplaced _ _) (hfind _)

end ClassTable

namespace ClassRegistry

lemma exists_ofInventory?_buildInOrder_iff (space : AddressSpace)
    {submitted : List (Handle → Class)} (h : ∀ build ∈ submitted, Constructs build) :
    (∃ r, ofInventory? (buildInOrder space submitted) = .ok r) ↔
      (submitted.map fun build => (build .null).fullName).Nodup ∧
        ∀ build ∈ submitted, (build .null).FieldsInside := by
  have hbuilt := unplaced_buildInOrder space h
  have hnames : (buildInOrder space submitted).map Class.fullName =
      submitted.map fun build => (build .null).fullName := by
    have hmap := congrArg (List.map Class.fullName) hbuilt
    rwa [List.map_map, List.map_map] at hmap
  have hinside : (∀ c ∈ buildInOrder space submitted, c.FieldsInside) ↔
      ∀ c ∈ (buildInOrder space submitted).map Class.unplaced, c.FieldsInside := by
    rw [List.forall_mem_map]
    rfl
  rw [exists_ofInventory?_eq_ok_iff, hnames, hinside, hbuilt, List.forall_mem_map]

/-- The process-wide table does not depend on the order of the submissions, nor on where the
classes are placed. It is made exactly when the full names of the submitted classes differ and every
instance field begins inside the instances of its class, so in both orders or in neither. When it is
made, the classes are the submitted ones, in the same sequence for both orders, with full names that
increase strictly, and every lookup answers alike. -/
theorem ofInventory?_of_perm {submitted submitted' : List (Handle → Class)}
    (space space' : AddressSpace) (hperm : submitted.Perm submitted')
    (hsubmitted : ∀ build ∈ submitted, Constructs build) :
    let run := ofInventory? (buildInOrder space submitted)
    let run' := ofInventory? (buildInOrder space' submitted')
    ((∃ r, run = .ok r) ↔ (submitted.map fun build => (build .null).fullName).Nodup ∧
      ∀ build ∈ submitted, ∀ f ∈ (build .null).fields, ∀ offset, f.place = .instance offset →
        offset < (build .null).instanceSize) ∧
    ((∃ r, run = .ok r) ↔ ∃ r', run' = .ok r') ∧
    ∀ r r', run = .ok r → run' = .ok r' →
      (r.classes.map Class.fullName).Pairwise (· < ·) ∧
        (r.classes.map Class.unplaced).Perm (submitted.map (· .null)) ∧
        r.classes.map Class.unplaced = r'.classes.map Class.unplaced ∧
        r.toTable.SameAnswers r'.toTable := by
  intro run run'
  have hsubmitted' : ∀ build ∈ submitted', Constructs build :=
    fun build hbuild => hsubmitted build (hperm.mem_iff.mpr hbuild)
  have hbuilt := unplaced_buildInOrder space hsubmitted
  have hbuilt' := unplaced_buildInOrder space' hsubmitted'
  refine ⟨exists_ofInventory?_buildInOrder_iff space hsubmitted, ?_, ?_⟩
  · rw [exists_ofInventory?_buildInOrder_iff space hsubmitted,
      exists_ofInventory?_buildInOrder_iff space' hsubmitted', (hperm.map _).nodup_iff]
    simp only [hperm.mem_iff]
  · intro r r' hok hok'
    obtain ⟨hnodup, -, hclasses, hindexed⟩ := ofInventory?_eq_ok_iff.mp hok
    obtain ⟨-, -, hclasses', hindexed'⟩ := ofInventory?_eq_ok_iff.mp hok'
    have hnodup' : (((buildInOrder space submitted).map Class.unplaced).map
        Class.fullName).Nodup := by
      rw [List.map_map]
      exact hnodup
    have hsame : r.classes.map Class.unplaced = r'.classes.map Class.unplaced := by
      calc r.classes.map Class.unplaced
          = inventoryOrder ((buildInOrder space submitted).map Class.unplaced) := by
            rw [hclasses, unplaced_inventoryOrder]
        _ = inventoryOrder ((buildInOrder space' submitted').map Class.unplaced) := by
            refine inventoryOrder_eq_of_perm ?_ hnodup'
            rw [hbuilt, hbuilt']
            exact hperm.map _
        _ = r'.classes.map Class.unplaced := by rw [hclasses', unplaced_inventoryOrder]
    refine ⟨?_, ?_, hsame, ?_⟩
    · rw [hclasses]
      exact increasing_inventoryOrder hnodup
    · rw [← hbuilt, hclasses]
      exact (perm_inventoryOrder _).map _
    · refine ClassTable.sameAnswers_of_classes hsame (hindexed.positions_congr hindexed' ?_)
      have hnames := congrArg (List.map Class.fullName) hsame
      rwa [List.map_map, List.map_map] at hnames

/-- Classes with fields submitted in two orders, in two address spaces, and beside one whose field
begins behind its instances. -/
theorem ofInventory?_of_plots_swapped :
    let plain := Sample.plotClass "Plain" 8
    let last := Sample.plotClass "Last" 15
    let stray := Sample.plotClass "Stray" 16
    let submitted := [plain, Builtin.objectClass, last]
    let submitted' := [last, plain, Builtin.objectClass]
    submitted.Perm submitted' ∧ (∀ build ∈ stray :: submitted, Constructs build) ∧
      (∃ r r', ofInventory? (buildInOrder .standard submitted) = .ok r ∧
        ofInventory? (buildInOrder ⟨0x11⟩ submitted') = .ok r' ∧
        (r.classes.map Class.fullName).Pairwise (· < ·) ∧ r.size = 3 ∧
        r.toTable.SameAnswers r'.toTable) ∧
      ∀ r, ofInventory? (buildInOrder .standard (stray :: submitted)) ≠ .ok r ∧
        ofInventory? (buildInOrder ⟨0x11⟩ (stray :: submitted')) ≠ .ok r := by
  intro plain last stray submitted submitted'
  have hperm : submitted.Perm submitted' := by
    change ([plain, Builtin.objectClass] ++ [last]).Perm _
    exact List.perm_append_comm
  have hconstructs : ∀ build ∈ stray :: submitted, Constructs build := by
    simp only [submitted, List.forall_mem_cons, List.not_mem_nil, false_imp_iff, implies_true]
    exact ⟨fun _ => rfl, fun _ => rfl, fun _ => rfl, fun _ => rfl, trivial⟩
  obtain ⟨hmade, hboth, hsame⟩ := ofInventory?_of_perm .standard ⟨0x11⟩ hperm
    (List.forall_mem_cons.mp hconstructs).2
  obtain ⟨hstray, hneither, _⟩ := ofInventory?_of_perm .standard ⟨0x11⟩ (hperm.cons stray)
    hconstructs
  have hok : ∃ r, ofInventory? (buildInOrder .standard submitted) = .ok r := by
    refine hmade.mpr ⟨by decide, ?_⟩
    simp only [submitted, List.forall_mem_cons]
    exact ⟨Sample.fieldsInside_plotClass_iff.mpr (by decide), List.forall_mem_nil _,
      Sample.fieldsInside_plotClass_iff.mpr (by decide), List.forall_mem_nil _⟩
  have hrefused : ¬∃ r, ofInventory? (buildInOrder .standard (stray :: submitted)) = .ok r := by
    intro h
    have hinside := (hstray.mp h).2 stray List.mem_cons_self
    exact absurd (Sample.fieldsInside_plotClass_iff.mp hinside) (by decide)
  obtain ⟨r, hr⟩ := hok
  obtain ⟨r', hr'⟩ := hboth.mp ⟨r, hr⟩
  obtain ⟨hincreasing, hclasses, -, hanswers⟩ := hsame r r' hr hr'
  refine ⟨hperm, hconstructs, ⟨r, r', hr, hr', hincreasing, ?_, hanswers⟩, ?_⟩
  · have hlength := hclasses.length_eq
    rwa [List.length_map, List.length_map] at hlength
  · intro table
    exact ⟨fun h => hrefused ⟨table, h⟩, fun h => hrefused (hneither.mpr ⟨table, h⟩)⟩

end ClassRegistry

end NativeBridge
