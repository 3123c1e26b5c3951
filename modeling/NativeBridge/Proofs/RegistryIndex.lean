import Mathlib.Data.List.Nodup
import NativeBridge.Class.Registry

/-!
# The index of a registry

A registry keeps its classes and an index of their names apart. Whatever classes are offered to it,
the index lists every name once and at the position of its class, the classes are the accepted ones
in the order they were offered, and a name finds its class and nothing else.
-/

namespace NativeBridge

/-- Every instance field of the class begins inside its instances. -/
def Class.FieldsInside (c : Class) : Prop :=
  ∀ f ∈ c.fields, ∀ offset, f.place = .instance offset → offset < c.instanceSize

namespace Class

lemma stray_eq_none_iff (c : Class) (f : Field) :
    (match f.offset? with
      | some offset => if c.instanceSize ≤ offset then some (f, offset) else none
      | none => none) = none ↔ ∀ offset, f.place = .instance offset → offset < c.instanceSize := by
  simp only [← Field.offset?_eq_some_iff]
  cases f.offset? with
  | none => simp
  | some offset => simp

lemma stray_eq_some_iff (c : Class) (f g : Field) (offset : UInt64) :
    (match f.offset? with
      | some offset => if c.instanceSize ≤ offset then some (f, offset) else none
      | none => none) = some (g, offset) ↔
      f = g ∧ f.place = .instance offset ∧ c.instanceSize ≤ offset := by
  rw [← Field.offset?_eq_some_iff]
  cases f.offset? with
  | none => simp
  | some found =>
    by_cases hinside : c.instanceSize ≤ found
    · simp only [if_pos hinside, Option.some.injEq, Prod.mk.injEq]
      constructor
      · rintro ⟨rfl, rfl⟩
        exact ⟨rfl, rfl, hinside⟩
      · rintro ⟨rfl, rfl, _⟩
        exact ⟨rfl, rfl⟩
    · simp only [if_neg hinside, Option.some.injEq, reduceCtorEq, false_iff]
      rintro ⟨_, rfl, houtside⟩
      exact hinside houtside

lemma strayField?_eq_none_iff {c : Class} : c.strayField? = none ↔ c.FieldsInside := by
  unfold strayField? FieldsInside
  rw [List.findSome?_eq_none_iff]
  exact forall₂_congr fun f _ => c.stray_eq_none_iff f

lemma strayField?_eq_some_iff {c : Class} {f : Field} {offset : UInt64} :
    c.strayField? = some (f, offset) ↔ ∃ before after, c.fields = before ++ f :: after ∧
      f.place = .instance offset ∧ c.instanceSize ≤ offset ∧
        ∀ g ∈ before, ∀ o, g.place = .instance o → o < c.instanceSize := by
  unfold strayField?
  rw [List.findSome?_eq_some_iff]
  constructor
  · rintro ⟨before, g, after, hfields, hstray, hbefore⟩
    obtain ⟨rfl, hplace, houtside⟩ := (c.stray_eq_some_iff g f offset).mp hstray
    refine ⟨before, after, hfields, hplace, houtside, ?_⟩
    intro g hg
    exact (c.stray_eq_none_iff g).mp (hbefore g hg)
  · rintro ⟨before, after, hfields, hplace, houtside, hbefore⟩
    refine ⟨before, f, after, hfields, ?_, ?_⟩
    · exact (c.stray_eq_some_iff f f offset).mpr ⟨rfl, hplace, houtside⟩
    · intro g hg
      exact (c.stray_eq_none_iff g).mpr (hbefore g hg)

end Class

namespace ClassRegistry

/-- The index lists the name and the position of every class, and no name twice. -/
structure Indexed (r : ClassRegistry) : Prop where
  positions_eq : r.positions = r.classes.zipIdx.map fun m => (m.1.fullName, m.2)
  nodup : (r.classes.map Class.fullName).Nodup

namespace Indexed

variable {r : ClassRegistry}

lemma names_eq (h : r.Indexed) : r.positions.map Prod.fst = r.classes.map Class.fullName := by
  have hnames : r.positions.map Prod.fst = (r.classes.zipIdx.map Prod.fst).map Class.fullName := by
    rw [h.positions_eq, List.map_map, List.map_map]
    rfl
  rw [hnames, List.zipIdx_map_fst]

lemma isSome_lookup_iff (h : r.Indexed) {name : String} :
    (r.positions.lookup name).isSome ↔ ∃ c ∈ r.classes, c.fullName = name := by
  have hmem : (r.positions.lookup name).isSome ↔ name ∈ r.positions.map Prod.fst := by
    rw [List.lookup_isSome_iff, List.mem_map]
    refine exists_congr fun p => and_congr_right fun _ => ?_
    rw [beq_iff_eq, eq_comm]
  rw [hmem, h.names_eq, List.mem_map]

lemma lookup_eq_some_iff (h : r.Indexed) {name : String} {position : Nat} :
    r.positions.lookup name = some position ↔
      ∃ c, r.classes[position]? = some c ∧ c.fullName = name := by
  have hmem : ∀ p : Nat, (name, p) ∈ r.positions ↔
      ∃ c, r.classes[p]? = some c ∧ c.fullName = name := by
    intro p
    rw [h.positions_eq, List.mem_map]
    constructor
    · rintro ⟨⟨c, p'⟩, hc, heq⟩
      obtain ⟨rfl, rfl⟩ := Prod.mk.inj heq
      exact ⟨c, List.mk_mem_zipIdx_iff_getElem?.mp hc, rfl⟩
    · rintro ⟨c, hc, rfl⟩
      exact ⟨(c, p), List.mk_mem_zipIdx_iff_getElem?.mpr hc, rfl⟩
  -- No name is listed twice, so a listed pair is the one that a lookup of its name finds.
  have hkeys : (r.positions.map Prod.fst).Nodup := by
    rw [h.names_eq]
    exact h.nodup
  rw [← hmem position]
  constructor
  · intro hlookup
    obtain ⟨before, after, hsplit, _⟩ := List.lookup_eq_some_iff.mp hlookup
    rw [hsplit]
    exact List.mem_append_right _ List.mem_cons_self
  · intro hposition
    have hsome : (r.positions.lookup name).isSome :=
      List.lookup_isSome_iff.mpr ⟨_, hposition, beq_self_eq_true name⟩
    obtain ⟨found, hfound⟩ := Option.isSome_iff_exists.mp hsome
    obtain ⟨before, after, hsplit, _⟩ := List.lookup_eq_some_iff.mp hfound
    have hfoundMem : (name, found) ∈ r.positions := by
      rw [hsplit]
      exact List.mem_append_right _ List.mem_cons_self
    have hpair : (name, found) = (name, position) :=
      List.inj_on_of_nodup_map hkeys hfoundMem hposition rfl
    rw [hfound, (Prod.mk.inj hpair).2]

lemma find?_toTable_eq_some_iff (h : r.Indexed) {name : String} {c : Class} :
    r.toTable.find? name = some c ↔ c ∈ r.classes ∧ c.fullName = name := by
  unfold ClassTable.find?
  rw [Option.bind_eq_some_iff]
  constructor
  · rintro ⟨position, hlookup, hget⟩
    obtain ⟨c', hc', hname⟩ := h.lookup_eq_some_iff.mp hlookup
    obtain rfl := Option.some.inj (hc'.symm.trans hget)
    exact ⟨List.mem_of_getElem? hget, hname⟩
  · rintro ⟨hmem, hname⟩
    obtain ⟨position, hget⟩ := List.mem_iff_getElem?.mp hmem
    exact ⟨position, h.lookup_eq_some_iff.mpr ⟨c, hget, hname⟩, hget⟩

lemma insert?_of_taken (h : r.Indexed) {c : Class}
    (htaken : ∃ a ∈ r.classes, a.fullName = c.fullName) :
    r.insert? c = .error (.duplicateClass c.fullName) := by
  unfold insert?
  rw [if_pos (h.isSome_lookup_iff.mpr htaken)]

lemma insert?_of_stray (h : r.Indexed) {c : Class} {f : Field} {offset : UInt64}
    (hfree : ¬∃ a ∈ r.classes, a.fullName = c.fullName)
    (hstray : c.strayField? = some (f, offset)) :
    r.insert? c = .error (.fieldOutOfBounds c.fullName f.name offset c.instanceSize) := by
  unfold insert?
  rw [if_neg (mt h.isSome_lookup_iff.mp hfree), hstray]

lemma insert?_of_fieldsInside (h : r.Indexed) {c : Class}
    (hfree : ¬∃ a ∈ r.classes, a.fullName = c.fullName) (hinside : c.FieldsInside) :
    r.insert? c = .ok ⟨r.classes ++ [c], r.positions ++ [(c.fullName, r.size)]⟩ := by
  unfold insert?
  rw [if_neg (mt h.isSome_lookup_iff.mp hfree), Class.strayField?_eq_none_iff.mpr hinside]

lemma insert?_eq_ok_iff (h : r.Indexed) {c : Class} {r' : ClassRegistry} :
    r.insert? c = .ok r' ↔ (¬∃ a ∈ r.classes, a.fullName = c.fullName) ∧ c.FieldsInside ∧
      r' = ⟨r.classes ++ [c], r.positions ++ [(c.fullName, r.size)]⟩ := by
  by_cases htaken : ∃ a ∈ r.classes, a.fullName = c.fullName
  · rw [h.insert?_of_taken htaken]
    simp [htaken]
  · cases hstray : c.strayField? with
    | some found =>
      have houtside : ¬c.FieldsInside := by
        intro hinside
        rw [Class.strayField?_eq_none_iff.mpr hinside] at hstray
        cases hstray
      rw [h.insert?_of_stray htaken hstray]
      simp [houtside]
    | none =>
      have hinside := Class.strayField?_eq_none_iff.mp hstray
      rw [h.insert?_of_fieldsInside htaken hinside]
      constructor
      · intro hok
        exact ⟨htaken, hinside, (Except.ok.inj hok).symm⟩
      · rintro ⟨_, _, rfl⟩
        rfl

lemma insert? (h : r.Indexed) {c : Class} {r' : ClassRegistry} (hok : r.insert? c = .ok r') :
    r'.Indexed := by
  obtain ⟨hfree, _, rfl⟩ := h.insert?_eq_ok_iff.mp hok
  constructor
  · rw [List.zipIdx_append, List.map_append, ← h.positions_eq]
    simp [size]
  · rw [List.map_append, List.nodup_append]
    refine ⟨h.nodup, List.nodup_singleton _, ?_⟩
    intro name hname name' hname' heq
    obtain ⟨a, ha, rfl⟩ := List.mem_map.mp hname
    obtain rfl := List.mem_singleton.mp hname'
    exact hfree ⟨a, ha, heq⟩

lemma register (h : r.Indexed) (c : Class) : (r.register c).Indexed := by
  unfold ClassRegistry.register
  cases hresult : r.insert? c with
  | ok r' => exact h.insert? hresult
  | error e => exact h

end Indexed

lemma indexed_empty : empty.Indexed := ⟨rfl, List.nodup_nil⟩

lemma register_of_ok {r r' : ClassRegistry} {c : Class} (h : r.insert? c = .ok r') :
    r.register c = r' := by
  unfold register
  rw [h]

lemma register_of_error {r : ClassRegistry} {c : Class} {e : RegistryError}
    (h : r.insert? c = .error e) : r.register c = r := by
  unfold register
  rw [h]

def registerAll (r : ClassRegistry) (offered : List Class) : ClassRegistry :=
  offered.foldl register r

/-- The classes among those offered that the registry accepts, in order. -/
def accepted (r : ClassRegistry) : List Class → List Class
  | [] => []
  | c :: offered =>
    match r.insert? c with
    | .ok r' => c :: r'.accepted offered
    | .error _ => r.accepted offered

lemma accepted_cons_of_ok {r r' : ClassRegistry} {c : Class} (offered : List Class)
    (h : r.insert? c = .ok r') : r.accepted (c :: offered) = c :: r'.accepted offered := by
  rw [accepted, h]

lemma accepted_cons_of_error {r : ClassRegistry} {c : Class} {e : RegistryError}
    (offered : List Class) (h : r.insert? c = .error e) :
    r.accepted (c :: offered) = r.accepted offered := by
  rw [accepted, h]

lemma accepted_sublist (r : ClassRegistry) (offered : List Class) :
    (r.accepted offered).Sublist offered := by
  induction offered generalizing r with
  | nil => exact List.Sublist.refl _
  | cons c offered ih =>
    cases hresult : r.insert? c with
    | ok r' =>
      rw [accepted_cons_of_ok offered hresult]
      exact (ih r').cons_cons c
    | error e =>
      rw [accepted_cons_of_error offered hresult]
      exact (ih r).cons c

lemma Indexed.registerAll {r : ClassRegistry} (h : r.Indexed) (offered : List Class) :
    (r.registerAll offered).Indexed := by
  induction offered generalizing r with
  | nil => exact h
  | cons c offered ih => exact ih (h.register c)

lemma Indexed.classes_registerAll {r : ClassRegistry} (h : r.Indexed) (offered : List Class) :
    (r.registerAll offered).classes = r.classes ++ r.accepted offered := by
  induction offered generalizing r with
  | nil => exact (List.append_nil _).symm
  | cons c offered ih =>
    change ((r.register c).registerAll offered).classes = _
    cases hresult : r.insert? c with
    | ok r' =>
      obtain ⟨_, _, hr'⟩ := h.insert?_eq_ok_iff.mp hresult
      rw [register_of_ok hresult, ih (h.insert? hresult), accepted_cons_of_ok offered hresult, hr',
        List.append_assoc]
      rfl
    | error e =>
      rw [register_of_error hresult, ih h, accepted_cons_of_error offered hresult]

/-- Whatever classes are offered to a new registry: it accepts one exactly when no accepted class
has its name and its instance fields begin inside its instances, a taken name is reported before a
field and the first bad field in declaration order is the one reported, and a refused class might
as well not have been offered. The classes are the accepted ones in order, the index gives the
position of each under its name and nothing else, and in the sealed table a name finds the accepted
class that has it. -/
theorem registerAll_invariant (offered : List Class) :
    let r := empty.registerAll offered
    let accepted := empty.accepted offered
    let taken := fun c : Class => ∃ a ∈ accepted, a.fullName = c.fullName
    (∀ c, (∃ r', r.insert? c = .ok r') ↔ ¬taken c ∧ c.FieldsInside) ∧
    (∀ c, taken c → r.insert? c = .error (.duplicateClass c.fullName)) ∧
    (∀ c before f after offset, ¬taken c → c.fields = before ++ f :: after →
      (∀ g ∈ before, ∀ o, g.place = .instance o → o < c.instanceSize) →
        f.place = .instance offset → c.instanceSize ≤ offset →
          r.insert? c = .error (.fieldOutOfBounds c.fullName f.name offset c.instanceSize)) ∧
    (∀ c e rest, r.insert? c = .error e → r.register c = r ∧
      empty.registerAll (offered ++ c :: rest) = empty.registerAll (offered ++ rest)) ∧
    (r.classes = accepted ∧ accepted.Sublist offered ∧ (accepted.map Class.fullName).Nodup ∧
      r.size = accepted.length) ∧
    (∀ name position, r.positions.lookup name = some position ↔
      ∃ c, accepted[position]? = some c ∧ c.fullName = name) ∧
    r.toTable.classes = r.classes ∧ r.toTable.positions = r.positions ∧
    (∀ name position, r.toTable.positions.lookup name = some position →
      position < r.toTable.classes.length) ∧
    ∀ name c, r.toTable.find? name = some c ↔ c ∈ accepted ∧ c.fullName = name := by
  intro r accepted taken
  have hr : r.Indexed := indexed_empty.registerAll offered
  have hclasses : r.classes = accepted := indexed_empty.classes_registerAll offered
  have htaken : ∀ c, taken c ↔ ∃ a ∈ r.classes, a.fullName = c.fullName := by
    intro c
    rw [hclasses]
  refine ⟨?_, ?_, ?_, ?_, ⟨hclasses, accepted_sublist empty offered, ?_, ?_⟩, ?_, rfl, rfl, ?_, ?_⟩
  · intro c
    rw [htaken c]
    constructor
    · rintro ⟨r', hok⟩
      obtain ⟨hfree, hinside, _⟩ := hr.insert?_eq_ok_iff.mp hok
      exact ⟨hfree, hinside⟩
    · rintro ⟨hfree, hinside⟩
      exact ⟨_, hr.insert?_of_fieldsInside hfree hinside⟩
  · intro c hc
    exact hr.insert?_of_taken ((htaken c).mp hc)
  · intro c before f after offset hfree hfields hbefore hplace houtside
    apply hr.insert?_of_stray (mt (htaken c).mpr hfree)
    exact Class.strayField?_eq_some_iff.mpr ⟨before, after, hfields, hplace, houtside, hbefore⟩
  · intro c e rest herror
    have hsame : r.register c = r := register_of_error herror
    refine ⟨hsame, ?_⟩
    calc empty.registerAll (offered ++ c :: rest)
        = (r.register c).registerAll rest := List.foldl_append
      _ = r.registerAll rest := by rw [hsame]
      _ = empty.registerAll (offered ++ rest) := List.foldl_append.symm
  · rw [← hclasses]
    exact hr.nodup
  · rw [size, hclasses]
  · intro name position
    rw [hr.lookup_eq_some_iff, hclasses]
  · intro name position hlookup
    obtain ⟨c, hget, _⟩ := hr.lookup_eq_some_iff.mp hlookup
    exact (List.getElem?_eq_some_iff.mp hget).1
  · intro name c
    rw [hr.find?_toTable_eq_some_iff, hclasses]

end ClassRegistry

namespace Sample

/-- A class of 16 bytes with a static field and an instance field at the offset. -/
def plotClass (classname : String) (offset : UInt64) (handle : Handle) : Class :=
  ⟨handle, "it", classname, 16, [], [],
    [⟨"total", "J", .static 0x9000⟩, ⟨"reading", "J", .instance offset⟩]⟩

lemma fieldsInside_plotClass_iff {classname : String} {offset : UInt64} {handle : Handle} :
    (plotClass classname offset handle).FieldsInside ↔ offset < 16 := by
  simp [Class.FieldsInside, plotClass]

end Sample

namespace ClassRegistry

/-- A class is refused for its field and then offered again with the field moved inside; a taken
name is reported although the field is bad as well. -/
theorem stray_refused_until_moved :
    let plain := Sample.plotClass "Plain" 8 ⟨0x40⟩
    let stray := Sample.plotClass "Moved" 16 ⟨0x41⟩
    let moved := Sample.plotClass "Moved" 15 ⟨0x42⟩
    let twin := Sample.plotClass "Plain" 16 ⟨0x43⟩
    let r := empty.registerAll [plain]
    r.insert? stray = .error (.fieldOutOfBounds "it/Moved" "reading" 16 16) ∧
    r.insert? twin = .error (.duplicateClass "it/Plain") ∧
    (∃ r', r.insert? moved = .ok r') ∧
    empty.registerAll [plain, stray, moved] = empty.registerAll [plain, moved] ∧
    (empty.registerAll [plain, stray, moved]).toTable.find? "it/Moved" = some moved := by
  intro plain stray moved twin r
  obtain ⟨haccepted, hduplicate, hstray, hskipped, _, _, _, _, _, _⟩ :=
    registerAll_invariant [plain]
  have htaken : ∀ c : Class, (∃ a ∈ empty.accepted [plain], a.fullName = c.fullName) ↔
      "it/Plain" = c.fullName := by
    intro c
    have hclasses : empty.accepted [plain] = [plain] := rfl
    rw [hclasses, List.exists_mem_cons_iff]
    simp only [List.not_mem_nil, false_and, exists_false, or_false]
    rfl
  have hrefused : r.insert? stray = .error (.fieldOutOfBounds "it/Moved" "reading" 16 16) := by
    refine hstray stray [⟨"total", "J", .static 0x9000⟩] ⟨"reading", "J", .instance 16⟩ [] 16
      (mt (htaken stray).mp (by decide)) rfl ?_ rfl (by decide)
    simp
  obtain ⟨_, hsame⟩ := hskipped stray _ [moved] hrefused
  refine ⟨hrefused, hduplicate twin ((htaken twin).mpr (by decide)), ?_, hsame, ?_⟩
  · have hinside : moved.FieldsInside := Sample.fieldsInside_plotClass_iff.mpr (by decide)
    exact (haccepted moved).mpr ⟨mt (htaken moved).mp (by decide), hinside⟩
  · obtain ⟨_, _, _, _, _, _, _, _, _, hfind⟩ := registerAll_invariant [plain, stray, moved]
    exact (hfind "it/Moved" moved).mpr ⟨List.mem_cons_of_mem _ List.mem_cons_self, rfl⟩

end ClassRegistry

end NativeBridge
