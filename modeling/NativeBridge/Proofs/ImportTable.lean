import NativeBridge.Proofs.ResolutionOutcome
import NativeBridge.Proofs.Utf8Decoding

/-!
# Import tables

The import table of a described module is read entry by entry, and the position of an entry is what
its slot is found by when the module is bound. This file says that reading is exact: texts are the
ones the bytes encode, the first text that is not UTF-8 marks its entry, and every slot receives the
method located for its own entry or none does.
-/

namespace NativeBridge

namespace RawText

/-- The text that a byte string encodes. A null pointer stands for the empty text. -/
inductive Encodes : RawText → String → Prop where
  | null : Encodes none ""
  | bytes {text : String} : Encodes (some (Utf8.encode text.toList)) text

def Broken (raw : RawText) : Prop := ∀ text, ¬raw.Encodes text

/-- The text that a byte string is read as: the one it encodes, or the empty text if it encodes
none. -/
def ReadAs (raw : RawText) (text : String) : Prop := raw.Encodes text ∨ raw.Broken ∧ text = ""

variable {raw : RawText}

lemma decode?_eq_some_iff {text : String} : raw.decode? = some text ↔ raw.Encodes text := by
  cases raw with
  | none =>
    constructor
    · rintro ⟨⟩
      exact .null
    · rintro ⟨⟩
      rfl
  | some bytes =>
    rw [decode?, Option.map_eq_some_iff]
    constructor
    · rintro ⟨chars, hchars, rfl⟩
      have hbytes : bytes = Utf8.encode (String.ofList chars).toList := by
        rw [String.toList_ofList, Utf8.decode?_eq_some_iff.mp hchars]
      rw [hbytes]
      exact .bytes
    · rintro ⟨⟩
      exact ⟨text.toList, Utf8.decode?_eq_some_iff.mpr rfl, String.ofList_toList⟩

lemma decode?_ofText (text : String) : (ofText text).decode? = some text :=
  decode?_eq_some_iff.mpr .bytes

lemma decode?_eq_none_iff : raw.decode? = none ↔ raw.Broken := by
  rw [Option.eq_none_iff_forall_ne_some]
  exact forall_congr' fun text => not_congr decode?_eq_some_iff

lemma readAs_getD : raw.ReadAs (raw.decode?.getD "") := by
  cases hraw : raw.decode? with
  | none => exact .inr ⟨decode?_eq_none_iff.mp hraw, rfl⟩
  | some text => exact .inl (decode?_eq_some_iff.mp hraw)

/-- The first broken one among named byte strings has the given name. -/
def FirstBroken (texts : List (String × RawText)) (name : String) : Prop :=
  ∃ before raw after, texts = before ++ (name, raw) :: after ∧ raw.Broken ∧
    ∀ text ∈ before, ¬text.2.Broken

end RawText

namespace ImportDescriptor

def Malformed (d : ImportDescriptor) : Prop :=
  d.classpath.Broken ∨ d.classname.Broken ∨ d.method.Broken ∨ d.signature.Broken

/-- What reading the entry at a position of a table gives. -/
structure Read (d : ImportDescriptor) (position : Nat) (r : ImportRequest) : Prop where
  index : r.index = position
  classpath : d.classpath.ReadAs r.classpath
  classname : d.classname.ReadAs r.classname
  method : d.method.ReadAs r.method
  signature : d.signature.ReadAs r.signature
  shape : r.shape = CallShape.ofTag? d.tag
  /-- The entry is marked with the first text that is broken. -/
  malformed : ∀ name, r.malformed = some name ↔ RawText.FirstBroken
    [("classpath", d.classpath), ("classname", d.classname), ("method", d.method),
      ("signature", d.signature)] name
  sound : r.malformed = none ↔ ¬d.Malformed

variable {d : ImportDescriptor}

lemma isNone_decode?_iff {raw : RawText} : raw.decode?.isNone = true ↔ raw.Broken := by
  rw [Option.isNone_iff_eq_none, RawText.decode?_eq_none_iff]

lemma malformed?_eq_some_iff {name : String} :
    d.malformed? = some name ↔ RawText.FirstBroken d.texts name := by
  unfold malformed? RawText.FirstBroken
  rw [Option.map_eq_some_iff]
  constructor
  · rintro ⟨⟨_, raw⟩, hfound, rfl⟩
    obtain ⟨hbroken, before, after, heq, hbefore⟩ := List.find?_eq_some_iff_append.mp hfound
    refine ⟨before, raw, after, heq, isNone_decode?_iff.mp hbroken, fun text htext hbroken' => ?_⟩
    have hsound := hbefore text htext
    rw [isNone_decode?_iff.mpr hbroken'] at hsound
    cases hsound
  · rintro ⟨before, raw, after, heq, hbroken, hbefore⟩
    refine ⟨(name, raw), List.find?_eq_some_iff_append.mpr ?_, rfl⟩
    refine ⟨isNone_decode?_iff.mpr hbroken, before, after, heq, fun text htext => ?_⟩
    rw [Bool.not_eq_true', Bool.eq_false_iff, Ne, isNone_decode?_iff]
    exact hbefore text htext

lemma malformed?_eq_none_iff : d.malformed? = none ↔ ¬d.Malformed := by
  unfold malformed? Malformed
  rw [Option.map_eq_none_iff, List.find?_eq_none]
  simp [texts, RawText.decode?_eq_none_iff]

lemma read_request (d : ImportDescriptor) (position : Nat) :
    d.Read position (d.request position) where
  index := rfl
  classpath := RawText.readAs_getD
  classname := RawText.readAs_getD
  method := RawText.readAs_getD
  signature := RawText.readAs_getD
  shape := rfl
  malformed _ := malformed?_eq_some_iff
  sound := malformed?_eq_none_iff

end ImportDescriptor

section Table

variable {table : List ImportDescriptor}

lemma length_importRequests : (importRequests table).length = table.length := by
  rw [importRequests, List.length_map, List.length_zipIdx]

lemma getElem?_importRequests {position : Nat} {entry : ImportDescriptor}
    (h : table[position]? = some entry) :
    (importRequests table)[position]? = some (entry.request position) := by
  rw [importRequests, List.getElem?_map, List.getElem?_zipIdx, h, Nat.zero_add]
  rfl

end Table

namespace ModuleDescriptor

variable {d : ModuleDescriptor} {t : ClassTable} {l : Linkage} {reentry : Reentry}

lemma exists_error_of_malformed {entry : ImportDescriptor} (hentry : entry ∈ d.table)
    (hmalformed : entry.Malformed) :
    ∃ e, ((ForeignModule.mk d.interface reentry).resolve t l).value.result = .error e := by
  cases hresult : ((ForeignModule.mk d.interface reentry).resolve t l).value.result with
  | error e => exact ⟨e, rfl⟩
  | ok report =>
    obtain ⟨_, hok⟩ := ForeignModule.free_and_outcome_of_ok hresult
    obtain ⟨position, hposition⟩ := List.mem_iff_getElem?.mp hentry
    have hr := List.mem_of_getElem? (getElem?_importRequests hposition)
    obtain ⟨located, hlocated⟩ := (ModuleInterface.located_of_outcome_eq_ok hok).2 _ hr
    obtain ⟨hsound, _⟩ := ClassTable.locateImport_eq_ok_iff.mp hlocated
    exact absurd hmalformed (ImportDescriptor.malformed?_eq_none_iff.mp hsound)

lemma imports_resolve_entry_of_ok (hslots : (d.table.map ImportDescriptor.slot).Nodup)
    {report : ResolveReport}
    (h : ((ForeignModule.mk d.interface reentry).resolve t l).value.result = .ok report)
    {position : Nat} {entry : ImportDescriptor} (hentry : d.table[position]? = some entry) :
    ∃ id method, t.findMethod? (entry.request position).key = some (id, method) ∧
      (entry.request position).shape = some method.shape ∧
      ((ForeignModule.mk d.interface reentry).resolve t l).linkage.imports entry.slot =
        some id := by
  have hown : (ForeignModule.mk d.interface reentry).interface.OwnSlots :=
    d.interface_ownSlots hslots
  obtain ⟨_, hbound⟩ := ForeignModule.imports_resolve_of_ok hown h
  have hr := List.mem_of_getElem? (getElem?_importRequests hentry)
  obtain ⟨slot, id, method, hslot, hmethod, hfind, hshape⟩ := hbound _ hr
  have hentrySlot : d.table[position]?.map ImportDescriptor.slot = some slot := hslot
  rw [hentry] at hentrySlot
  obtain rfl := Option.some.inj hentrySlot
  exact ⟨id, method, hfind, hshape, hmethod⟩

lemma importsBound_of_ok {report : ResolveReport}
    (h : ((ForeignModule.mk d.interface reentry).resolve t l).value.result = .ok report) :
    report.importsBound = d.table.length := by
  obtain ⟨_, hok⟩ := ForeignModule.free_and_outcome_of_ok h
  obtain ⟨hmisses, rfl⟩ := ModuleInterface.outcome_eq_ok_iff.mp hok
  exact (length_plan_imports hmisses).trans length_importRequests

/-- Reading an import table is exact, and so is binding by it. The table makes one request for each
entry, in order, and each request has the position of its entry, the texts that the entry's bytes
encode, and the name of the first of them that is broken. A module with a malformed entry is not
resolved and no slot is set. A module that is resolved has in the slot of every entry the method
found for that entry, and the report counts the entries. -/
theorem importTable_read_and_bound (d : ModuleDescriptor) (reentry : Reentry) (t : ClassTable)
    (l : Linkage) (hslots : (d.table.map ImportDescriptor.slot).Nodup) :
    let requests := importRequests d.table
    let module := ForeignModule.mk d.interface reentry
    let ended := module.resolve t l
    requests.length = d.table.length ∧
    (∀ (position : Nat) (entry : ImportDescriptor), d.table[position]? = some entry →
      ∃ r, requests[position]? = some r ∧ entry.Read position r) ∧
    ((∃ entry ∈ d.table, entry.Malformed) → (∃ e, ended.value.result = .error e) ∧
      ended.linkage = module.afterLookups t l ∧ (ended.value.nested = [] → ended.linkage = l)) ∧
    ∀ report, ended.value.result = .ok report → report.importsBound = d.table.length ∧
      ∀ (position : Nat) (entry : ImportDescriptor), d.table[position]? = some entry →
        ∃ (r : ImportRequest) (id : MethodId) (method : ManagedMethod),
          requests[position]? = some r ∧ t.findMethod? r.key = some (id, method) ∧
            r.shape = some method.shape ∧ ended.linkage.imports entry.slot = some id := by
  intro requests module ended
  refine ⟨length_importRequests, ?_, ?_, ?_⟩
  · intro position entry hentry
    exact ⟨_, getElem?_importRequests hentry, entry.read_request position⟩
  · rintro ⟨entry, hentry, hmalformed⟩
    obtain ⟨e, herror⟩ : ∃ e, ended.value.result = .error e :=
      exists_error_of_malformed hentry hmalformed
    have hlinkage := ForeignModule.linkage_resolve_of_error herror
    refine ⟨⟨e, herror⟩, hlinkage, fun hnested => ?_⟩
    exact hlinkage.trans (ForeignModule.afterLookups_of_nil hnested)
  · intro report hok
    refine ⟨importsBound_of_ok hok, fun position entry hentry => ?_⟩
    obtain ⟨id, method, hfind, hshape, hmethod⟩ := imports_resolve_entry_of_ok hslots hok hentry
    exact ⟨_, id, method, getElem?_importRequests hentry, hfind, hshape, hmethod⟩

end ModuleDescriptor

namespace Sample

/-- A module without a name whose only entry asks for the method of the table by the signature. -/
def dials (signature : RawText) : ModuleDescriptor where
  name := none
  symbol _ := none
  imports := some [⟨.ofText "it", .ofText "Tally", .ofText "tally", signature, 1, ⟨9, 0⟩⟩]

end Sample

namespace ModuleDescriptor

theorem dials_bound_or_refused :
    let sound := Sample.dials (.ofText "(III)I")
    let broken := Sample.dials (some [0x28, 0xff])
    let ended (d : ModuleDescriptor) :=
      (ForeignModule.mk d.interface .none).resolve Sample.steppingTable .empty
    (sound.table.map ImportDescriptor.slot).Nodup ∧
      (broken.table.map ImportDescriptor.slot).Nodup ∧
      (ended sound).value.result = .ok ⟨"", 0, 1⟩ ∧
      (ended sound).linkage.imports ⟨9, 0⟩ = some ⟨⟨0x40⟩, 0⟩ ∧
      (∃ e, (ended broken).value.result = .error e) ∧ (ended broken).linkage = .empty := by
  intro sound broken ended
  have hsound : (sound.table.map ImportDescriptor.slot).Nodup := List.nodup_singleton _
  have hbroken : (broken.table.map ImportDescriptor.slot).Nodup := List.nodup_singleton _
  have hrequests : importRequests sound.table =
      [⟨0, "it", "Tally", "tally", "(III)I", some .static, none⟩] := by
    simp [sound, Sample.dials, table, importRequests, ImportDescriptor.request,
      ImportDescriptor.malformed?, ImportDescriptor.texts, RawText.decode?_ofText,
      CallShape.ofTag?]
  have hok : (ended sound).value.result = .ok ⟨"", 0, 1⟩ := by
    change ((ForeignModule.mk sound.interface .none).resolve _ _).value.result = _
    rw [interface, hrequests]
    rfl
  obtain ⟨_, _, _, hbound⟩ :=
    importTable_read_and_bound sound .none Sample.steppingTable .empty hsound
  obtain ⟨_, _, hrefused, _⟩ :=
    importTable_read_and_bound broken .none Sample.steppingTable .empty hbroken
  obtain ⟨r, id, method, hr, hfind, _, hslot⟩ := (hbound _ hok).2 0 _ rfl
  have hmalformed : ∃ entry ∈ broken.table, entry.Malformed := by
    refine ⟨_, List.mem_singleton.mpr rfl, .inr (.inr (.inr ?_))⟩
    apply RawText.decode?_eq_none_iff.mp
    simp [RawText.decode?, Utf8.decode?, Utf8.pieces, Utf8.readPiece, Utf8.Piece.scalar?]
  obtain ⟨herror, _, hsame⟩ := hrefused hmalformed
  refine ⟨hsound, hbroken, hok, ?_, herror, hsame rfl⟩
  rw [hrequests] at hr
  obtain rfl := Option.some.inj hr
  obtain ⟨rfl, _⟩ := Prod.mk.inj (Option.some.inj hfind)
  exact hslot

end ModuleDescriptor

end NativeBridge
