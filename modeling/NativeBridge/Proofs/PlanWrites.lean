import Mathlib.Tactic.Common
import NativeBridge.Linking.Resolution
import NativeBridge.Proofs.ModuleLocation

/-!
# What binding writes

Binding carries out a plan: it writes the native methods one after the other and then the import
slots. This file follows these writes. They leave the ledger alone, a slot that the plan does not
name keeps what it holds, and a slot that the plan names once holds what the plan says.
-/

namespace NativeBridge

section Writes

variable {σ β κ ν : Type} [DecidableEq κ] {read : σ → κ → Option ν} {write : σ → β → σ}
  (key : β → Option κ) {value : β → ν}

lemma foldl_write_of_forall_ne
    (hwrite : ∀ s b k, read (write s b) k = if key b = some k then some (value b) else read s k)
    (entries : List β) (s : σ) (k : κ) (hk : ∀ b ∈ entries, key b ≠ some k) :
    read (entries.foldl write s) k = read s k := by
  induction entries generalizing s with
  | nil => rfl
  | cons a entries ih =>
    obtain ⟨ha, hentries⟩ := List.forall_mem_cons.mp hk
    rw [List.foldl_cons, ih (write s a) hentries, hwrite, if_neg ha]

lemma exists_foldl_write_eq
    (hwrite : ∀ s b k, read (write s b) k = if key b = some k then some (value b) else read s k)
    (entries : List β) (k : κ) (hmem : ∃ b ∈ entries, key b = some k) :
    ∃ b ∈ entries, key b = some k ∧ ∀ s, read (entries.foldl write s) k = some (value b) := by
  induction entries with
  | nil =>
    obtain ⟨b, hb, _⟩ := hmem
    cases hb
  | cons a entries ih =>
    by_cases hlater : ∃ b ∈ entries, key b = some k
    · obtain ⟨b, hb, hkey, hlast⟩ := ih hlater
      exact ⟨b, List.mem_cons_of_mem a hb, hkey, fun s => hlast (write s a)⟩
    · have hka : key a = some k := by
        obtain ⟨b, hb, hkb⟩ := hmem
        obtain rfl | hb := List.mem_cons.mp hb
        · exact hkb
        · exact absurd ⟨b, hb, hkb⟩ hlater
      have hnot : ∀ b ∈ entries, key b ≠ some k := fun b hb hkb => hlater ⟨b, hb, hkb⟩
      refine ⟨a, List.mem_cons_self, hka, ?_⟩
      intro s
      rw [List.foldl_cons, foldl_write_of_forall_ne key hwrite entries (write s a) k hnot, hwrite,
        if_pos hka]

lemma foldl_write_of_mem
    (hwrite : ∀ s b k, read (write s b) k = if key b = some k then some (value b) else read s k)
    (entries : List β) (s : σ) (k : κ) (v : ν) (hmem : ∃ b ∈ entries, key b = some k)
    (hsame : ∀ b ∈ entries, key b = some k → value b = v) :
    read (entries.foldl write s) k = some v := by
  obtain ⟨b, hb, hkey, hlast⟩ := exists_foldl_write_eq key hwrite entries k hmem
  rw [hlast, hsame b hb hkey]

end Writes

namespace Linkage

lemma bindNatives_eq (l : Linkage) (natives : List LocatedNative) :
    ∃ bound, l.bindNatives natives = { l with natives := bound } := by
  induction natives generalizing l with
  | nil => exact ⟨l.natives, rfl⟩
  | cons n natives ih =>
    obtain ⟨bound, hbound⟩ := ih (l.bindNative n.id n.address)
    exact ⟨bound, hbound⟩

@[simp] lemma ledger_bindNatives (l : Linkage) (natives : List LocatedNative) :
    (l.bindNatives natives).ledger = l.ledger := by
  obtain ⟨bound, hbound⟩ := l.bindNatives_eq natives
  rw [hbound]

@[simp] lemma imports_bindNatives (l : Linkage) (natives : List LocatedNative) :
    (l.bindNatives natives).imports = l.imports := by
  obtain ⟨bound, hbound⟩ := l.bindNatives_eq natives
  rw [hbound]

lemma bindImports_eq (l : Linkage) (slot : Nat → Option ImportSlot)
    (imports : List LocatedImport) :
    ∃ stored, l.bindImports slot imports = { l with imports := stored } := by
  induction imports generalizing l with
  | nil => exact ⟨l.imports, rfl⟩
  | cons r imports ih =>
    unfold bindImports at ih ⊢
    rw [List.foldl_cons]
    cases slot r.index with
    | some s =>
      obtain ⟨stored, hstored⟩ := ih (l.bindImport s r.method)
      exact ⟨stored, hstored⟩
    | none => exact ih l

@[simp] lemma ledger_bindImports (l : Linkage) (slot : Nat → Option ImportSlot)
    (imports : List LocatedImport) : (l.bindImports slot imports).ledger = l.ledger := by
  obtain ⟨stored, hstored⟩ := l.bindImports_eq slot imports
  rw [hstored]

@[simp] lemma natives_bindImports (l : Linkage) (slot : Nat → Option ImportSlot)
    (imports : List LocatedImport) : (l.bindImports slot imports).natives = l.natives := by
  obtain ⟨stored, hstored⟩ := l.bindImports_eq slot imports
  rw [hstored]

lemma natives_bindNative (l : Linkage) (n : LocatedNative) (id : NativeId) :
    (l.bindNative n.id n.address).natives id =
      if some n.id = some id then some n.address else l.natives id := by
  simp only [bindNative, Option.some.injEq, eq_comm]

lemma imports_bindImport? (l : Linkage) (slot : Nat → Option ImportSlot) (r : LocatedImport)
    (s : ImportSlot) :
    (match slot r.index with
      | some s => l.bindImport s r.method
      | none => l).imports s =
      if slot r.index = some s then some r.method else l.imports s := by
  cases slot r.index with
  | some s' => simp only [bindImport, Option.some.injEq, eq_comm]
  | none => simp

@[simp] lemma ledger_carryOut (l : Linkage) (i : ModuleInterface) (plan : BindingPlan) :
    (l.carryOut i plan).ledger = l.ledger := by
  simp [carryOut]

@[simp] lemma ledger_mark (l : Linkage) (name : String) (state : Option ModuleState)
    (n : String) : (l.mark name state).ledger n = if n = name then state else l.ledger n :=
  rfl

@[simp] lemma natives_mark (l : Linkage) (name : String) (state : Option ModuleState) :
    (l.mark name state).natives = l.natives :=
  rfl

@[simp] lemma imports_mark (l : Linkage) (name : String) (state : Option ModuleState) :
    (l.mark name state).imports = l.imports :=
  rfl

lemma mark_mark_none (l : Linkage) (name : String) (state : Option ModuleState)
    (hfree : l.ledger name = none) : (l.mark name state).mark name none = l := by
  have hledger : ((l.mark name state).mark name none).ledger = l.ledger := by
    funext n
    by_cases hn : n = name
    · subst hn
      simp [hfree]
    · simp [hn]
  cases l
  simpa [mark] using hledger

section AnyPlan

variable (l l' : Linkage) (i : ModuleInterface) (plan : BindingPlan)

lemma natives_carryOut_eq_of_mem {id : NativeId} (h : ∃ n ∈ plan.natives, some n.id = some id) :
    (l.carryOut i plan).natives id = (l'.carryOut i plan).natives id := by
  obtain ⟨n, _, _, hlast⟩ := exists_foldl_write_eq (fun n : LocatedNative => some n.id)
    natives_bindNative _ id h
  rw [carryOut, natives_bindImports, carryOut, natives_bindImports]
  exact (hlast l).trans (hlast l').symm

lemma natives_carryOut_of_notMem {id : NativeId} (h : ¬∃ n ∈ plan.natives, some n.id = some id) :
    (l.carryOut i plan).natives id = l.natives id := by
  rw [carryOut, natives_bindImports]
  refine foldl_write_of_forall_ne (fun n => some n.id) natives_bindNative _ l id ?_
  exact fun n hn heq => h ⟨n, hn, heq⟩

lemma imports_carryOut_eq_of_mem {slot : ImportSlot}
    (h : ∃ r ∈ plan.imports, i.slot r.index = some slot) :
    (l.carryOut i plan).imports slot = (l'.carryOut i plan).imports slot := by
  obtain ⟨r, _, _, hlast⟩ := exists_foldl_write_eq (fun r : LocatedImport => i.slot r.index)
    (fun l r s => imports_bindImport? l i.slot r s) _ slot h
  exact (hlast _).trans (hlast _).symm

lemma imports_carryOut_of_notMem {slot : ImportSlot}
    (h : ¬∃ r ∈ plan.imports, i.slot r.index = some slot) :
    (l.carryOut i plan).imports slot = l.imports slot := by
  have hwritten : (l.carryOut i plan).imports slot =
      (l.bindNatives plan.natives).imports slot := by
    apply foldl_write_of_forall_ne (fun r : LocatedImport => i.slot r.index)
      (fun l r s => imports_bindImport? l i.slot r s)
    exact fun r hr heq => h ⟨r, hr, heq⟩
  rw [hwritten, imports_bindNatives]

end AnyPlan

section CarryOut

variable {t : ClassTable} {i : ModuleInterface} (l : Linkage)

lemma natives_carryOut_of_forall_ne (id : NativeId) (hid : ∀ d ∈ t.nativesOf i.name, d.id ≠ id) :
    (l.carryOut i (i.plan t)).natives id = l.natives id := by
  apply natives_carryOut_of_notMem
  rintro ⟨located, hlocated, heq⟩
  obtain ⟨d, hd, address, _, rfl⟩ := ModuleInterface.mem_plan_natives.mp hlocated
  exact hid d hd (Option.some.inj heq)

lemma natives_carryOut_of_mem {d : DeclaredNative} {address : CodeAddress}
    (hd : d ∈ t.nativesOf i.name) (haddress : i.nativeAddress? d = some address)
    (hunique : ∀ d' ∈ t.nativesOf i.name, d'.id = d.id → d' = d) :
    (l.carryOut i (i.plan t)).natives d.id = some address := by
  rw [carryOut, natives_bindImports]
  refine foldl_write_of_mem (fun n => some n.id) natives_bindNative _ l d.id address ?_ ?_
  · exact ⟨_, ModuleInterface.mem_plan_natives.mpr ⟨d, hd, address, haddress, rfl⟩, rfl⟩
  · rintro located hlocated heq
    obtain ⟨d', hd', address', haddress', rfl⟩ := ModuleInterface.mem_plan_natives.mp hlocated
    obtain rfl := hunique d' hd' (Option.some.inj heq)
    exact Option.some.inj (haddress'.symm.trans haddress)

lemma natives_carryOut_eq_some_iff
    (hlocated : ∀ d ∈ t.nativesOf i.name, ∃ address, i.nativeAddress? d = some address)
    (hdistinct : t.NativesDistinct i.name)
    (id : NativeId) (address : CodeAddress) :
    (l.carryOut i (i.plan t)).natives id = some address ↔
      (∃ d ∈ t.nativesOf i.name, d.id = id ∧ i.nativeAddress? d = some address) ∨
        (∀ d ∈ t.nativesOf i.name, d.id ≠ id) ∧ l.natives id = some address := by
  by_cases hmine : ∃ d ∈ t.nativesOf i.name, d.id = id
  · obtain ⟨d, hd, rfl⟩ := hmine
    obtain ⟨found, hfound⟩ := hlocated d hd
    rw [l.natives_carryOut_of_mem hd hfound (hdistinct d hd)]
    constructor
    · intro heq
      exact .inl ⟨d, hd, rfl, hfound.trans heq⟩
    · rintro (⟨d', hd', hid, haddress⟩ | ⟨hother, _⟩)
      · obtain rfl := hdistinct d hd d' hd' hid
        exact hfound.symm.trans haddress
      · exact absurd rfl (hother d hd)
  · have hother : ∀ d ∈ t.nativesOf i.name, d.id ≠ id := fun d hd hid => hmine ⟨d, hd, hid⟩
    rw [l.natives_carryOut_of_forall_ne id hother]
    constructor
    · intro hold
      exact .inr ⟨hother, hold⟩
    · rintro (⟨d, hd, hid, _⟩ | ⟨_, hold⟩)
      · exact absurd hid (hother d hd)
      · exact hold

lemma imports_carryOut_of_forall_ne (slot : ImportSlot)
    (hslot : ∀ r ∈ i.imports, i.slot r.index ≠ some slot) :
    (l.carryOut i (i.plan t)).imports slot = l.imports slot := by
  apply imports_carryOut_of_notMem
  rintro ⟨located, hlocated, heq⟩
  obtain ⟨r, hr, hlocate⟩ := ModuleInterface.mem_plan_imports.mp hlocated
  obtain ⟨_, id, method, _, _, rfl⟩ := ClassTable.locateImport_eq_ok_iff.mp hlocate
  exact hslot r hr heq

lemma imports_carryOut_of_mem {r : ImportRequest} {located : LocatedImport} {slot : ImportSlot}
    (hr : r ∈ i.imports) (hlocate : t.locateImport r = .ok located)
    (hslot : i.slot r.index = some slot)
    (hunique : ∀ r' ∈ i.imports, i.slot r'.index = some slot → r' = r) :
    (l.carryOut i (i.plan t)).imports slot = some located.method := by
  have hindex : ∀ (r' : ImportRequest) (located' : LocatedImport),
      t.locateImport r' = .ok located' → located'.index = r'.index := by
    intro r' located' hlocate'
    obtain ⟨_, id, method, _, _, rfl⟩ := ClassTable.locateImport_eq_ok_iff.mp hlocate'
    rfl
  apply foldl_write_of_mem (fun r : LocatedImport => i.slot r.index)
    (fun l r s => imports_bindImport? l i.slot r s)
  · refine ⟨located, ModuleInterface.mem_plan_imports.mpr ⟨r, hr, hlocate⟩, ?_⟩
    rw [hindex r located hlocate, hslot]
  · intro located' hlocated' hslot'
    obtain ⟨r', hr', hlocate'⟩ := ModuleInterface.mem_plan_imports.mp hlocated'
    rw [hindex r' located' hlocate'] at hslot'
    obtain rfl := hunique r' hr' hslot'
    rw [hlocate] at hlocate'
    exact congrArg LocatedImport.method (Except.ok.inj hlocate'.symm)

end CarryOut

end Linkage

end NativeBridge
