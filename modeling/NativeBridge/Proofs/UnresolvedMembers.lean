import NativeBridge.Proofs.ResolutionOutcome

/-!
# The list of unresolved members

A resolution that fails to locate members lists them. This file says that the list is exact. A
member is a native method, by its place in the class table, or an import, by its place in the
module; it is listed once if it cannot be located and not at all otherwise. Natives come before
imports, each in order, and an import is listed with the first reason that applies.
-/

namespace NativeBridge

section Positions

variable {α β : Type}

/-- What a function gives on the elements of a list, each with the position of its element. -/
def filterMapAt (f : α → Option β) (xs : List α) : List (Nat × β) :=
  xs.zipIdx.filterMap fun x => (f x.1).map fun b => (x.2, b)

variable {f : α → Option β} {xs : List α}

lemma map_snd_filterMapAt : (filterMapAt f xs).map Prod.snd = xs.filterMap f := by
  have helement : ∀ x : α × Nat, ((f x.1).map fun b => (x.2, b)).map Prod.snd = f x.1 := by
    intro x
    cases f x.1 <;> rfl
  calc (filterMapAt f xs).map Prod.snd
      = xs.zipIdx.filterMap fun x => ((f x.1).map fun b => (x.2, b)).map Prod.snd :=
        List.map_filterMap
    _ = xs.zipIdx.filterMap fun x => f x.1 := by simp only [helement]
    _ = (xs.zipIdx.map Prod.fst).filterMap f := List.filterMap_map.symm
    _ = xs.filterMap f := by rw [List.zipIdx_map_fst]

lemma mem_filterMapAt {k : Nat} {b : β} :
    (k, b) ∈ filterMapAt f xs ↔ ∃ x, xs[k]? = some x ∧ f x = some b := by
  rw [filterMapAt, List.mem_filterMap]
  constructor
  · rintro ⟨⟨x, k'⟩, hx, hb⟩
    obtain ⟨b', hb', heq⟩ := Option.map_eq_some_iff.mp hb
    obtain ⟨rfl, rfl⟩ := Prod.mk.inj heq
    exact ⟨x, List.mk_mem_zipIdx_iff_getElem?.mp hx, hb'⟩
  · rintro ⟨x, hx, hb⟩
    refine ⟨(x, k), List.mk_mem_zipIdx_iff_getElem?.mpr hx, ?_⟩
    rw [hb]
    rfl

lemma pairwise_zipIdx (xs : List α) (n : Nat) :
    (xs.zipIdx n).Pairwise fun x y => x.2 < y.2 := by
  induction xs generalizing n with
  | nil => exact List.Pairwise.nil
  | cons x xs ih =>
    rw [List.zipIdx_cons, List.pairwise_cons]
    refine ⟨?_, ih (n + 1)⟩
    rintro ⟨y, k⟩ hy
    exact (List.mk_mem_zipIdx_iff_le_and_getElem?_sub.mp hy).1

lemma pairwise_filterMapAt : (filterMapAt f xs).Pairwise fun x y => x.1 < y.1 := by
  rw [filterMapAt, List.pairwise_filterMap]
  refine (pairwise_zipIdx xs 0).imp ?_
  rintro ⟨x, k⟩ ⟨y, k'⟩ hlt b hb b' hb'
  obtain ⟨_, _, rfl⟩ := Option.map_eq_some_iff.mp hb
  obtain ⟨_, _, rfl⟩ := Option.map_eq_some_iff.mp hb'
  exact hlt

end Positions

lemma failures_map {ε α β : Type} {f : α → Except ε β} {g : α → Option ε}
    (h : ∀ x e, g x = some e ↔ f x = .error e) (xs : List α) :
    failures (xs.map f) = xs.filterMap g := by
  rw [failures, List.filterMap_map]
  refine List.filterMap_congr fun x _ => Option.ext fun e => ?_
  rw [h, Function.comp_apply]
  cases f x with
  | ok b => simp
  | error e' => simp

/-- What a resolution has to locate. -/
inductive Member where
  /-- The native method at a position in the class at a position of the table. -/
  | native (cls index : Nat)
  /-- The request at a position among those of the module. -/
  | request (index : Nat)
deriving DecidableEq, Repr

/-- The order in which members are listed. -/
def Member.Before : Member → Member → Prop
  | native cls index, native cls' index' => cls < cls' ∨ cls = cls' ∧ index < index'
  | native .., request _ => True
  | request _, native .. => False
  | request index, request index' => index < index'

lemma Member.Before.ne {member member' : Member} (h : member.Before member') :
    member ≠ member' := by
  rintro rfl
  cases member with
  | native cls index => exact h.elim (Nat.lt_irrefl _) fun hlt => Nat.lt_irrefl _ hlt.2
  | request index => exact Nat.lt_irrefl _ h

namespace ModuleInterface

/-- A member of the module that cannot be located in the table or among the exports, with the reason
that is given for it. -/
inductive Lacks (i : ModuleInterface) (t : ClassTable) : Member → Miss → Prop where
  /-- The native method names the module and is exported under neither symbol. -/
  | native {k j : Nat} {cls : Class} {native : NativeMethod} (hcls : t.classes[k]? = some cls)
      (hnative : cls.natives[j]? = some native) (hname : native.moduleName = i.name)
      (hshort : i.symbol (Symbol.short cls.fullName native.name) = none)
      (hlong : i.symbol (Symbol.long cls.fullName native.name native.signature) = none) :
      Lacks i t (.native k j) (.native (Symbol.short cls.fullName native.name)
        (Symbol.long cls.fullName native.name native.signature))
  | malformed {j : Nat} {r : ImportRequest} {field : String} (hr : i.imports[j]? = some r)
      (hmalformed : r.malformed = some field) : Lacks i t (.request j) (.malformed r.index field)
  | unknownMember {j : Nat} {r : ImportRequest} (hr : i.imports[j]? = some r)
      (hmalformed : r.malformed = none) (hfind : t.findMethod? r.key = none) :
      Lacks i t (.request j) (.unknownMember r.key)
  | unknownShape {j : Nat} {r : ImportRequest} {found : MethodId × ManagedMethod}
      (hr : i.imports[j]? = some r) (hmalformed : r.malformed = none)
      (hfind : t.findMethod? r.key = some found) (hshape : r.shape = none) :
      Lacks i t (.request j) (.unknownShape r.key)
  | otherShape {j : Nat} {r : ImportRequest} {found : MethodId × ManagedMethod}
      {declared : CallShape} (hr : i.imports[j]? = some r) (hmalformed : r.malformed = none)
      (hfind : t.findMethod? r.key = some found) (hshape : r.shape = some declared)
      (hother : found.2.shape ≠ declared) :
      Lacks i t (.request j) (.otherShape r.key declared found.2.shape)

variable {i : ModuleInterface} {t : ClassTable}

/-- How a native method of a class is missed, if it is exported under neither symbol. -/
def unexported? (i : ModuleInterface) (cls : Class) (native : NativeMethod) : Option Miss :=
  match i.symbol (Symbol.short cls.fullName native.name),
    i.symbol (Symbol.long cls.fullName native.name native.signature) with
  | none, none => some (.native (Symbol.short cls.fullName native.name)
      (Symbol.long cls.fullName native.name native.signature))
  | _, _ => none

/-- How a native method of a class is missed, if it names the module. -/
def nativeMiss? (i : ModuleInterface) (cls : Class) (native : NativeMethod) : Option Miss :=
  if native.moduleName == i.name then i.unexported? cls native else none

lemma unexported?_eq_some_iff {cls : Class} {native : NativeMethod} {miss : Miss} :
    i.unexported? cls native = some miss ↔
      i.symbol (Symbol.short cls.fullName native.name) = none ∧
      i.symbol (Symbol.long cls.fullName native.name native.signature) = none ∧
      miss = .native (Symbol.short cls.fullName native.name)
        (Symbol.long cls.fullName native.name native.signature) := by
  unfold unexported?
  cases i.symbol (Symbol.short cls.fullName native.name) with
  | some address => simp
  | none =>
    cases i.symbol (Symbol.long cls.fullName native.name native.signature) with
    | some address => simp
    | none => simp [eq_comm]

lemma nativeMiss?_eq_some_iff {cls : Class} {native : NativeMethod} {miss : Miss} :
    i.nativeMiss? cls native = some miss ↔
      native.moduleName = i.name ∧ i.unexported? cls native = some miss := by
  unfold nativeMiss?
  by_cases hname : native.moduleName = i.name
  · simp [hname]
  · simp [hname]

lemma locateNative_eq_error_iff {d : DeclaredNative} {miss : Miss} :
    i.locateNative d = .error miss ↔ i.unexported? d.cls d.method = some miss := by
  rw [unexported?_eq_some_iff]
  unfold locateNative nativeAddress? DeclaredNative.shortSymbol DeclaredNative.longSymbol
  cases i.symbol (Symbol.short d.cls.fullName d.method.name) with
  | some address => simp
  | none =>
    cases i.symbol (Symbol.long d.cls.fullName d.method.name d.method.signature) with
    | some address => simp
    | none => simp [eq_comm]

end ModuleInterface

/-- How a request is missed, if no method of the table is located for it. -/
def ClassTable.requestMiss? (t : ClassTable) (r : ImportRequest) : Option Miss :=
  match t.locateImport r with
  | .ok _ => none
  | .error miss => some miss

lemma ClassTable.requestMiss?_eq_some_iff {t : ClassTable} {r : ImportRequest} {miss : Miss} :
    t.requestMiss? r = some miss ↔ t.locateImport r = .error miss := by
  unfold requestMiss?
  cases t.locateImport r with
  | ok located => simp
  | error miss' => simp

namespace ModuleInterface

variable {i : ModuleInterface} {t : ClassTable}

lemma lacks_request_iff {j : Nat} {miss : Miss} :
    i.Lacks t (.request j) miss ↔
      ∃ r, i.imports[j]? = some r ∧ t.locateImport r = .error miss := by
  constructor
  · intro hlacks
    cases hlacks with
    | malformed hr hmalformed =>
      exact ⟨_, hr, by simp only [ClassTable.locateImport, hmalformed]⟩
    | unknownMember hr hmalformed hfind =>
      exact ⟨_, hr, by simp only [ClassTable.locateImport, hmalformed, hfind]⟩
    | unknownShape hr hmalformed hfind hshape =>
      exact ⟨_, hr, by simp only [ClassTable.locateImport, hmalformed, hfind, hshape]⟩
    | otherShape hr hmalformed hfind hshape hother =>
      refine ⟨_, hr, ?_⟩
      simp only [ClassTable.locateImport, hmalformed, hfind, hshape, if_neg hother]
  · rintro ⟨r, hr, hmiss⟩
    -- The cases follow the order of the checks; each reason presupposes those before to pass.
    unfold ClassTable.locateImport at hmiss
    cases hmalformed : r.malformed with
    | some field =>
      rw [hmalformed] at hmiss
      obtain rfl := Except.error.inj hmiss
      exact .malformed hr hmalformed
    | none =>
      cases hfind : t.findMethod? r.key with
      | none =>
        rw [hmalformed, hfind] at hmiss
        obtain rfl := Except.error.inj hmiss
        exact .unknownMember hr hmalformed hfind
      | some found =>
        cases hshape : r.shape with
        | none =>
          rw [hmalformed, hfind, hshape] at hmiss
          obtain rfl := Except.error.inj hmiss
          exact .unknownShape hr hmalformed hfind hshape
        | some declared =>
          rw [hmalformed, hfind, hshape] at hmiss
          by_cases hother : found.2.shape = declared
          · simp [hother] at hmiss
          · simp only [if_neg hother] at hmiss
            obtain rfl := Except.error.inj hmiss
            exact .otherShape hr hmalformed hfind hshape hother

lemma lacks_native_iff {k j : Nat} {miss : Miss} :
    i.Lacks t (.native k j) miss ↔ ∃ cls, t.classes[k]? = some cls ∧
      ∃ native, cls.natives[j]? = some native ∧ i.nativeMiss? cls native = some miss := by
  constructor
  · intro hlacks
    cases hlacks with
    | native hcls hnative hname hshort hlong =>
      refine ⟨_, hcls, _, hnative, nativeMiss?_eq_some_iff.mpr ⟨hname, ?_⟩⟩
      exact unexported?_eq_some_iff.mpr ⟨hshort, hlong, rfl⟩
  · rintro ⟨cls, hcls, native, hnative, hmiss⟩
    obtain ⟨hname, hunexported⟩ := nativeMiss?_eq_some_iff.mp hmiss
    obtain ⟨hshort, hlong, rfl⟩ := unexported?_eq_some_iff.mp hunexported
    exact .native hcls hnative hname hshort hlong

def lackedNatives (i : ModuleInterface) (t : ClassTable) : List (Member × Miss) :=
  t.classes.zipIdx.flatMap fun cls =>
    (filterMapAt (i.nativeMiss? cls.1) cls.1.natives).map fun e => (.native cls.2 e.1, e.2)

def lackedRequests (i : ModuleInterface) (t : ClassTable) : List (Member × Miss) :=
  (filterMapAt t.requestMiss? i.imports).map fun e => (.request e.1, e.2)

def lackedMembers (i : ModuleInterface) (t : ClassTable) : List (Member × Miss) :=
  i.lackedNatives t ++ i.lackedRequests t

lemma mem_lackedNatives {member : Member} {miss : Miss} :
    (member, miss) ∈ i.lackedNatives t ↔ ∃ k j, member = .native k j ∧ i.Lacks t member miss := by
  rw [lackedNatives, List.mem_flatMap]
  constructor
  · rintro ⟨⟨cls, k⟩, hcls, hmem⟩
    obtain ⟨⟨j, miss'⟩, hentry, heq⟩ := List.mem_map.mp hmem
    obtain ⟨rfl, rfl⟩ := Prod.mk.inj heq
    obtain ⟨native, hnative, hmiss⟩ := mem_filterMapAt.mp hentry
    refine ⟨k, j, rfl, lacks_native_iff.mpr ?_⟩
    exact ⟨cls, List.mk_mem_zipIdx_iff_getElem?.mp hcls, native, hnative, hmiss⟩
  · rintro ⟨k, j, rfl, hlacks⟩
    obtain ⟨cls, hcls, native, hnative, hmiss⟩ := lacks_native_iff.mp hlacks
    refine ⟨(cls, k), List.mk_mem_zipIdx_iff_getElem?.mpr hcls, List.mem_map.mpr ?_⟩
    exact ⟨(j, miss), mem_filterMapAt.mpr ⟨native, hnative, hmiss⟩, rfl⟩

lemma mem_lackedRequests {member : Member} {miss : Miss} :
    (member, miss) ∈ i.lackedRequests t ↔ ∃ j, member = .request j ∧ i.Lacks t member miss := by
  rw [lackedRequests, List.mem_map]
  constructor
  · rintro ⟨⟨j, miss'⟩, hentry, heq⟩
    obtain ⟨rfl, rfl⟩ := Prod.mk.inj heq
    obtain ⟨r, hr, hmiss⟩ := mem_filterMapAt.mp hentry
    exact ⟨j, rfl, lacks_request_iff.mpr ⟨r, hr, ClassTable.requestMiss?_eq_some_iff.mp hmiss⟩⟩
  · rintro ⟨j, rfl, hlacks⟩
    obtain ⟨r, hr, hmiss⟩ := lacks_request_iff.mp hlacks
    refine ⟨(j, miss), mem_filterMapAt.mpr ⟨r, hr, ?_⟩, rfl⟩
    exact ClassTable.requestMiss?_eq_some_iff.mpr hmiss

lemma mem_lackedMembers {member : Member} {miss : Miss} :
    (member, miss) ∈ i.lackedMembers t ↔ i.Lacks t member miss := by
  rw [lackedMembers, List.mem_append, mem_lackedNatives, mem_lackedRequests]
  constructor
  · rintro (⟨_, _, _, hlacks⟩ | ⟨_, _, hlacks⟩)
    · exact hlacks
    · exact hlacks
  · intro hlacks
    cases member with
    | native k j => exact .inl ⟨k, j, rfl, hlacks⟩
    | request j => exact .inr ⟨j, rfl, hlacks⟩

lemma pairwise_lackedNatives :
    (i.lackedNatives t).Pairwise fun x y => x.1.Before y.1 := by
  rw [lackedNatives, List.pairwise_flatMap]
  constructor
  · intro cls _
    rw [List.pairwise_map]
    exact pairwise_filterMapAt.imp fun hlt => .inr ⟨rfl, hlt⟩
  · refine (pairwise_zipIdx t.classes 0).imp ?_
    intro cls cls' hlt x hx y hy
    obtain ⟨e, _, rfl⟩ := List.mem_map.mp hx
    obtain ⟨e', _, rfl⟩ := List.mem_map.mp hy
    exact .inl hlt

lemma pairwise_lackedMembers :
    (i.lackedMembers t).Pairwise fun x y => x.1.Before y.1 := by
  rw [lackedMembers, List.pairwise_append]
  refine ⟨pairwise_lackedNatives, ?_, ?_⟩
  · rw [lackedRequests, List.pairwise_map]
    exact pairwise_filterMapAt.imp fun hlt => hlt
  · rintro ⟨x, _⟩ hx ⟨y, _⟩ hy
    obtain ⟨k, j, rfl, _⟩ := mem_lackedNatives.mp hx
    obtain ⟨j', rfl, _⟩ := mem_lackedRequests.mp hy
    trivial

lemma failures_locateNative_class (cls : Class) :
    failures (((cls.declaredNatives.filter fun d => d.2.moduleName == i.name).map
      fun d => (⟨cls, d.1, d.2⟩ : DeclaredNative)).map i.locateNative) =
      cls.natives.filterMap (i.nativeMiss? cls) := by
  calc failures (((cls.declaredNatives.filter fun d => d.2.moduleName == i.name).map
        fun d => (⟨cls, d.1, d.2⟩ : DeclaredNative)).map i.locateNative)
      = (cls.declaredNatives.filter fun d => d.2.moduleName == i.name).filterMap
          fun d => i.unexported? cls d.2 := by
        rw [failures_map fun _ _ => locateNative_eq_error_iff.symm, List.filterMap_map]
        rfl
    _ = cls.declaredNatives.filterMap fun d => i.nativeMiss? cls d.2 := by
        rw [List.filterMap_filter]
        rfl
    _ = (cls.natives.zipIdx.map Prod.fst).filterMap (i.nativeMiss? cls) := by
        rw [Class.declaredNatives, List.filterMap_map, List.filterMap_map]
        rfl
    _ = cls.natives.filterMap (i.nativeMiss? cls) := by rw [List.zipIdx_map_fst]

lemma map_snd_lackedNatives :
    (i.lackedNatives t).map Prod.snd = failures (i.locatedNatives t) := by
  have hclass : ∀ cls : Class × Nat,
      ((filterMapAt (i.nativeMiss? cls.1) cls.1.natives).map fun e =>
        (Member.native cls.2 e.1, e.2)).map Prod.snd =
        cls.1.natives.filterMap (i.nativeMiss? cls.1) := by
    intro cls
    rw [List.map_map, ← map_snd_filterMapAt]
    rfl
  -- The positions in a class are forgotten first, and then the positions of the classes.
  calc (i.lackedNatives t).map Prod.snd
      = t.classes.zipIdx.flatMap fun cls => cls.1.natives.filterMap (i.nativeMiss? cls.1) := by
        rw [lackedNatives, List.map_flatMap]
        simp only [hclass]
    _ = (t.classes.zipIdx.map Prod.fst).flatMap fun cls =>
          cls.natives.filterMap (i.nativeMiss? cls) := by rw [List.flatMap_map]
    _ = t.classes.flatMap fun cls => cls.natives.filterMap (i.nativeMiss? cls) := by
        rw [List.zipIdx_map_fst]
    _ = failures (i.locatedNatives t) := by
        rw [locatedNatives, ClassTable.nativesOf, List.map_flatMap, failures,
          List.filterMap_flatMap]
        simp only [← failures_locateNative_class]
        rfl

lemma map_snd_lackedRequests :
    (i.lackedRequests t).map Prod.snd = failures (i.locatedImports t) := by
  calc (i.lackedRequests t).map Prod.snd
      = (filterMapAt t.requestMiss? i.imports).map Prod.snd := by
        rw [lackedRequests, List.map_map]
        rfl
    _ = i.imports.filterMap t.requestMiss? := map_snd_filterMapAt
    _ = failures (i.locatedImports t) :=
        (failures_map (fun _ _ => ClassTable.requestMiss?_eq_some_iff) i.imports).symm

lemma map_snd_lackedMembers : (i.lackedMembers t).map Prod.snd = i.misses t := by
  rw [lackedMembers, List.map_append, map_snd_lackedNatives, map_snd_lackedRequests]
  rfl

lemma exists_lacks_native_iff :
    (∃ k j miss, i.Lacks t (.native k j) miss) ↔
      ∃ cls ∈ t.classes, ∃ native ∈ cls.natives, native.moduleName = i.name ∧
        i.symbol (Symbol.short cls.fullName native.name) = none ∧
        i.symbol (Symbol.long cls.fullName native.name native.signature) = none := by
  constructor
  · rintro ⟨k, j, miss, hlacks⟩
    cases hlacks with
    | native hcls hnative hname hshort hlong =>
      exact ⟨_, List.mem_of_getElem? hcls, _, List.mem_of_getElem? hnative, hname, hshort, hlong⟩
  · rintro ⟨cls, hcls, native, hnative, hname, hshort, hlong⟩
    obtain ⟨k, hk⟩ := List.mem_iff_getElem?.mp hcls
    obtain ⟨j, hj⟩ := List.mem_iff_getElem?.mp hnative
    exact ⟨k, j, _, .native hk hj hname hshort hlong⟩

lemma exists_lacks_request_iff :
    (∃ j miss, i.Lacks t (.request j) miss) ↔
      ∃ r ∈ i.imports, r.malformed ≠ none ∨ t.findMethod? r.key = none ∨ r.shape = none ∨
        ∃ id method, t.findMethod? r.key = some (id, method) ∧ r.shape ≠ some method.shape := by
  constructor
  · rintro ⟨j, miss, hlacks⟩
    cases hlacks with
    | malformed hr hmalformed =>
      exact ⟨_, List.mem_of_getElem? hr, .inl (Option.ne_none_iff_exists'.mpr ⟨_, hmalformed⟩)⟩
    | unknownMember hr _ hfind => exact ⟨_, List.mem_of_getElem? hr, .inr (.inl hfind)⟩
    | unknownShape hr _ _ hshape => exact ⟨_, List.mem_of_getElem? hr, .inr (.inr (.inl hshape))⟩
    | otherShape hr _ hfind hshape hother =>
      refine ⟨_, List.mem_of_getElem? hr, .inr (.inr (.inr ⟨_, _, hfind, ?_⟩))⟩
      rw [hshape]
      exact fun heq => hother (Option.some.inj heq).symm
  · rintro ⟨r, hr, hreason⟩
    obtain ⟨j, hj⟩ := List.mem_iff_getElem?.mp hr
    refine ⟨j, ?_⟩
    by_contra hlacks
    -- A request with no reason to be missed is located, against the reason given.
    obtain ⟨located, hlocated⟩ : ∃ located, t.locateImport r = .ok located := by
      cases hlocate : t.locateImport r with
      | ok located => exact ⟨located, rfl⟩
      | error miss => exact absurd ⟨miss, lacks_request_iff.mpr ⟨r, hj, hlocate⟩⟩ hlacks
    obtain ⟨hmalformed, id, method, hfind, hshape, _⟩ :=
      ClassTable.locateImport_eq_ok_iff.mp hlocated
    obtain hbroken | hgone | hunknown | ⟨id', method', hfind', hother⟩ := hreason
    · exact hbroken hmalformed
    · cases hgone.symm.trans hfind
    · cases hunknown.symm.trans hshape
    · obtain ⟨_, rfl⟩ := Prod.mk.inj (Option.some.inj (hfind'.symm.trans hfind))
      exact hother hshape

lemma outcome_eq_unresolved_iff {name : String} {missing : List Miss} :
    i.outcome t = .error (.unresolved name missing) ↔
      name = i.name ∧ missing = (i.lackedMembers t).map Prod.snd ∧ i.lackedMembers t ≠ [] := by
  have hnil : i.lackedMembers t = [] ↔ i.misses t = [] := by
    rw [← map_snd_lackedMembers, List.map_eq_nil_iff]
  rw [map_snd_lackedMembers, Ne, hnil]
  unfold outcome
  cases i.misses t with
  | nil => simp
  | cons miss others => simp [eq_comm]

lemma lackedMembers_ne_nil_iff :
    i.lackedMembers t ≠ [] ↔ ∃ member miss, i.Lacks t member miss := by
  constructor
  · intro hlacked
    obtain ⟨⟨member, miss⟩, hmem⟩ := List.exists_mem_of_ne_nil _ hlacked
    exact ⟨member, miss, mem_lackedMembers.mp hmem⟩
  · rintro ⟨member, miss, hlacks⟩
    exact List.ne_nil_of_mem (mem_lackedMembers.mpr hlacks)

lemma exists_lacks_iff :
    (∃ member miss, i.Lacks t member miss) ↔
      (∃ k j miss, i.Lacks t (.native k j) miss) ∨ ∃ j miss, i.Lacks t (.request j) miss := by
  constructor
  · rintro ⟨member, miss, hlacks⟩
    cases member with
    | native k j => exact .inl ⟨k, j, miss, hlacks⟩
    | request j => exact .inr ⟨j, miss, hlacks⟩
  · rintro (⟨k, j, miss, hlacks⟩ | ⟨j, miss, hlacks⟩)
    · exact ⟨_, miss, hlacks⟩
    · exact ⟨_, miss, hlacks⟩

end ModuleInterface

namespace ForeignModule

variable {t : ClassTable} {module : ForeignModule} {l : Linkage}

/-- The list of unresolved members is exact. A module whose name is free is left unresolved exactly
when a native method that names it is exported under neither symbol, or one of its requests is
malformed, finds no method, has an unknown shape or declares another shape than the method has. The
list then has one entry for each member that is lacking and none for any other, natives first in
table and declaration order and then requests in order, each with the first reason that applies. -/
theorem unresolved_lists_lacked (hfree : l.ledger module.interface.name = none) :
    let i := module.interface
    let result := (module.resolve t l).value.result
    ((∃ name missing, result = .error (.unresolved name missing)) ↔
      (∃ cls ∈ t.classes, ∃ native ∈ cls.natives, native.moduleName = i.name ∧
        i.symbol (Symbol.short cls.fullName native.name) = none ∧
        i.symbol (Symbol.long cls.fullName native.name native.signature) = none) ∨
      ∃ r ∈ i.imports, r.malformed ≠ none ∨ t.findMethod? r.key = none ∨ r.shape = none ∨
        ∃ id method, t.findMethod? r.key = some (id, method) ∧ r.shape ≠ some method.shape) ∧
    ∀ name missing, result = .error (.unresolved name missing) →
      name = i.name ∧ ∃ entries : List (Member × Miss), missing = entries.map Prod.snd ∧
        (entries.map Prod.fst).Nodup ∧ (entries.map Prod.fst).Pairwise Member.Before ∧
        ∀ member miss, (member, miss) ∈ entries ↔ i.Lacks t member miss := by
  intro i result
  have hresult : result = i.outcome t := by
    change (module.resolve t l).value.result = _
    rw [result_resolve, if_pos hfree]
  rw [hresult, ← ModuleInterface.exists_lacks_native_iff,
    ← ModuleInterface.exists_lacks_request_iff, ← ModuleInterface.exists_lacks_iff,
    ← ModuleInterface.lackedMembers_ne_nil_iff]
  constructor
  · constructor
    · rintro ⟨name, missing, h⟩
      exact (ModuleInterface.outcome_eq_unresolved_iff.mp h).2.2
    · intro hlacked
      exact ⟨i.name, _, ModuleInterface.outcome_eq_unresolved_iff.mpr ⟨rfl, rfl, hlacked⟩⟩
  · intro name missing h
    obtain ⟨rfl, rfl, _⟩ := ModuleInterface.outcome_eq_unresolved_iff.mp h
    have hordered :=
      List.pairwise_map.mpr (ModuleInterface.pairwise_lackedMembers (i := i) (t := t))
    refine ⟨rfl, i.lackedMembers t, rfl, ?_, hordered, fun _ _ => ModuleInterface.mem_lackedMembers⟩
    exact hordered.imp Member.Before.ne

end ForeignModule

namespace Sample

/-- The second module of the table, which exports nothing and asks for the method of the table with
its shape, with another one, with a text that is not UTF-8, and with an unknown shape. -/
def wornBrakes : ModuleInterface where
  name := "brakes"
  symbol _ := none
  imports :=
    [⟨0, "it", "Tally", "tally", "(III)I", some .static, none⟩,
      ⟨1, "it", "Tally", "tally", "(III)I", some .virtual, none⟩,
      ⟨2, "", "Tally", "tally", "(III)I", some .static, some "classpath"⟩,
      ⟨3, "it", "Tally", "tally", "(III)I", none, none⟩,
      ⟨4, "it", "Tally", "tally", "()I", none, none⟩]
  slot index := some ⟨8, index⟩
  mapping := none

end Sample

namespace ForeignModule

theorem wornBrakes_listed :
    let module := ForeignModule.mk Sample.wornBrakes .none
    let tally : MemberKey := ⟨"it", "Tally", "tally", "(III)I"⟩
    let missing : List Miss := [.native "Java_it_Tally_halt" "Java_it_Tally_halt__",
      .otherShape tally .virtual .static, .malformed 2 "classpath", .unknownShape tally,
      .unknownMember ⟨"it", "Tally", "tally", "()I"⟩]
    Linkage.empty.ledger module.interface.name = none ∧
      (module.resolve Sample.steppingTable .empty).value.result =
        .error (.unresolved "brakes" missing) ∧
      ∃ entries : List (Member × Miss), missing = entries.map Prod.snd ∧
        ∀ member miss, (member, miss) ∈ entries ↔
          Sample.wornBrakes.Lacks Sample.steppingTable member miss := by
  intro module tally missing
  have hfree : Linkage.empty.ledger module.interface.name = none := rfl
  have hresult : (module.resolve Sample.steppingTable .empty).value.result =
      .error (.unresolved "brakes" missing) := by rfl
  obtain ⟨_, hlisted⟩ := unresolved_lists_lacked (t := Sample.steppingTable) hfree
  obtain ⟨_, entries, hentries, _, _, hexact⟩ := hlisted _ _ hresult
  exact ⟨hfree, hresult, entries, hentries, hexact⟩

end ForeignModule

end NativeBridge
