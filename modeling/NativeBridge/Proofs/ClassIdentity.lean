import NativeBridge.Proofs.RegistryIndex
import NativeBridge.Sample.Account

/-!
# Which pairs name the same class

A class is registered under its full name, in which a slash joins the path and the name. The pair
of path and name can be read off the full name when class names hold no slash. Otherwise the slash
that ends the path may be any of those in the name, and two pairs are taken for the same class
exactly when one of them has the front of the other's name at the end of its path.
-/

namespace NativeBridge

section Slash

variable {path name path' name' : List Char}

/-- Two texts with a slash in each are equal when they are cut at the same slash, or the one that is
cut later has more in front of the cut and less behind it. -/
lemma append_slash_eq_iff :
    path ++ '/' :: name = path' ++ '/' :: name' ↔ (path = path' ∧ name = name') ∨
      (∃ front, path' = path ++ '/' :: front ∧ name = front ++ '/' :: name') ∨
        ∃ front, path = path' ++ '/' :: front ∧ name' = front ++ '/' :: name := by
  constructor
  · intro heq
    -- What one text has more of in front of its cut is empty or begins with the other slash.
    obtain ⟨rest, hpath, hname⟩ | ⟨rest, hpath, hname⟩ := List.append_eq_append_iff.mp heq
    · cases rest with
      | nil =>
        obtain rfl : name = name' := by simpa using hname
        exact .inl ⟨by simpa using hpath.symm, rfl⟩
      | cons c front =>
        obtain ⟨rfl, rfl⟩ := List.cons.inj hname
        exact .inr (.inl ⟨front, hpath, rfl⟩)
    · cases rest with
      | nil =>
        obtain rfl : name' = name := by simpa using hname
        exact .inl ⟨by simpa using hpath, rfl⟩
      | cons c front =>
        obtain ⟨rfl, rfl⟩ := List.cons.inj hname
        exact .inr (.inr ⟨front, hpath, rfl⟩)
  · rintro (⟨rfl, rfl⟩ | ⟨front, rfl, rfl⟩ | ⟨front, rfl, rfl⟩)
    · rfl
    · simp
    · simp

end Slash

lemma qualifiedName_of_ne {classpath : String} (h : classpath ≠ "") (classname : String) :
    qualifiedName classpath classname = classpath ++ "/" ++ classname := by
  unfold qualifiedName
  rw [if_neg (mt String.isEmpty_iff.mp h)]

lemma toList_qualifiedName {classpath : String} (h : classpath ≠ "") (classname : String) :
    (qualifiedName classpath classname).toList = classpath.toList ++ '/' :: classname.toList := by
  rw [qualifiedName_of_ne h, String.toList_append, String.toList_append, List.append_assoc]
  rfl

/-- The second pair has at the end of its path what the first has at the front of its name. -/
def FrontMoved (classpath classname classpath' classname' : String) : Prop :=
  classpath' ≠ "" ∧ ∃ front, classpath' = qualifiedName classpath front ∧
    classname = front ++ "/" ++ classname'

/-- The two pairs are equal, or differ in where the path ends. -/
def SpelledAlike (classpath classname classpath' classname' : String) : Prop :=
  (classpath = classpath' ∧ classname = classname') ∨
    FrontMoved classpath classname classpath' classname' ∨
      FrontMoved classpath' classname' classpath classname

lemma FrontMoved.qualifiedName_eq {classpath classname classpath' classname' : String}
    (h : FrontMoved classpath classname classpath' classname') :
    qualifiedName classpath classname = qualifiedName classpath' classname' := by
  obtain ⟨hne, front, rfl, rfl⟩ := h
  rw [qualifiedName_of_ne hne]
  by_cases hempty : classpath = ""
  · subst hempty
    rfl
  · rw [qualifiedName_of_ne hempty, qualifiedName_of_ne hempty]
    simp only [String.append_assoc]

lemma frontMoved_of_empty {classname classpath' classname' : String} (hne : classpath' ≠ "")
    (h : classname = qualifiedName classpath' classname') :
    FrontMoved "" classname classpath' classname' :=
  ⟨hne, classpath', rfl, h.trans (qualifiedName_of_ne hne classname')⟩

lemma frontMoved_of_toList {classpath classname classpath' classname' : String} {front : List Char}
    (hne : classpath ≠ "") (hpath : classpath'.toList = classpath.toList ++ '/' :: front)
    (hname : classname.toList = front ++ '/' :: classname'.toList) :
    FrontMoved classpath classname classpath' classname' := by
  refine ⟨?_, String.ofList front, ?_, ?_⟩
  · rintro rfl
    simp at hpath
  · rw [← String.toList_inj, hpath, toList_qualifiedName hne, String.toList_ofList]
  · rw [← String.toList_inj, hname, String.toList_append, String.toList_append,
      String.toList_ofList, List.append_assoc]
    rfl

theorem qualifiedName_eq_iff {classpath classname classpath' classname' : String} :
    qualifiedName classpath classname = qualifiedName classpath' classname' ↔
      SpelledAlike classpath classname classpath' classname' := by
  constructor
  · intro heq
    -- An empty path puts no slash into the full name, so it is cut apart only behind other paths.
    by_cases hempty : classpath = ""
    · subst hempty
      by_cases hempty' : classpath' = ""
      · subst hempty'
        exact .inl ⟨rfl, heq⟩
      · exact .inr (.inl (frontMoved_of_empty hempty' heq))
    · by_cases hempty' : classpath' = ""
      · subst hempty'
        exact .inr (.inr (frontMoved_of_empty hempty heq.symm))
      · rw [← String.toList_inj, toList_qualifiedName hempty, toList_qualifiedName hempty',
          append_slash_eq_iff] at heq
        obtain ⟨hpath, hname⟩ | ⟨front, hpath, hname⟩ | ⟨front, hpath, hname⟩ := heq
        · exact .inl ⟨String.toList_inj.mp hpath, String.toList_inj.mp hname⟩
        · exact .inr (.inl (frontMoved_of_toList hempty hpath hname))
        · exact .inr (.inr (frontMoved_of_toList hempty' hpath hname))
  · rintro (⟨rfl, rfl⟩ | hmoved | hmoved)
    · rfl
    · exact hmoved.qualifiedName_eq
    · exact hmoved.qualifiedName_eq.symm

lemma FrontMoved.slash_mem {classpath classname classpath' classname' : String}
    (h : FrontMoved classpath classname classpath' classname') : '/' ∈ classname.toList := by
  obtain ⟨_, front, _, rfl⟩ := h
  simp

lemma spelledAlike_iff_of_slash_not_mem {classpath classname classpath' classname' : String}
    (h : '/' ∉ classname.toList) (h' : '/' ∉ classname'.toList) :
    SpelledAlike classpath classname classpath' classname' ↔
      classpath = classpath' ∧ classname = classname' := by
  constructor
  · rintro (hsame | hmoved | hmoved)
    · exact hsame
    · exact absurd hmoved.slash_mem h
    · exact absurd hmoved.slash_mem h'
  · exact .inl

namespace ClassRegistry.Indexed

variable {r : ClassRegistry}

lemma insert?_eq_duplicate_iff (h : r.Indexed) {c : Class} :
    (∃ name, r.insert? c = .error (.duplicateClass name)) ↔
      ∃ a ∈ r.classes, a.fullName = c.fullName := by
  constructor
  · rintro ⟨name, herror⟩
    by_contra hfree
    cases hstray : c.strayField? with
    | some found =>
      rw [h.insert?_of_stray hfree hstray] at herror
      cases herror
    | none =>
      rw [h.insert?_of_fieldsInside hfree (Class.strayField?_eq_none_iff.mp hstray)] at herror
      cases herror
  · intro htaken
    exact ⟨_, h.insert?_of_taken htaken⟩

lemma get?_toTable_eq_some_iff (h : r.Indexed) {classpath classname : String} {c : Class} :
    r.toTable.get? classpath classname = some c ↔
      c ∈ r.classes ∧ SpelledAlike c.classpath c.classname classpath classname := by
  unfold ClassTable.get?
  rw [h.find?_toTable_eq_some_iff, ← qualifiedName_eq_iff]
  rfl

lemma findMethod?_toTable_eq_some_iff (h : r.Indexed) {key : MemberKey}
    {found : MethodId × ManagedMethod} :
    r.toTable.findMethod? key = some found ↔ ∃ c ∈ r.classes,
      SpelledAlike c.classpath c.classname key.classpath key.classname ∧
        c.findMethod? key.name key.signature = some found := by
  unfold ClassTable.findMethod?
  rw [Option.bind_eq_some_iff]
  refine exists_congr fun c => ?_
  rw [h.get?_toTable_eq_some_iff, and_assoc]

lemma findField?_toTable_eq_some_iff (h : r.Indexed) {key : MemberKey} {found : FieldId × Field} :
    r.toTable.findField? key = some found ↔ ∃ c ∈ r.classes,
      SpelledAlike c.classpath c.classname key.classpath key.classname ∧
        c.findField? key.name key.signature = some found := by
  unfold ClassTable.findField?
  rw [Option.bind_eq_some_iff]
  refine exists_congr fun c => ?_
  rw [h.get?_toTable_eq_some_iff, and_assoc]

end ClassRegistry.Indexed

namespace ClassRegistry

/-- Whatever classes are offered to a new registry, a class is refused as a duplicate exactly when
an accepted class is spelled alike, and the sealed table finds under a path and a name, for itself
and for its methods and fields, exactly the accepted class that is spelled alike. Where no class
name holds a slash, that is the class with this very path and name. -/
theorem registerAll_identity (offered : List Class) :
    let r := empty.registerAll offered
    let accepted := empty.accepted offered
    let alike := fun (a : Class) classpath classname =>
      SpelledAlike a.classpath a.classname classpath classname
    (∀ c, (∃ name, r.insert? c = .error (.duplicateClass name)) ↔
      ∃ a ∈ accepted, alike a c.classpath c.classname) ∧
    (∀ classpath classname c, r.toTable.get? classpath classname = some c ↔
      c ∈ accepted ∧ alike c classpath classname) ∧
    (∀ key found, r.toTable.findMethod? key = some found ↔ ∃ c ∈ accepted,
      alike c key.classpath key.classname ∧ c.findMethod? key.name key.signature = some found) ∧
    (∀ key found, r.toTable.findField? key = some found ↔ ∃ c ∈ accepted,
      alike c key.classpath key.classname ∧ c.findField? key.name key.signature = some found) ∧
    ∀ classpath classname, '/' ∉ classname.toList → ∀ a ∈ accepted, '/' ∉ a.classname.toList →
      (alike a classpath classname ↔ a.classpath = classpath ∧ a.classname = classname) := by
  intro r accepted alike
  have hr : r.Indexed := indexed_empty.registerAll offered
  have hclasses : r.classes = accepted := indexed_empty.classes_registerAll offered
  refine ⟨?_, ?_, ?_, ?_, ?_⟩
  · intro c
    rw [hr.insert?_eq_duplicate_iff, hclasses]
    refine exists_congr fun a => and_congr_right fun _ => ?_
    exact qualifiedName_eq_iff
  · intro classpath classname c
    rw [hr.get?_toTable_eq_some_iff, hclasses]
  · intro key found
    rw [hr.findMethod?_toTable_eq_some_iff, hclasses]
  · intro key found
    rw [hr.findField?_toTable_eq_some_iff, hclasses]
  · intro classpath classname hname a _ ha
    exact spelledAlike_iff_of_slash_not_mem ha hname

end ClassRegistry

namespace Sample

/-- A class with a slash in its name, a method and a field. -/
def slashInName : Class :=
  { tallyClass ⟨0x40⟩ with
    classpath := "a", classname := "b/c", instanceSize := 16
    fields := [⟨"total", "J", .instance 8⟩] }

/-- A class that has the front of that name in its path, and no members. -/
def slashInPath : Class := Builtin.bare "a/b" "c" 16 ⟨0x80⟩

end Sample

namespace ClassRegistry

/-- With the first class registered the second is refused, though its pair is another one, and is
answered with the first class and its members when asked for. -/
theorem slash_hides_pair :
    let r := empty.registerAll [Sample.slashInName]
    let key := fun name signature => MemberKey.mk "a/b" "c" name signature
    (∀ a ∈ empty.accepted [Sample.slashInName], a.isNamed "a/b" "c" = false) ∧
      Sample.slashInPath.isNamed "a/b" "c" = true ∧
      r.insert? Sample.slashInPath = .error (.duplicateClass "a/b/c") ∧
      r.toTable.get? "a/b" "c" = some Sample.slashInName ∧
      (r.toTable.findMethod? (key "tally" "(III)I")).map Prod.fst = some ⟨⟨0x40⟩, 0⟩ ∧
      (r.toTable.findField? (key "total" "J")).map Prod.fst = some ⟨⟨0x40⟩, 0⟩ := by
  refine ⟨?_, rfl, rfl, rfl, rfl, rfl⟩
  intro a ha
  obtain rfl : a = Sample.slashInName := List.mem_singleton.mp ha
  rfl

end ClassRegistry

end NativeBridge
