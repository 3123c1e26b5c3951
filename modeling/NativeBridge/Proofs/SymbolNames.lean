import NativeBridge.Proofs.ClassIdentity
import NativeBridge.Proofs.SymbolReading

/-!
# Which native methods share a symbol

The symbol of a native method spells the name of its class, a slash and the name of the method; that
of an overloaded method adds two slashes and the argument types. Where the components of the names
are non-empty and none begins with a digit of an escape, the symbol can be read back, and the two
slashes say which form it has. So different native methods have different symbols, and a symbol of
one form is none of the other.
-/

namespace NativeBridge.Symbol

/-- The name has non-empty components, separated by slashes, that begin with no digit of an
escape. -/
def ProperName (name : List Char) : Prop :=
  ∀ component ∈ name.splitOn '/', component ≠ [] ∧ BeginsClear component

def ProperMethod (method : List Char) : Prop := '/' ∉ method ∧ ProperName method

/-- The argument text of a signature stands behind an opening parenthesis at the front and ends in
front of the first closing one, or at the end if there is none. Any other signature has none. -/
inductive ArgumentText : List Char → List Char → Prop where
  | enclosed {text rest} (h : ')' ∉ text) : ArgumentText ('(' :: text ++ ')' :: rest) text
  | unclosed {text} (h : ')' ∉ text) : ArgumentText ('(' :: text) text
  | absent {signature} (h : signature.head? ≠ some '(') : ArgumentText signature []

/-- The argument text neither begins with a digit of an escape nor has one behind a slash. -/
def ProperArguments (arguments : List Char) : Prop :=
  BeginsClear arguments ∧ SlashesClear arguments

instance (name : List Char) : Decidable (ProperName name) :=
  List.decidableBAll (fun component => component ≠ [] ∧ BeginsClear component) (name.splitOn '/')

instance (method : List Char) : Decidable (ProperMethod method) :=
  inferInstanceAs (Decidable ('/' ∉ method ∧ ProperName method))

instance (arguments : List Char) : Decidable (ProperArguments arguments) :=
  inferInstanceAs (Decidable (BeginsClear arguments ∧ SlashesClear arguments))

lemma argumentTypes_of_argumentText {signature text : List Char} (h : ArgumentText signature text) :
    argumentTypes signature = text := by
  have hopen : ∀ {text : List Char}, ')' ∉ text → ∀ c ∈ text, (decide (c ≠ ')')) = true := by
    intro text hclosed c hc
    exact decide_eq_true fun heq => hclosed (heq ▸ hc)
  cases h with
  | enclosed hclosed =>
    rw [List.cons_append, argumentTypes, List.takeWhile_append_of_pos (hopen hclosed),
      List.takeWhile_cons_of_neg (by simp), List.append_nil]
  | unclosed hclosed =>
    rw [argumentTypes, ← List.append_nil text, List.takeWhile_append_of_pos (hopen hclosed)]
    rfl
  | absent hfront =>
    unfold argumentTypes
    split
    · exact absurd rfl hfront
    · rfl

lemma argumentText_argumentTypes (signature : List Char) :
    ArgumentText signature (argumentTypes signature) := by
  have hsplit : ∃ text, ArgumentText signature text := by
    by_cases hfront : signature.head? = some '('
    · obtain ⟨rest, rfl⟩ := List.head?_eq_some_iff.mp hfront
      by_cases hclosed : ')' ∈ rest
      · obtain ⟨text, after, rfl, htext⟩ := List.eq_append_cons_of_mem hclosed
        exact ⟨text, .enclosed htext⟩
      · exact ⟨rest, .unclosed hclosed⟩
    · exact ⟨[], .absent hfront⟩
  obtain ⟨text, htext⟩ := hsplit
  rwa [argumentTypes_of_argumentText htext]

lemma properName_append_slash {name name' : List Char} :
    ProperName (name ++ '/' :: name') ↔ ProperName name ∧ ProperName name' := by
  unfold ProperName
  rw [List.splitOn_append_cons_self, List.forall_mem_append]

lemma not_properName_nil : ¬ProperName [] := by decide

lemma not_properName_slash (name : List Char) : ¬ProperName ('/' :: name) := by
  intro h
  have happend : ProperName ([] ++ '/' :: name) := h
  exact not_properName_nil (properName_append_slash.mp happend).1

lemma ProperName.beginsClear {name : List Char} (h : ProperName name) : BeginsClear name := by
  cases name with
  | nil => exact absurd h not_properName_nil
  | cons c name =>
    have hc : c ≠ '/' := fun hc => not_properName_slash name (hc ▸ h)
    unfold ProperName at h
    rw [List.splitOn_cons_eq_if_modifyHead, if_neg (by simpa using hc)] at h
    cases hsplit : name.splitOn '/' with
    | nil => exact absurd hsplit (List.splitOn_ne_nil '/' name)
    | cons component components =>
      rw [hsplit, List.modifyHead_cons] at h
      exact (h (c :: component) List.mem_cons_self).2

lemma ProperName.slashesClear {name : List Char} (h : ProperName name) : SlashesClear name := by
  rintro d hd ⟨front, rest, rfl⟩
  rw [List.append_assoc] at h
  have hrest : ProperName (d :: rest) := (properName_append_slash.mp h).2
  exact hrest.beginsClear d hd rfl

/-- The name of a method with that of its class in front. -/
def memberName (className method : List Char) : List Char := className ++ '/' :: method

section Proper

variable {className className' method method' arguments arguments' : List Char}

lemma properName_memberName (hc : ProperName className) (hm : ProperMethod method) :
    ProperName (memberName className method) := properName_append_slash.mpr ⟨hc, hm.2⟩

lemma memberName_inj (hm : '/' ∉ method) (hm' : '/' ∉ method')
    (h : memberName className method = memberName className' method') :
    className = className' ∧ method = method' := by
  obtain hsame | ⟨front, -, rfl⟩ | ⟨front, -, rfl⟩ := append_slash_eq_iff.mp h
  · exact hsame
  · simp at hm
  · simp at hm'

/-- The first two slashes in succession stand in front of the arguments. -/
lemma append_slashes_inj {name name' : List Char} (h : ProperName name) (h' : ProperName name')
    (heq : name ++ '/' :: '/' :: arguments = name' ++ '/' :: '/' :: arguments') :
    name = name' ∧ arguments = arguments' := by
  -- Any other cut would leave a name that goes on with nothing, or with a slash, behind a slash.
  have hcut : ∀ {name name' front arguments arguments' : List Char}, ProperName name' →
      name' = name ++ '/' :: front → '/' :: arguments ≠ front ++ '/' :: '/' :: arguments' := by
    intro name name' front arguments arguments' hname hfront hrest
    rw [hfront] at hname
    have hproper : ProperName front := (properName_append_slash.mp hname).2
    cases front with
    | nil => exact not_properName_nil hproper
    | cons c front =>
      obtain ⟨rfl, -⟩ := List.cons.inj hrest
      exact not_properName_slash front hproper
  obtain ⟨hname, hrest⟩ | ⟨front, hfront, hrest⟩ | ⟨front, hfront, hrest⟩ :=
    append_slash_eq_iff.mp heq
  · exact ⟨hname, (List.cons.inj hrest).2⟩
  · exact absurd hrest (hcut h' hfront)
  · exact absurd hrest (hcut h hfront)

lemma shortChars_eq (className method : List Char) :
    shortChars className method = "Java_".toList ++ escape (memberName className method) := by
  have hname : escape (memberName className method) = escape className ++ '_' :: escape method := by
    rw [memberName, escape_append, escape_cons]
    rfl
  rw [hname, ← List.append_assoc]
  rfl

lemma longChars_eq (className method signature : List Char) :
    longChars className method signature = "Java_".toList ++
      escape (memberName className method ++ '/' :: '/' :: argumentTypes signature) := by
  rw [longChars, shortChars_eq, escape_append, escape_cons, escape_cons, List.append_assoc]
  rfl

lemma slashesClear_overloaded {name : List Char} (h : ProperName name)
    (ha : ProperArguments arguments) : SlashesClear (name ++ '/' :: '/' :: arguments) := by
  refine h.slashesClear.append ?_ (by simp [BeginsClear, escapeDigits])
  rw [slashesClear_cons, slashesClear_cons]
  exact ⟨fun _ => by simp [BeginsClear, escapeDigits], fun _ => ha.1, ha.2⟩

end Proper

def IsSymbolChar (c : Char) : Prop := isPlain c = true ∨ c = '_'

lemma isPlain_digitChar {d : Nat} (h : d < 16) : isPlain d.digitChar = true := by
  interval_cases d <;> rfl

lemma isSymbolChar_of_mem_escapeUnit {unit : UInt16} {c : Char} (h : c ∈ escapeUnit unit) :
    IsSymbolChar c := by
  have hunit : unit.toNat < 0x10000 := unit.toNat_lt
  have hmod : ∀ n : Nat, isPlain (n % 16).digitChar = true := fun n =>
    isPlain_digitChar (Nat.mod_lt n (by decide))
  rw [escapeUnit, Hex.padded_four hunit] at h
  simp only [List.mem_cons, List.not_mem_nil, or_false] at h
  obtain rfl | rfl | rfl | rfl | rfl | rfl := h
  · exact .inr rfl
  · exact .inl rfl
  · exact .inl (isPlain_digitChar (by omega))
  · exact .inl (hmod _)
  · exact .inl (hmod _)
  · exact .inl (hmod _)

lemma isSymbolChar_of_mem_escape {text : List Char} {c : Char} (h : c ∈ escape text) :
    IsSymbolChar c := by
  obtain ⟨d, -, hc⟩ := List.mem_flatMap.mp h
  have hpair : ∀ digit, isPlain digit = true → c ∈ ['_', digit] → IsSymbolChar c := by
    intro digit hdigit hmem
    obtain rfl | hmem := List.mem_cons.mp hmem
    · exact .inr rfl
    · exact .inl (List.mem_singleton.mp hmem ▸ hdigit)
  unfold escapeChar at hc
  split_ifs at hc with _ _ _ _ hplain
  · exact .inr (List.mem_singleton.mp hc)
  · exact hpair '1' rfl hc
  · exact hpair '2' rfl hc
  · exact hpair '3' rfl hc
  · exact .inl (List.mem_singleton.mp hc ▸ hplain)
  · obtain ⟨unit, -, hunit⟩ := List.mem_flatMap.mp hc
    exact isSymbolChar_of_mem_escapeUnit hunit

lemma isSymbolChar_of_mem_append {text : List Char} {c : Char}
    (h : c ∈ "Java_".toList ++ escape text) : IsSymbolChar c := by
  obtain hfront | htext := List.mem_append.mp h
  · have hall : ∀ c ∈ "Java_".toList, isPlain c = true ∨ c = '_' := by simp [isPlain]
    exact hall c hfront
  · exact isSymbolChar_of_mem_escape htext

/-- Where names and argument texts are proper, native methods share a symbol exactly when they have
the same class and name, and those with overloads the same argument text, of which every signature
has one; no symbol is of both forms, and all consist of letters, digits and underscores. -/
theorem symbols_unambiguous (className method signature className' method' signature' : String)
    (hclass : ProperName className.toList) (hmethod : ProperMethod method.toList)
    (hclass' : ProperName className'.toList) (hmethod' : ProperMethod method'.toList) :
    (short className method = short className' method' ↔
      className = className' ∧ method = method') ∧
    (∀ arguments arguments', ArgumentText signature.toList arguments →
      ArgumentText signature'.toList arguments' → ProperArguments arguments →
      ProperArguments arguments' →
      (long className method signature = long className' method' signature' ↔
        className = className' ∧ method = method' ∧ arguments = arguments')) ∧
    (∀ arguments', ArgumentText signature'.toList arguments' → ProperArguments arguments' →
      short className method ≠ long className' method' signature') ∧
    (∃! arguments, ArgumentText signature.toList arguments) ∧
    (∀ c ∈ (short className method).toList, IsSymbolChar c) ∧
    ∀ c ∈ (long className method signature).toList, IsSymbolChar c := by
  have hname := properName_memberName hclass hmethod
  have hname' := properName_memberName hclass' hmethod'
  have hparts : memberName className.toList method.toList =
      memberName className'.toList method'.toList → className = className' ∧ method = method' := by
    intro heq
    obtain ⟨hc, hm⟩ := memberName_inj hmethod.1 hmethod'.1 heq
    exact ⟨String.toList_inj.mp hc, String.toList_inj.mp hm⟩
  refine ⟨⟨fun heq => ?_, ?_⟩, ?_, ?_, ?_, ?_, ?_⟩
  · have hchars := String.ofList_inj.mp heq
    rw [shortChars_eq, shortChars_eq, List.append_cancel_left_eq] at hchars
    exact hparts (escape_injective hname.slashesClear hname'.slashesClear hchars)
  · rintro ⟨rfl, rfl⟩
    rfl
  · intro arguments arguments' htext htext' ha ha'
    obtain rfl := argumentTypes_of_argumentText htext
    obtain rfl := argumentTypes_of_argumentText htext'
    constructor
    · intro heq
      have hchars := String.ofList_inj.mp heq
      rw [longChars_eq, longChars_eq, List.append_cancel_left_eq] at hchars
      obtain ⟨hmember, hargs⟩ := append_slashes_inj hname hname' (escape_injective
        (slashesClear_overloaded hname ha) (slashesClear_overloaded hname' ha') hchars)
      obtain ⟨hc, hm⟩ := hparts hmember
      exact ⟨hc, hm, hargs⟩
    · rintro ⟨rfl, rfl, hargs⟩
      rw [long, long, longChars, longChars, hargs]
  · intro arguments' htext' ha' heq
    obtain rfl := argumentTypes_of_argumentText htext'
    have hchars := String.ofList_inj.mp heq
    rw [shortChars_eq, longChars_eq, List.append_cancel_left_eq] at hchars
    have hmember := escape_injective hname.slashesClear (slashesClear_overloaded hname' ha') hchars
    -- A proper name has no two slashes in succession.
    rw [hmember] at hname
    exact not_properName_slash _ (properName_append_slash.mp hname).2
  · exact ⟨_, argumentText_argumentTypes _, fun _ h => (argumentTypes_of_argumentText h).symm⟩
  · intro c hc
    rw [short, String.toList_ofList, shortChars_eq] at hc
    exact isSymbolChar_of_mem_append hc
  · intro c hc
    rw [long, String.toList_ofList, longChars_eq] at hc
    exact isSymbolChar_of_mem_append hc

/-- An underscore at the end of a class name and one at the front of a method name; overloads whose
arguments are an escaped letter behind a slash and a plain one; and signatures that differ behind
their arguments only. -/
theorem overloaded_symbols_differ :
    let spelled := "(/\u00e9_)V"
    (ProperName "a/b_".toList ∧ ProperMethod "c".toList) ∧
      (ProperName "a/b".toList ∧ ProperMethod "_c".toList) ∧
      (ArgumentText spelled.toList "/\u00e9_".toList ∧ ProperArguments "/\u00e9_".toList) ∧
      (ArgumentText "(I)V".toList "I".toList ∧ ProperArguments "I".toList) ∧
      short "a/b_" "c" ≠ short "a/b" "_c" ∧
      long "a/b_" "c" spelled ≠ long "a/b" "_c" spelled ∧
      long "a/b" "_c" spelled ≠ long "a/b" "_c" "(I)V" ∧
      long "a/b" "_c" "(I)V" = long "a/b" "_c" "(I)J" ∧
      short "a/b_" "c" ≠ long "a/b" "_c" spelled := by
  have hclass : ProperName "a/b_".toList := by decide
  have hmethod : ProperMethod "c".toList := by decide
  have hclass' : ProperName "a/b".toList := by decide
  have hmethod' : ProperMethod "_c".toList := by decide
  have htext : ArgumentText "(/\u00e9_)V".toList "/\u00e9_".toList :=
    @ArgumentText.enclosed "/\u00e9_".toList ['V'] (by decide)
  have harguments : ProperArguments "/\u00e9_".toList := by decide
  have hint : ∀ result, ArgumentText ("(I)".toList ++ result) "I".toList := fun result =>
    @ArgumentText.enclosed "I".toList result (by decide)
  have hintProper : ProperArguments "I".toList := by decide
  obtain ⟨hshort, hlong, hforms, -, -, -⟩ :=
    symbols_unambiguous "a/b_" "c" "(/\u00e9_)V" "a/b" "_c" "(/\u00e9_)V" hclass hmethod hclass'
      hmethod'
  obtain ⟨-, hoverload, -⟩ :=
    symbols_unambiguous "a/b" "_c" "(/\u00e9_)V" "a/b" "_c" "(I)V" hclass' hmethod' hclass' hmethod'
  obtain ⟨-, hresult, -⟩ :=
    symbols_unambiguous "a/b" "_c" "(I)V" "a/b" "_c" "(I)J" hclass' hmethod' hclass' hmethod'
  refine ⟨⟨hclass, hmethod⟩, ⟨hclass', hmethod'⟩, ⟨htext, harguments⟩, ⟨hint ['V'], hintProper⟩,
    ?_, ?_, ?_, ?_, hforms _ htext harguments⟩
  · intro heq
    exact absurd (hshort.mp heq).1 (by decide)
  · intro heq
    exact absurd ((hlong _ _ htext htext harguments harguments).mp heq).1 (by decide)
  · intro heq
    have hsame := (hoverload _ _ htext (hint ['V']) harguments hintProper).mp heq
    exact absurd hsame.2.2 (by decide)
  · exact (hresult _ _ (hint ['V']) (hint ['J']) hintProper hintProper).mpr ⟨rfl, rfl, rfl⟩

end NativeBridge.Symbol
