import NativeBridge.Proofs.ResolutionOrder
import NativeBridge.Proofs.ResolutionRun

/-!
# Resolutions called while others run

A process calls resolutions one after the other, and each may call further ones from its lookups, to
any depth. At every such point the names that are being resolved are claimed. A resolution of one of
them is refused. Any other ends as it would if nothing else were being resolved: it binds its module
completely or leaves nothing of its own, and a name is resolved from the success of its own
resolution on and not before.
-/

namespace NativeBridge

open Linkage

mutual

/-- The resolutions of an attempt in the order they end, each with its own table. -/
def Attempt.endedOf (c : NestedResolution) : Attempt → List EndedResolution
  | .mk i result _ nested => Attempt.endedOfAll c.started nested ++ [⟨c.table, i, result⟩]

def Attempt.endedOfAll : List NestedResolution → List Attempt → List EndedResolution
  | _, [] => []
  | [], _ :: _ => []
  | c :: calls, attempt :: attempts => attempt.endedOf c ++ Attempt.endedOfAll calls attempts

end

namespace NestedResolution

/-- The resolutions that end while one is made, in order, with itself as the last. -/
def ended (c : NestedResolution) (l : Linkage) : List EndedResolution := (c.run l).value.endedOf c

def endedAll (calls : List NestedResolution) (l : Linkage) : List EndedResolution :=
  Attempt.endedOfAll calls (runAll calls l).value

/-- Every table that the resolution uses has its classes where they live. -/
def Within (heap : Handle → Option Class) (c : NestedResolution) : Prop :=
  ∀ d, c.Involves d → d.table.Within heap

lemma Within.started {heap : Handle → Option Class} {c c' : NestedResolution} (h : c.Within heap)
    (hc' : c' ∈ c.started) : c'.Within heap :=
  fun d hd => h d (.started hc' hd)

section Keeping

variable {heap : Handle → Option Class}

/-- Making the resolution keeps the linkage in step with the history. -/
def Keeps (heap : Handle → Option Class) (c : NestedResolution) : Prop :=
  ∀ (running : String → Prop) (history : List EndedResolution) (l : Linkage),
    l.LinkedBy heap running history →
      (c.run l).linkage.LinkedBy heap running (history ++ c.ended l)

lemma linkedBy_runAll {calls : List NestedResolution} (hcalls : ∀ c ∈ calls, c.Keeps heap)
    {running : String → Prop} {history : List EndedResolution} {l : Linkage}
    (h : l.LinkedBy heap running history) :
    (runAll calls l).linkage.LinkedBy heap running (history ++ endedAll calls l) := by
  induction calls generalizing history l with
  | nil =>
    change l.LinkedBy heap running (history ++ [])
    rw [List.append_nil]
    exact h
  | cons c calls ih =>
    obtain ⟨hc, hcalls⟩ := List.forall_mem_cons.mp hcalls
    have hothers := ih hcalls (hc running history l h)
    rw [List.append_assoc] at hothers
    exact hothers

theorem keeps_of_within (c : NestedResolution) (hc : c.Within heap) : c.Keeps heap := by
  induction c using NestedResolution.induction with
  | step c ih =>
    intro running history l h
    have ht : c.table.Within heap := hc c (.self c)
    cases hstate : l.ledger c.name with
    | some state =>
      unfold ended
      rw [c.run_of_claimed hstate]
      exact h.refuse ht c.interface
    | none =>
      have hstarted : ∀ c' ∈ c.started, c'.Keeps heap := fun c' hc' => ih c' hc' (hc.started hc')
      have hduring := linkedBy_runAll hstarted (h.claim hstate)
      have hended := hduring.finish ht (h.not_running_of_free hstate)
      rw [List.append_assoc] at hended
      unfold ended
      rw [c.run_of_free hstate, value_finishResolution]
      exact hended

end Keeping

end NestedResolution

/-- The linkage as it would be if nothing were being resolved. -/
def Linkage.idle (l : Linkage) : Linkage :=
  { l with ledger := fun name =>
      if l.ledger name = some .resolving then none else l.ledger name }

namespace Linkage

variable {l : Linkage} {name : String}

lemma ledger_idle_of_resolving (h : l.ledger name = some .resolving) :
    l.idle.ledger name = none :=
  if_pos h

lemma ledger_idle_of_ne (h : l.ledger name ≠ some .resolving) :
    l.idle.ledger name = l.ledger name :=
  if_neg h

lemma ledger_idle_ne_resolving : l.idle.ledger name ≠ some .resolving := by
  by_cases h : l.ledger name = some .resolving
  · simp [ledger_idle_of_resolving h]
  · rw [ledger_idle_of_ne h]
    exact h

lemma isResolved_idle : l.idle.isResolved name = l.isResolved name := by
  unfold isResolved
  by_cases h : l.ledger name = some .resolving
  · rw [ledger_idle_of_resolving h, h]
  · rw [ledger_idle_of_ne h]

end Linkage

namespace Linkage.LinkedBy

variable {heap : Handle → Option Class} {running : String → Prop}
  {history : List EndedResolution} {l : Linkage}

/-- Without its claims the linkage is still what the ended resolutions have made of it. -/
lemma idle (h : l.LinkedBy heap running history) :
    l.idle.LinkedBy heap (fun _ => False) history := by
  refine ⟨h.tables, h.results, ?_, ?_, h.refused, h.natives_iff⟩
  · intro name
    simp [ledger_idle_ne_resolving]
  · intro name
    rw [isResolved_idle, h.resolved_iff]

lemma ledger_idle (h : l.LinkedBy heap running history) {name : String} (hidle : ¬running name) :
    l.idle.ledger name = l.ledger name :=
  ledger_idle_of_ne fun hstate => hidle ((h.resolving_iff name).mp hstate)

lemma ledger_idle_of_running (h : l.LinkedBy heap running history) {name : String}
    (hrunning : running name) : l.idle.ledger name = none :=
  ledger_idle_of_resolving ((h.resolving_iff name).mpr hrunning)

lemma natives_eq_none (h : l.LinkedBy heap running history) {t : ClassTable} (ht : t.Within heap)
    {name : String} (hname : l.isResolved name ≠ true) {id : NativeId}
    (hid : id ∈ t.nativeSlots name) : l.natives id = none := by
  obtain ⟨cls, hcls, howner, native, hget, rfl⟩ := ClassTable.mem_nativeSlots.mp hid
  have hnone : ¬(l.natives ⟨cls.handle, id.index⟩).isSome := by
    rw [h.isSome_natives_iff (ht cls hcls) hget]
    rintro ⟨e, he, hsucceeded, hmodule, _⟩
    exact hname ((h.resolved_iff _).mpr ⟨e, he, hsucceeded, hmodule⟩)
  rw [howner] at hnone
  exact Option.not_isSome_iff_eq_none.mp hnone

end Linkage.LinkedBy

namespace NestedResolution

variable (c : NestedResolution) {l : Linkage}

/-- The linkage that the lookups leave, with the name of the module not claimed. -/
def afterLookups (l : Linkage) : Linkage := (c.duringLookups l).linkage.mark c.name none

lemma linkage_run_of_error {e : ResolveError} (hfree : l.ledger c.name = none)
    (h : c.interface.outcome c.table = .error e) : (c.run l).linkage = c.afterLookups l := by
  rw [c.run_of_free hfree]
  exact linkage_finishResolution_of_error h

lemma linkage_run_of_ok {report : ResolveReport} (hfree : l.ledger c.name = none)
    (h : c.interface.outcome c.table = .ok report) :
    (c.run l).linkage =
      ((c.duringLookups l).linkage.carryOut c.interface (c.interface.plan c.table)).mark c.name
        (some (.resolved c.interface.mapping)) := by
  rw [c.run_of_free hfree]
  exact linkage_finishResolution_of_ok h

lemma content_afterLookups (hfree : l.ledger c.name = none) {x : Place}
    (hx : ∀ c' ∈ c.started, x ∉ c'.places) : (c.afterLookups l).content x = l.content x := by
  by_cases hname : x = .entry c.name
  · subst hname
    exact (if_pos rfl).trans hfree.symm
  · have hstarted : Confined {x | ∃ c' ∈ c.started, x ∈ c'.places} (runAll c.started) := by
      apply confined_runAll
      intro c' hc'
      exact c'.confined_run.mono fun x hx => ⟨c', hc', hx⟩
    have hframe := hstarted.frame (l.mark c.name (some .resolving)) x
      fun ⟨c', hc', hmem⟩ => hx c' hc' hmem
    calc (c.afterLookups l).content x
        = (c.duringLookups l).linkage.content x := content_mark _ _ _ hname
      _ = (l.mark c.name (some .resolving)).content x := hframe
      _ = l.content x := content_mark _ _ _ hname

end NestedResolution

/-- A resolution at the moment it is called: the names that are being resolved, the resolutions that
have ended, and the linkage. -/
structure CallPoint where
  call : NestedResolution
  running : String → Prop
  history : List EndedResolution
  before : Linkage

namespace CallPoint

/-- The point at which a resolution is called from a lookup, after the earlier ones that the lookups
of the outer resolution have started. -/
def within (p : CallPoint) (earlier : List NestedResolution) (c : NestedResolution) : CallPoint :=
  let claimed := p.before.mark p.call.name (some .resolving)
  { call := c
    running := fun name => name = p.call.name ∨ p.running name
    history := p.history ++ NestedResolution.endedAll earlier claimed
    before := (NestedResolution.runAll earlier claimed).linkage }

/-- The points of a process that makes calls one after the other: those of the calls themselves, and
at any depth those of what their lookups start. -/
inductive OccursIn (calls : List NestedResolution) (start : Linkage) : CallPoint → Prop
  | outer (earlier : List NestedResolution) (c : NestedResolution) (later : List NestedResolution)
      (hcalls : calls = earlier ++ c :: later) :
    OccursIn calls start ⟨c, fun _ => False, NestedResolution.endedAll earlier start,
      (NestedResolution.runAll earlier start).linkage⟩
  | nested {p : CallPoint} (hp : OccursIn calls start p)
      (hfree : p.before.ledger p.call.name = none) (earlier : List NestedResolution)
      (c : NestedResolution) (later : List NestedResolution)
      (hstarted : p.call.started = earlier ++ c :: later) :
    OccursIn calls start (p.within earlier c)

variable (p : CallPoint)

/-- How the resolution ends and what it leaves. -/
def ended : Resolved Attempt := p.call.run p.before

/-- How it would end and what it would leave if nothing else were being resolved. -/
def alone : Resolved Attempt := p.call.run p.before.idle

/-- The same call when nothing is being resolved. -/
def atRest : CallPoint := ⟨p.call, fun _ => False, p.history, p.before.idle⟩

/-- The resolution is refused and changes nothing, and the claim of its name stays. -/
structure Refused : Prop where
  value : p.ended.value = .mk p.call.interface (.error (.alreadyResolved p.call.name)) [] []
  linkage : p.ended.linkage = p.before
  claim : p.ended.linkage.ledger p.call.name = some .resolving

/-- The resolution does to its module what it would do if nothing else were being resolved. -/
structure LikeAlone : Prop where
  result : p.ended.value.result = p.alone.value.result
  lookups : p.ended.value.lookups = p.alone.value.lookups
  entry : p.ended.linkage.ledger p.call.name = p.alone.linkage.ledger p.call.name
  natives : ∀ id ∈ p.call.table.nativeSlots p.call.name,
    p.ended.linkage.natives id = p.alone.linkage.natives id
  imports : ∀ report, p.ended.value.result = .ok report → ∀ slot ∈ p.call.interface.importSlots,
    p.ended.linkage.imports slot = p.alone.linkage.imports slot
  /-- If it involves no module that is being resolved, all of it is the same, the claims apart. -/
  whole : (∀ d, p.call.Involves d → ¬p.running d.name) → p.ended.value = p.alone.value ∧
    p.ended.records = p.alone.records ∧ p.ended.linkage.idle = p.alone.linkage

/-- The resolution succeeds: its module is bound and its name recorded. -/
structure Bound : Prop where
  result : ∃ report, p.ended.value.result = .ok report
  entry : p.ended.linkage.ledger p.call.name = some (.resolved p.call.interface.mapping)
  natives : ∀ d ∈ p.call.table.nativesOf p.call.name, ∃ address,
    p.call.interface.nativeAddress? d = some address ∧ p.ended.linkage.natives d.id = some address
  boundIn : p.call.interface.OwnSlots →
    p.call.interface.BoundIn p.call.table (p.call.afterLookups p.before) p.ended.linkage

/-- The resolution misses members: its name is free again, none of its native methods is bound, and
only what its lookups have started has changed anything. -/
structure Released : Prop where
  result : ∃ missing, p.ended.value.result = .error (.unresolved p.call.name missing)
  entry : p.ended.linkage.ledger p.call.name = none
  natives : ∀ id ∈ p.call.table.nativeSlots p.call.name, p.ended.linkage.natives id = none
  started : p.ended.linkage = p.call.afterLookups p.before
  unchanged : ∀ x, (∀ c ∈ p.call.started, x ∉ c.places) →
    p.ended.linkage.content x = p.before.content x

/-- The linkage at the point is what the ended resolutions have made of it, with the running names
claimed, and all tables have their classes where they live. -/
structure Sound (heap : Handle → Option Class) : Prop where
  linked : p.before.LinkedBy heap p.running p.history
  tables : p.call.Within heap

variable {p} {heap : Handle → Option Class}

theorem sound_of_occursIn {calls : List NestedResolution} {start : Linkage}
    (hcalls : ∀ c ∈ calls, c.Within heap) (hstart : start.LinkedBy heap (fun _ => False) [])
    (hp : p.OccursIn calls start) : p.Sound heap := by
  induction hp with
  | outer earlier c later h =>
    have hkeeps : ∀ c' ∈ earlier, c'.Keeps heap := fun c' hc' =>
      c'.keeps_of_within (hcalls c' (h ▸ List.mem_append_left _ hc'))
    exact ⟨NestedResolution.linkedBy_runAll hkeeps hstart,
      hcalls c (h ▸ List.mem_append_right _ List.mem_cons_self)⟩
  | @nested q hq hfree earlier c later h ih =>
    have htables : ∀ c' ∈ q.call.started, c'.Within heap := fun c' hc' => ih.tables.started hc'
    have hkeeps : ∀ c' ∈ earlier, c'.Keeps heap := fun c' hc' =>
      c'.keeps_of_within (htables c' (h ▸ List.mem_append_left _ hc'))
    exact ⟨NestedResolution.linkedBy_runAll hkeeps (ih.linked.claim hfree),
      htables c (h ▸ List.mem_append_right _ List.mem_cons_self)⟩

namespace Sound

variable (h : p.Sound heap)

include h

lemma linked_ended : p.ended.linkage.LinkedBy heap p.running (p.history ++ p.call.ended p.before) :=
  p.call.keeps_of_within h.tables p.running p.history p.before h.linked

lemma refused (hrunning : p.running p.call.name) : p.Refused := by
  have hstate := (h.linked.resolving_iff p.call.name).mpr hrunning
  have hended : p.ended = _ := p.call.run_of_claimed hstate
  refine ⟨?_, ?_, ?_⟩
  · rw [hended]
  · rw [hended]
  · rw [hended]
    exact hstate

lemma bound {report : ResolveReport} (hfree : p.before.ledger p.call.name = none)
    (hok : p.call.interface.outcome p.call.table = .ok report) : p.Bound := by
  have ht : p.call.table.Within heap := h.tables _ (.self _)
  have hlinkage : p.ended.linkage = _ := p.call.linkage_run_of_ok hfree hok
  have hdistinct := ht.nativesDistinct p.call.interface.name
  refine ⟨⟨report, ?_⟩, ?_, ?_, ?_⟩
  · rw [ended, p.call.result_run, if_pos hfree, hok]
  · rw [hlinkage]
    exact if_pos rfl
  · intro d hd
    obtain ⟨address, haddress⟩ := (ModuleInterface.located_of_outcome_eq_ok hok).1 d hd
    refine ⟨address, haddress, ?_⟩
    rw [hlinkage, natives_mark]
    exact natives_carryOut_of_mem _ hd haddress (hdistinct d hd)
  · intro hslots
    rw [hlinkage]
    exact ModuleInterface.boundIn_carryOut hdistinct hslots hok _

lemma released {missing : List Miss} (hfree : p.before.ledger p.call.name = none)
    (herror : p.call.interface.outcome p.call.table = .error (.unresolved p.call.name missing)) :
    p.Released := by
  have hlinkage : p.ended.linkage = _ := p.call.linkage_run_of_error hfree herror
  have hentry : p.ended.linkage.ledger p.call.name = none := by
    rw [hlinkage]
    exact if_pos rfl
  refine ⟨⟨missing, ?_⟩, hentry, ?_, hlinkage, ?_⟩
  · rw [ended, p.call.result_run, if_pos hfree, herror]
  · intro id hid
    apply h.linked_ended.natives_eq_none (h.tables _ (.self _)) _ hid
    simp [isResolved, hentry]
  · intro x hx
    rw [hlinkage]
    exact p.call.content_afterLookups hfree hx

lemma bound_or_released (hfree : p.before.ledger p.call.name = none) : p.Bound ∨ p.Released := by
  cases houtcome : p.call.interface.outcome p.call.table with
  | ok report => exact .inl (h.bound hfree houtcome)
  | error e =>
    obtain ⟨missing, rfl⟩ := ModuleInterface.exists_missing_of_outcome_eq_error houtcome
    exact .inr (h.released hfree houtcome)

lemma atRest : p.atRest.Sound heap := ⟨h.linked.idle, h.tables⟩

/-- Claims of other names make no difference to a resolution that involves none of them. -/
lemma whole (hclear : ∀ d, p.call.Involves d → ¬p.running d.name) :
    p.ended.value = p.alone.value ∧ p.ended.records = p.alone.records ∧
      p.ended.linkage.idle = p.alone.linkage := by
  -- The resolution looks at the entries of the names it involves only, and those are the same.
  have hconfined := p.call.confined_run
  have hsame : SameEntries p.call.places p.before p.before.idle := by
    rintro name ⟨d, hd, hname⟩
    obtain rfl : name = d.name := hname
    exact (h.linked.ledger_idle (hclear d hd)).symm
  refine ⟨hconfined.value _ _ hsame, hconfined.records _ _ hsame, ?_⟩
  apply ext_content
  intro x
  have hchange := hconfined.change _ _ hsame x
  cases x with
  | native id =>
    obtain ⟨hended, halone⟩ | hequal := hchange
    · exact hended.trans halone.symm
    · exact hequal
  | slot slot =>
    obtain ⟨hended, halone⟩ | hequal := hchange
    · exact hended.trans halone.symm
    · exact hequal
  | entry name =>
    by_cases hrunning : p.running name
    · -- a claim stays through the resolution, which does not involve the name
      have houtside : .entry name ∉ p.call.places := by
        rintro ⟨d, hd, hname⟩
        obtain rfl : name = d.name := hname
        exact hclear d hd hrunning
      have halone : p.alone.linkage.ledger name = none :=
        (hconfined.frame _ _ houtside).trans (h.linked.ledger_idle_of_running hrunning)
      exact (h.linked_ended.ledger_idle_of_running hrunning).trans halone.symm
    · have hbefore := h.linked.ledger_idle hrunning
      have hafter := h.linked_ended.ledger_idle hrunning
      obtain ⟨hended, halone⟩ | hequal := hchange
      · exact hafter.trans (hended.trans (hbefore.symm.trans halone.symm))
      · exact hafter.trans hequal

lemma likeAlone_of_claimed (hidle : ¬p.running p.call.name) {state : ModuleState}
    (hstate : p.before.ledger p.call.name = some state) : p.LikeAlone := by
  have hentry := h.linked.ledger_idle hidle
  -- The name is resolved already, so the call is refused with or without the others.
  have hended : p.ended = _ := p.call.run_of_claimed hstate
  have halone : p.alone = _ := p.call.run_of_claimed (hentry.trans hstate)
  refine ⟨?_, ?_, ?_, ?_, ?_, h.whole⟩
  · rw [hended, halone]
  · rw [hended, halone]
  · rw [hended, halone]
    exact hentry.symm
  · intro id _
    rw [hended, halone]
    rfl
  · intro report hok
    rw [hended] at hok
    cases hok

lemma likeAlone_of_free (hfree : p.before.ledger p.call.name = none)
    (halone : p.before.idle.ledger p.call.name = none)
    (hentry : p.ended.linkage.ledger p.call.name = p.alone.linkage.ledger p.call.name)
    (hnatives : ∀ id ∈ p.call.table.nativeSlots p.call.name,
      p.ended.linkage.natives id = p.alone.linkage.natives id)
    (himports : ∀ report, p.call.interface.outcome p.call.table = .ok report →
      ∀ slot ∈ p.call.interface.importSlots,
        p.ended.linkage.imports slot = p.alone.linkage.imports slot) : p.LikeAlone := by
  have hresult : p.ended.value.result = p.call.interface.outcome p.call.table :=
    p.call.result_run.trans (if_pos hfree)
  refine ⟨hresult.trans (p.call.result_run.trans (if_pos halone)).symm, ?_, hentry, hnatives, ?_,
    h.whole⟩
  · rw [ended, alone, p.call.run_of_free hfree, p.call.run_of_free halone]
    rfl
  · intro report hok
    exact himports report (hresult.symm.trans hok)

lemma likeAlone (hidle : ¬p.running p.call.name) : p.LikeAlone := by
  have hentry := h.linked.ledger_idle hidle
  cases hstate : p.before.ledger p.call.name with
  | some state => exact h.likeAlone_of_claimed hidle hstate
  | none =>
    have hfree := hentry.trans hstate
    cases houtcome : p.call.interface.outcome p.call.table with
    | ok report =>
      have hbound := h.bound hstate houtcome
      have hatRest := h.atRest.bound hfree houtcome
      refine h.likeAlone_of_free hstate hfree (hbound.entry.trans hatRest.entry.symm) ?_ ?_
      · -- both resolutions find the same address for a native method
        intro id hid
        obtain ⟨d, hd, rfl⟩ := List.mem_map.mp (List.mem_toFinset.mp hid)
        obtain ⟨address, haddress, hnative⟩ := hbound.natives d hd
        obtain ⟨address', haddress', hnative'⟩ := hatRest.natives d hd
        have hequal : some address = some address' := haddress.symm.trans haddress'
        exact hnative.trans (hequal.trans hnative'.symm)
      · intro _ _ slot hslot
        have hended : p.ended.linkage = _ := p.call.linkage_run_of_ok hstate houtcome
        have halone : p.alone.linkage = _ := p.call.linkage_run_of_ok hfree houtcome
        rw [hended, halone, imports_mark, imports_mark]
        exact imports_carryOut_eq_of_mem _ _ _ _
          (ModuleInterface.exists_plan_import_of_mem houtcome hslot)
    | error e =>
      obtain ⟨missing, rfl⟩ := ModuleInterface.exists_missing_of_outcome_eq_error houtcome
      have hreleased := h.released hstate houtcome
      have hatRest := h.atRest.released hfree houtcome
      refine h.likeAlone_of_free hstate hfree (hreleased.entry.trans hatRest.entry.symm) ?_ ?_
      · intro id hid
        exact (hreleased.natives id hid).trans (hatRest.natives id hid).symm
      · intro report hok
        cases houtcome.symm.trans hok

end Sound

/-- At every point of a process, however its resolutions call each other: a resolution of a name
that is being resolved is refused and changes nothing; any other does to its module what it would do
if nothing else were being resolved; if the name is free the module is bound completely or nothing
of it; no claim is lost; and a name is resolved when a resolution of it has succeeded before. -/
theorem refused_or_likeAlone (heap : Handle → Option Class)
    (imports : ImportSlot → Option MethodId) (calls : List NestedResolution)
    (hcalls : ∀ c ∈ calls, c.Within heap) (p : CallPoint)
    (hp : p.OccursIn calls { Linkage.empty with imports := imports }) :
    (p.running p.call.name → p.Refused) ∧
    (¬p.running p.call.name → p.LikeAlone) ∧
    (p.before.ledger p.call.name = none → p.Bound ∨ p.Released) ∧
    (∀ name, p.running name → p.before.ledger name = some .resolving ∧
      p.ended.linkage.ledger name = some .resolving) ∧
    (∀ name, p.before.isResolved name = true ↔
      ∃ e ∈ p.history, e.Succeeded ∧ e.interface.name = name) ∧
    ∀ name, p.ended.linkage.isResolved name = true ↔
      ∃ e ∈ p.history ++ p.call.ended p.before, e.Succeeded ∧ e.interface.name = name := by
  have h : p.Sound heap := sound_of_occursIn hcalls (linkedBy_nil imports) hp
  refine ⟨h.refused, h.likeAlone, h.bound_or_released, ?_, h.linked.resolved_iff,
    h.linked_ended.resolved_iff⟩
  intro name hrunning
  exact ⟨(h.linked.resolving_iff name).mpr hrunning,
    (h.linked_ended.resolving_iff name).mpr hrunning⟩

end CallPoint

namespace Sample

/-- The engine, whose lookup has the brakes resolved, whose lookup asks for the engine again. -/
def brakedEngine : ForeignModule :=
  .mk engine (.also 0 (.mk brakes (.also 0 (.mk engine .none) .none)) .none)

end Sample

theorem CallPoint.engine_within_brakes_refused :
    let calls := [Sample.brakedEngine.call Sample.steppingTable]
    let brakes : ForeignModule := .mk Sample.brakes (.also 0 (.mk Sample.engine .none) .none)
    let outer : CallPoint :=
      ⟨Sample.brakedEngine.call Sample.steppingTable, fun _ => False, [], Linkage.empty⟩
    let middle := outer.within [] (brakes.call Sample.steppingTable)
    let inner := middle.within [] ((ForeignModule.mk Sample.engine .none).call Sample.steppingTable)
    (∀ c ∈ calls, c.Within Sample.steppingHeap) ∧ outer.OccursIn calls Linkage.empty ∧
      middle.OccursIn calls Linkage.empty ∧ inner.OccursIn calls Linkage.empty ∧
      inner.running "engine" ∧ inner.Refused ∧ ¬middle.running "brakes" ∧ middle.LikeAlone ∧
      middle.Released ∧ outer.Bound ∧ outer.ended.linkage.isResolved "engine" = true := by
  intro calls brakes outer middle inner
  have hcalls : ∀ c ∈ calls, c.Within Sample.steppingHeap := by
    intro c hc d hd cls hcls
    obtain rfl := List.mem_singleton.mp hc
    rw [ForeignModule.table_of_involves hd] at hcls
    obtain rfl : cls = Sample.steppingClass := List.mem_singleton.mp hcls
    rfl
  have houter : outer.OccursIn calls Linkage.empty := .outer [] _ [] rfl
  have hmiddle : middle.OccursIn calls Linkage.empty := .nested houter rfl [] _ [] rfl
  have hinner : inner.OccursIn calls Linkage.empty := .nested hmiddle rfl [] _ [] rfl
  have hrunning : inner.running "engine" := .inr (.inl rfl)
  have hidle : ¬middle.running "brakes" := by
    rintro (hname | hfalse)
    · exact absurd hname (by decide)
    · exact hfalse
  obtain ⟨hrefused, _⟩ := refused_or_likeAlone Sample.steppingHeap _ calls hcalls inner hinner
  obtain ⟨_, hlikeAlone, hmiddleEnds, _⟩ :=
    refused_or_likeAlone Sample.steppingHeap _ calls hcalls middle hmiddle
  obtain ⟨_, _, houterEnds, _⟩ :=
    refused_or_likeAlone Sample.steppingHeap _ calls hcalls outer houter
  have hreleased : middle.Released := by
    obtain ⟨⟨report, hok⟩, _⟩ | hreleased := hmiddleEnds rfl
    · cases hok
    · exact hreleased
  have hbound : outer.Bound := by
    obtain hbound | ⟨⟨missing, herror⟩, _⟩ := houterEnds rfl
    · exact hbound
    · cases herror
  refine ⟨hcalls, houter, hmiddle, hinner, hrunning, hrefused hrunning, hidle, hlikeAlone hidle,
    hreleased, hbound, ?_⟩
  exact Linkage.isResolved_iff.mpr ⟨_, hbound.entry⟩

end NativeBridge
