import Rebuild.Proofs.LoadHistory
import Rebuild.Proofs.VerdictInputs

/-!
# What an analysis may fail with

Loads are asked for one after another, in contexts that keep what they find, but what a load fails
with is what a search that starts anew fails with. So the failures of an analysis are of a kind if
those of its archives, its comparator and its searches are.
-/

namespace Rebuild

variable {ω α β : Type}

/-- The judgement is a verdict or an error of this kind. -/
def Judgement.FailsOnlyWith (allowed : AnalysisError → Prop) (judgement : Judgement) : Prop :=
  ∀ error, judgement = .error error → allowed error

namespace Judgement.FailsOnlyWith

variable {allowed : AnalysisError → Prop}

theorem ok (verdict : Verdict) : FailsOnlyWith allowed (.ok verdict) := fun _ h => nomatch h

theorem error {error : AnalysisError} (h : allowed error) : FailsOnlyWith allowed (.error error) :=
  fun _ heq => Except.error.inj heq ▸ h

end Judgement.FailsOnlyWith

/-- Faults of archives and of comparators are among these errors. -/
structure AnalysisError.AllowsOthers (allowed : AnalysisError → Prop) : Prop where
  archive : ∀ error, allowed (.archive error)
  comparator : ∀ className message, allowed (.comparator className message)

/-! ## Steps that keep the contexts good -/

/-- In contexts that serve, the step answers as wanted and leaves contexts that serve. -/
def Walk.Yields (files : FileSystem) (unit : ArchiveUnit) (x : Walk ω α) (wanted : α → Prop) :
    Prop :=
  ∀ contexts : Contexts, contexts.Serve files unit → ∀ w : ω,
    wanted (Walk.on x files contexts w).1.1 ∧ (Walk.on x files contexts w).1.2.Serve files unit

namespace Walk.Yields

variable {files : FileSystem} {unit : ArchiveUnit} {wanted : α → Prop}

theorem pure {value : α} (h : wanted value) :
    Yields files unit (Pure.pure value : Walk ω α) wanted :=
  fun _ hserve _ => ⟨h, hserve⟩

theorem act {x : Act ω α} (h : ∀ w, wanted (Act.on x files w).1) :
    Yields files unit (x : Walk ω α) wanted := by
  intro contexts hserve w
  rw [on_act]
  exact ⟨h w, hserve⟩

theorem bind {x : Walk ω α} {f : α → Walk ω β} {between : α → Prop} {wanted : β → Prop}
    (hx : Yields files unit x between)
    (hf : ∀ value, between value → Yields files unit (f value) wanted) :
    Yields files unit (x >>= f) wanted := by
  intro contexts hserve w
  obtain ⟨hfirst, hkept⟩ := hx contexts hserve w
  rw [on_bind]
  exact hf _ hfirst _ hkept _

theorem get : Yields files unit (MonadState.get : Walk ω Contexts) fun _ => True :=
  fun _ hserve _ => ⟨trivial, hserve⟩

theorem said (event : LogEvent) :
    Yields files unit (say event : Walk ω Unit) fun _ => True :=
  act fun _ => trivial

theorem of_answersWith {x : Walk ω α} {expected : ω → α × ω}
    (hx : ∀ contexts : Contexts, contexts.Serve files unit → ∀ w,
      ArchiveUnit.AnswersWith files unit (Walk.on x files contexts w) (expected w))
    (h : ∀ w, wanted (expected w).1) : Yields files unit x wanted := by
  intro contexts hserve w
  obtain ⟨kept, hkept, hanswer⟩ := hx contexts hserve w
  rw [hanswer]
  exact ⟨h w, hkept⟩

end Walk.Yields

namespace ArchiveUnit

/-- What the searches for a class on either side fail with is among these errors. -/
structure SearchesWithin (files : FileSystem) (unit : ArchiveUnit)
    (allowed : AnalysisError → Prop) (name : String) : Prop where
  previous : ∀ error, Stateless.loadClass files "previous" unit.previous name = .error error →
    allowed (.classpath error)
  current : ∀ error, Stateless.loadClass files "current" unit.current name = .error error →
    allowed (.classpath error)

/-- So it is for each class of a snapshot that is compared. -/
def ComparesWithin (files : FileSystem) (unit : ArchiveUnit) (allowed : AnalysisError → Prop)
    (before after : Jar) : Prop :=
  ∀ index member counterpart name, (before.memberAt files index).1 = .ok (some member) →
    (after.member files member.name).1 = .ok (some counterpart) →
      member.qualified? = some name → nameCause? member = none →
        SearchesWithin files unit allowed name

variable {files : FileSystem} {unit : ArchiveUnit} {allowed : AnalysisError → Prop}
  (compare : Comparator ω) (hothers : AnalysisError.AllowsOthers allowed)

include hothers

theorem weighClass_failsOnlyWith {name : String} (h : SearchesWithin files unit allowed name)
    (w : ω) :
    Judgement.FailsOnlyWith allowed (Stateless.weighClass files unit compare name w).1 := by
  unfold Stateless.weighClass
  cases hfirst : Stateless.loadClass files "previous" unit.previous name with
  | error error => exact Judgement.FailsOnlyWith.error (h.previous error hfirst)
  | ok previous =>
    cases hsecond : Stateless.loadClass files "current" unit.current name with
    | error error => exact Judgement.FailsOnlyWith.error (h.current error hsecond)
    | ok current =>
      simp only
      obtain ⟨answer, w⟩ := Act.on (compare ⟨name, previous, current⟩) files w
      cases answer with
      | error message => exact Judgement.FailsOnlyWith.error (hothers.comparator name message)
      | ok verdict => exact Judgement.FailsOnlyWith.ok verdict

theorem weighMember_failsOnlyWith {member : Member} {answer : Except ArchiveError (Option Member)}
    (h : ∀ counterpart name, answer = .ok (some counterpart) → member.qualified? = some name →
      nameCause? member = none → SearchesWithin files unit allowed name) (w : ω) :
    Judgement.FailsOnlyWith allowed
      (Stateless.weighMember files unit compare member answer w).1 := by
  unfold Stateless.weighMember
  cases hname : member.qualified? with
  | none => exact Judgement.FailsOnlyWith.ok _
  | some name =>
    rcases answer with error | (_ | counterpart)
    · exact Judgement.FailsOnlyWith.error (hothers.archive error)
    · exact Judgement.FailsOnlyWith.ok _
    · simp only
      split
      · exact Judgement.FailsOnlyWith.ok _
      · -- Only here are classes loaded.
        cases hcause : nameCause? member with
        | some cause => exact Judgement.FailsOnlyWith.ok _
        | none =>
          have hsearches := h counterpart name rfl hname hcause
          exact weighClass_failsOnlyWith compare hothers hsearches w

section Readers

variable {before after : Jar}

theorem settle_yields {item : ArchiveAccess.Item}
    (hitem : ∀ member, item = .ok member → ∀ counterpart name,
      (after.member files member.name).1 = .ok (some counterpart) →
        member.qualified? = some name → nameCause? member = none →
          SearchesWithin files unit allowed name) :
    Walk.Yields files unit (unit.settle ⟨.jars ω, compare⟩ after item) fun settled =>
      ∀ judgement ∈ settled, Judgement.FailsOnlyWith allowed judgement := by
  cases item with
  | error error =>
    refine Walk.Yields.pure ?_
    rintro judgement ⟨⟩
    exact Judgement.FailsOnlyWith.error (hothers.archive error)
  | ok member =>
    by_cases hclass : member.isClass = true
    · refine Walk.Yields.of_answersWith
        (fun _ hserve w => settle_class_on compare after hserve hclass w) fun w => ?_
      split
      · exact nofun
      · rintro judgement ⟨⟩
        exact weighMember_failsOnlyWith compare hothers (hitem member rfl) w
    · intro contexts hserve w
      rw [settle_other_on compare after hclass]
      exact ⟨nofun, hserve⟩

theorem visit_yields (hcompares : ComparesWithin files unit allowed before after)
    (indices : List Nat) :
    Walk.Yields files unit
      ((ArchiveAccess.jars ω).visit before (unit.settle ⟨.jars ω, compare⟩ after) indices)
      fun settled => ∀ judgement ∈ settled, Judgement.FailsOnlyWith allowed judgement := by
  -- Each item leaves contexts that serve as well for the next one.
  induction indices with
  | nil => exact Walk.Yields.pure nofun
  | cons index indices ih =>
    rw [ArchiveAccess.visit_cons]
    have hmemberAt : Walk.Yields files unit
        ((ArchiveAccess.jars ω).memberAt before index : Walk ω _)
        fun entry => entry = (before.memberAt files index).1 :=
      Walk.Yields.act fun _ => rfl
    refine hmemberAt.bind fun entry hentry => ?_
    cases hshown : ArchiveAccess.shown? entry with
    | none => exact ih
    | some item =>
      refine (settle_yields compare hothers fun member hmember => ?_).bind fun settled h => ?_
      · subst hmember
        have hfound := hentry.symm.trans (ArchiveAccess.eq_of_shown?_eq_ok hshown)
        exact fun counterpart name => hcompares index member counterpart name hfound
      · cases settled with
        | some judgement => exact Walk.Yields.pure h
        | none => exact ih

theorem compareReaders_yields (hcompares : ComparesWithin files unit allowed before after) :
    Walk.Yields files unit (unit.compareReaders ⟨.jars ω, compare⟩ before after)
      (Judgement.FailsOnlyWith allowed) := by
  unfold compareReaders
  refine (Walk.Yields.said _).bind fun _ _ => ?_
  refine (visit_yields compare hothers hcompares _).bind fun settled hsettled => ?_
  refine Walk.Yields.get.bind fun contexts _ => ?_
  refine (Walk.Yields.said _).bind fun _ _ => (Walk.Yields.said _).bind fun _ _ => ?_
  refine Walk.Yields.pure ?_
  cases settled with
  | none => exact Judgement.FailsOnlyWith.ok _
  | some judgement => exact hsettled judgement rfl

end Readers

omit hothers in
theorem load_yields (path : Path) :
    Walk.Yields files unit ((ArchiveAccess.jars ω).acquire path : Walk ω _) fun opened =>
      opened = Jar.load files path := by
  refine Walk.Yields.act fun w => ?_
  unfold ArchiveAccess.jars Jar.acquire
  simp only [Act.on_inquiry, Inquiry.on_bind, Inquiry.on_files]
  cases Jar.load files path <;> rfl

theorem withReader_yields {path : Path} {use : Jar → Walk ω Judgement}
    (huse : ∀ jar, Jar.load files path = .ok jar →
      Walk.Yields files unit (use jar) (Judgement.FailsOnlyWith allowed)) :
    Walk.Yields files unit ((ArchiveAccess.jars ω).withReader path use)
      (Judgement.FailsOnlyWith allowed) := by
  unfold ArchiveAccess.withReader
  refine (load_yields path).bind fun opened hopened => ?_
  cases opened with
  | error error => exact Walk.Yields.pure (Judgement.FailsOnlyWith.error (hothers.archive error))
  | ok jar =>
    refine (huse jar hopened.symm).bind fun judgement hjudgement => ?_
    have hrelease : Walk.Yields files unit ((ArchiveAccess.jars ω).release jar : Walk ω Unit)
        fun _ => True := Walk.Yields.act fun _ => trivial
    exact hrelease.bind fun _ _ => Walk.Yields.pure hjudgement

theorem compareWith_failsOnlyWith {snapshot : Path}
    (hcompares : ∀ before after, Jar.load files snapshot = .ok before →
      Jar.load files unit.archive = .ok after → ComparesWithin files unit allowed before after)
    (w : ω) :
    Judgement.FailsOnlyWith allowed
      (Act.on (unit.compareWith ⟨.jars ω, compare⟩ snapshot) files w).1 := by
  have hserve : Contexts.Serve files unit
      ⟨((ClassContext.create "previous" unit.previous).on files).value,
        ((ClassContext.create "current" unit.current).on files).value⟩ :=
    ⟨ClassContext.create_on files "previous" unit.previous,
      ClassContext.create_on files "current" unit.current⟩
  have hbody := withReader_yields hothers fun before hbefore =>
    withReader_yields hothers fun after hafter =>
      compareReaders_yields compare hothers (hcompares before after hbefore hafter)
  obtain ⟨hanswer, -⟩ := hbody _ hserve w
  unfold Walk.on at hanswer
  unfold compareWith
  simpa only [Act.on_bind, Act.on_inquiry, Act.on_pure] using hanswer

/-- An analysis fails in ways that are allowed, if searches for the classes it compares do. -/
theorem analyze_failsOnlyWith (hfresh : unit.verdict = none)
    (hcompares : ∀ snapshot ∈ unit.snapshot, ∀ before after,
      Jar.load files snapshot = .ok before → Jar.load files unit.archive = .ok after →
        ComparesWithin files unit allowed before after) (w : ω) :
    Judgement.FailsOnlyWith allowed
      (Act.on (unit.analyze ⟨.jars ω, compare⟩) files w).1.1 := by
  rw [(analyze_on_of_fresh ⟨.jars ω, compare⟩ files w hfresh).1]
  unfold run
  simp only [Act.on_bind, Act.on_inquiry, Inquiry.on_files]
  cases hfound : unit.snapshot.filter files.doesExist with
  | none => exact Judgement.FailsOnlyWith.ok _
  | some snapshot =>
    have hmem : snapshot ∈ unit.snapshot := (Option.filter_eq_some_iff.1 hfound).1
    exact compareWith_failsOnlyWith compare hothers (hcompares snapshot hmem) w

end ArchiveUnit

end Rebuild
