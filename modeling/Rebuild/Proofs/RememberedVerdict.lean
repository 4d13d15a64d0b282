import Rebuild.Command.Run
import Rebuild.Proofs.Evaluation

/-!
# What a unit remembers

A unit may be asked many times, and all around it may change in between: the disk, how archives are
opened, how classes are judged. The first verdict stays and settles every later question by itself.
An error leaves nothing behind.
-/

namespace Rebuild

variable {ω ρ : Type}

/-- A question to a unit: what it works with, and the world and the disk that it finds. -/
structure Occasion (ω ρ : Type) where
  bench : Workbench ω ρ
  world : ω
  disk : Disk

namespace ArchiveUnit

def ask (unit : ArchiveUnit) (occasion : Occasion ω ρ) :
    Except AnalysisError Verdict × ArchiveUnit :=
  ((unit.analyze occasion.bench).run occasion.world occasion.disk).value.1

def answers (unit : ArchiveUnit) : List (Occasion ω ρ) → List (Except AnalysisError Verdict)
  | [] => []
  | occasion :: occasions => (unit.ask occasion).1 :: (unit.ask occasion).2.answers occasions

def after (unit : ArchiveUnit) : List (Occasion ω ρ) → ArchiveUnit
  | [] => unit
  | occasion :: occasions => (unit.ask occasion).2.after occasions

/-! ## One question -/

section Question

variable {unit : ArchiveUnit} {verdict : Verdict}

theorem setVerdict_self {found : Option Verdict} (h : unit.verdict = found) :
    { unit with verdict := found } = unit := by
  rw [← h]

theorem analyze_eq_pure (hverdict : unit.verdict = some verdict) (bench : Workbench ω ρ) :
    unit.analyze bench = pure (.ok verdict, unit) := by
  unfold analyze
  rw [hverdict]

theorem ask_of_verdict (hverdict : unit.verdict = some verdict) (occasion : Occasion ω ρ) :
    unit.ask occasion = (.ok verdict, unit) := by
  unfold ask
  rw [analyze_eq_pure hverdict]
  rfl

theorem ask_of_fresh (hfresh : unit.verdict = none) (occasion : Occasion ω ρ) :
    (unit.ask occasion).2 = { unit with verdict := (unit.ask occasion).1.toOption } := by
  unfold ask analyze
  simp only [hfresh, StateT.run_bind, Inquiry.value_bind]
  generalize ((unit.run occasion.bench).run occasion.world occasion.disk).value = found
  obtain ⟨judgement, w⟩ := found
  cases judgement with
  | error error => exact (setVerdict_self hfresh).symm
  | ok verdict => cases verdict <;> rfl

theorem ask_snd (unit : ArchiveUnit) (occasion : Occasion ω ρ) :
    (unit.ask occasion).2 =
      { unit with verdict := unit.verdict.or (unit.ask occasion).1.toOption } := by
  cases hverdict : unit.verdict with
  | none =>
    rw [Option.none_or]
    exact ask_of_fresh hverdict occasion
  | some verdict =>
    rw [ask_of_verdict hverdict, Option.some_or, ← hverdict]

end Question

/-! ## Many questions -/

theorem after_eq (unit : ArchiveUnit) (occasions : List (Occasion ω ρ)) :
    unit.after occasions =
      { unit with
        verdict := unit.verdict.or ((unit.answers occasions).findSome? Except.toOption) } := by
  -- Each question at most fills in a verdict, so the verdict in front wins over the later ones.
  induction occasions generalizing unit with
  | nil =>
    unfold after answers
    rw [List.findSome?_nil, Option.or_none]
  | cons occasion occasions ih =>
    unfold after answers
    rw [ih, ask_snd, List.findSome?_cons, Option.or_assoc]
    cases (unit.ask occasion).1.toOption <;> rfl

theorem isFullRebuildNeeded_iff (unit : ArchiveUnit) :
    unit.isFullRebuildNeeded = true ↔ ∃ cause, unit.verdict = some (.fullRebuild cause) := by
  unfold isFullRebuildNeeded
  rcases unit.verdict with _ | (_ | cause) <;> simp [Verdict.isFullRebuild]

theorem fullRebuildCause?_eq_some_iff (unit : ArchiveUnit) (cause : String) :
    unit.fullRebuildCause? = some cause ↔ unit.verdict = some (.fullRebuild cause) := by
  unfold fullRebuildCause?
  rcases unit.verdict with _ | (_ | found) <;> simp [Verdict.cause?]

/-- At each point of its life a unit has the first verdict that it answered with, and none before.
With a verdict it asks nothing of anybody, and after an error it is as it was made. -/
theorem verdict_after_eq_first_answer {unit : ArchiveUnit} (hfresh : unit.verdict = none)
    (past : List (Occasion ω ρ)) :
    let now := unit.after past
    now.verdict = (unit.answers past).findSome? Except.toOption ∧
    (∀ verdict, now.verdict = some verdict →
      ∀ bench : Workbench ω ρ, now.analyze bench = pure (.ok verdict, now)) ∧
    (∀ (occasion : Occasion ω ρ) (error : AnalysisError),
      (now.ask occasion).1 = .error error → (now.ask occasion).2 = now ∧ now = unit) ∧
    (now.isFullRebuildNeeded = true ↔ ∃ cause, now.verdict = some (.fullRebuild cause)) ∧
    (∀ cause, now.fullRebuildCause? = some cause ↔ now.verdict = some (.fullRebuild cause)) := by
  intro now
  have hnow : now = { unit with
      verdict := (unit.answers past).findSome? Except.toOption } := by
    have := after_eq unit past
    rwa [hfresh, Option.none_or] at this
  refine ⟨congrArg ArchiveUnit.verdict hnow, ?_, ?_, now.isFullRebuildNeeded_iff,
    now.fullRebuildCause?_eq_some_iff⟩
  · intro verdict hverdict bench
    exact analyze_eq_pure hverdict bench
  · intro occasion error herror
    cases hverdict : now.verdict with
    | some verdict =>
      rw [ask_of_verdict hverdict] at herror
      exact nomatch herror
    | none =>
      -- A unit without a verdict has only met errors, so it is still the unit that was made.
      have hanswers : (unit.answers past).findSome? Except.toOption = none := by
        rw [← hverdict, hnow]
      refine ⟨?_, ?_⟩
      · rw [ask_of_fresh hverdict, herror]
        exact setVerdict_self hverdict
      · rw [hnow, hanswers]
        exact setVerdict_self hfresh

end ArchiveUnit

theorem missing_snapshot_is_remembered :
    let unit : ArchiveUnit := ⟨⟨[]⟩, ⟨[]⟩, .ofString "/new.jar", some (.ofString "/old.jar"), none⟩
    let gone := FileSystem.empty []
    let damaged := gone.writeFile (.ofString "/old.jar") .empty
    let past := [damaged, gone, damaged].map fun files =>
      (⟨Command.workbench, (), .still files⟩ : Occasion Unit Jar)
    (unit.after past).verdict =
        some (.fullRebuild "no previous compiled archive found for /new.jar") ∧
      (unit.after past).isFullRebuildNeeded = true := by
  intro unit gone damaged past
  have hfresh : unit.verdict = none := rfl
  obtain ⟨hverdict, -, -, hneeded, -⟩ := ArchiveUnit.verdict_after_eq_first_answer hfresh past
  have hanswers : (unit.answers past).findSome? Except.toOption =
      some (.fullRebuild "no previous compiled archive found for /new.jar") := by
    decide +kernel
  rw [hanswers] at hverdict
  exact ⟨hverdict, hneeded.2 ⟨_, hverdict⟩⟩

end Rebuild
