import Rebuild.Analysis.Classpath
import Rebuild.Proofs.Scan

/-!
# What a classpath run reports

The archives are analyzed in order. As long as each change is incremental the report stays open; the
first archive that is not incremental settles it, and none behind that one is analyzed.
-/

namespace Rebuild

variable {ω ρ α β : Type}

/-! ## Attempts -/

/-- An analysis that was carried out: its judgement, what was said, and the world that it left. -/
structure Attempt (ω : Type) where
  archive : Path
  judgement : Except AnalysisError Verdict
  events : List LogEvent
  world : ω

namespace Attempt

def Passes (attempt : Attempt ω) : Prop := attempt.judgement = .ok .incremental

def line (attempt : Attempt ω) : ArchiveOutcome := ⟨attempt.archive, .analyzed .incremental⟩

def make (analyze : Path → Act ω (Except AnalysisError Verdict)) (archive : Path) (w : ω)
    (disk : Disk) : Attempt ω :=
  let answer := (analyze archive).run w disk
  ⟨archive, answer.value.1, answer.events, answer.value.2⟩

/-- All archives analyzed one after another, each in the world and on the disk that the one in front
of it leaves. -/
def series (analyze : Path → Act ω (Except AnalysisError Verdict)) :
    List Path → ω → Disk → List (Attempt ω)
  | [], _, _ => []
  | archive :: archives, w, disk =>
    let first := make analyze archive w disk
    first :: series analyze archives first.world (disk.after first.events)

/-- The world when all attempts are over. -/
def worldAfter (attempts : List (Attempt ω)) (w : ω) : ω :=
  attempts.foldl (fun _ attempt => attempt.world) w

def said (attempts : List (Attempt ω)) : List LogEvent := attempts.flatMap Attempt.events

theorem said_cons (attempt : Attempt ω) (attempts : List (Attempt ω)) :
    said (attempt :: attempts) = attempt.events ++ said attempts := List.flatMap_cons

theorem map_archive_series (analyze : Path → Act ω (Except AnalysisError Verdict))
    (archives : List Path) (w : ω) (disk : Disk) :
    (series analyze archives w disk).map Attempt.archive = archives := by
  induction archives generalizing w disk with
  | nil => rfl
  | cons archive archives ih =>
    unfold series
    rw [List.map_cons, ih]
    rfl

theorem all_pass_or_first_settles (attempts : List (Attempt ω)) :
    (∀ attempt ∈ attempts, attempt.Passes) ∨
      ∃ before last after, attempts = before ++ last :: after ∧
        (∀ attempt ∈ before, attempt.Passes) ∧ ¬ last.Passes := by
  induction attempts with
  | nil => exact Or.inl nofun
  | cons first others ih =>
    by_cases hfirst : first.Passes
    · rcases ih with hothers | ⟨before, last, after, rfl, hbefore, hlast⟩
      · exact Or.inl (List.forall_mem_cons.2 ⟨hfirst, hothers⟩)
      · exact Or.inr ⟨first :: before, last, after, rfl,
          List.forall_mem_cons.2 ⟨hfirst, hbefore⟩, hlast⟩
    · exact Or.inr ⟨[], first, others, rfl, nofun, hfirst⟩

end Attempt

namespace ClasspathReport

open Attempt

/-! ## One archive -/

/-- How an attempt that does not pass settles a report with these lines. -/
def settle (errorsAsFullRebuild : Bool) (lines : List ArchiveOutcome) (attempt : Attempt ω) :
    Except AnalysisError ClasspathReport :=
  match attempt.judgement with
  | .ok verdict => .ok ⟨verdict, lines ++ [⟨attempt.archive, .analyzed verdict⟩]⟩
  | .error error =>
    if errorsAsFullRebuild then
      .ok ⟨.fullRebuild ("analysis of " ++ attempt.archive.shown ++ " failed: " ++ error.message),
        lines ++ [⟨attempt.archive, .failed error.message⟩]⟩
    else .error error

/-- What is said besides when an attempt settles a report. -/
def settleEvents (errorsAsFullRebuild : Bool) (attempt : Attempt ω) : List LogEvent :=
  match attempt.judgement with
  | .ok _ => []
  | .error error => if errorsAsFullRebuild then [failureEvent attempt.archive error] else []

section Steps

variable (analyze : Path → Act ω (Except AnalysisError Verdict)) (errorsAsFullRebuild : Bool)
  (lines : List ArchiveOutcome) {archive : Path} {archives : List Path} {w : ω} {disk : Disk}

theorem addArchives_cons_of_passes (h : (make analyze archive w disk).Passes) :
    let first := make analyze archive w disk
    let rest := (addArchives analyze errorsAsFullRebuild archives
      ⟨.incremental, lines ++ [first.line]⟩).run first.world (disk.after first.events)
    (addArchives analyze errorsAsFullRebuild (archive :: archives) ⟨.incremental, lines⟩).run w
      disk = ⟨rest.value, first.events ++ rest.events⟩ := by
  unfold Passes make at h
  simp only at h
  rw [addArchives, Act.bind_apply]
  simp only [h]
  rfl

theorem addArchives_cons_of_not_passes (h : ¬ (make analyze archive w disk).Passes) :
    let last := make analyze archive w disk
    (addArchives analyze errorsAsFullRebuild (archive :: archives) ⟨.incremental, lines⟩).run w
      disk = ⟨(settle errorsAsFullRebuild lines last, last.world),
        last.events ++ settleEvents errorsAsFullRebuild last⟩ := by
  unfold Passes make at h
  simp only at h
  rw [addArchives, Act.bind_apply]
  unfold make settle settleEvents
  generalize (analyze archive).run w disk = answer at h ⊢
  obtain ⟨⟨judgement, w⟩, events⟩ := answer
  rcases judgement with error | (_ | cause)
  · cases errorsAsFullRebuild <;> rfl
  · exact absurd rfl h
  · rfl

/-! ## All archives -/

theorem addArchives_of_passes (h : ∀ attempt ∈ series analyze archives w disk, attempt.Passes) :
    let tried := series analyze archives w disk
    (addArchives analyze errorsAsFullRebuild archives ⟨.incremental, lines⟩).run w disk =
      ⟨(.ok ⟨.incremental, lines ++ tried.map Attempt.line⟩, worldAfter tried w), said tried⟩ := by
  induction archives generalizing lines w disk with
  | nil =>
    intro tried
    rw [show tried = [] from rfl, List.map_nil, List.append_nil]
    rfl
  | cons archive archives ih =>
    unfold series at h ⊢
    obtain ⟨hfirst, hothers⟩ := List.forall_mem_cons.1 h
    simp only [addArchives_cons_of_passes analyze errorsAsFullRebuild lines hfirst, ih _ hothers,
      List.append_assoc]
    rfl

theorem addArchives_of_settles {before after : List (Attempt ω)} {last : Attempt ω}
    (htried : series analyze archives w disk = before ++ last :: after)
    (hbefore : ∀ attempt ∈ before, attempt.Passes) (hlast : ¬ last.Passes) :
    (addArchives analyze errorsAsFullRebuild archives ⟨.incremental, lines⟩).run w disk =
      ⟨(settle errorsAsFullRebuild (lines ++ before.map Attempt.line) last, last.world),
        said before ++ last.events ++ settleEvents errorsAsFullRebuild last⟩ := by
  -- Along the archives that pass: each adds its line and hands on its world and its disk.
  induction before generalizing archives lines w disk with
  | nil =>
    cases archives with
    | nil => exact nomatch htried
    | cons archive archives =>
      obtain ⟨rfl, -⟩ := List.cons.inj htried
      rw [List.map_nil, List.append_nil]
      exact addArchives_cons_of_not_passes analyze errorsAsFullRebuild lines hlast
  | cons first before ih =>
    cases archives with
    | nil => exact nomatch htried
    | cons archive archives =>
      obtain ⟨rfl, hrest⟩ := List.cons.inj htried
      obtain ⟨hfirst, hothers⟩ := List.forall_mem_cons.1 hbefore
      simp only [addArchives_cons_of_passes analyze errorsAsFullRebuild lines hfirst,
        ih _ hrest hothers, said_cons, List.map_cons, List.append_assoc, List.singleton_append]

end Steps

theorem isOk_settle (lines : List ArchiveOutcome) (attempt : Attempt ω) :
    ∃ report, settle true lines attempt = .ok report := by
  unfold settle
  cases attempt.judgement <;> exact ⟨_, rfl⟩

end ClasspathReport

/-! ## The run -/

open Attempt ClasspathReport in
/-- The report has a line for each archive up to the first that is not incremental, and that one
settles it: by its verdict, or by its failure as the options say. The run ends in the world of that
analysis and has said what was said until then, so the archives behind it were not analyzed. -/
theorem ClasspathDiff.run_eq_first_settled (diff : ClasspathDiff) (bench : Workbench ω ρ) (w : ω)
    (disk : Disk) :
    let archives := diff.current.paths.filter diff.options.isArchive
    let tried := series (diff.analyzeArchive bench) archives w disk
    let answer := (diff.run bench).run w disk
    tried.map Attempt.archive = archives ∧
    ((∀ attempt ∈ tried, attempt.Passes) →
      answer = ⟨(.ok ⟨.incremental, tried.map line⟩, worldAfter tried w), said tried⟩) ∧
    (∀ before last after, tried = before ++ last :: after →
      (∀ attempt ∈ before, attempt.Passes) → ¬ last.Passes →
        answer = ⟨(settle diff.options.errorsAsFullRebuild (before.map line) last, last.world),
          said before ++ last.events ++
            settleEvents diff.options.errorsAsFullRebuild last⟩) ∧
    (diff.options.errorsAsFullRebuild = true → ∃ report, answer.value.1 = .ok report) := by
  intro archives tried answer
  have hpasses : (∀ attempt ∈ tried, attempt.Passes) → answer = _ :=
    addArchives_of_passes _ diff.options.errorsAsFullRebuild []
  have hsettles : ∀ before last after, tried = before ++ last :: after →
      (∀ attempt ∈ before, attempt.Passes) → ¬ last.Passes → answer = _ :=
    fun _ _ _ => addArchives_of_settles _ diff.options.errorsAsFullRebuild []
  simp only [List.nil_append] at hpasses hsettles
  refine ⟨map_archive_series _ archives w disk, hpasses, hsettles, ?_⟩
  intro hfold
  rcases all_pass_or_first_settles tried with hall | ⟨before, last, after, htried, hbefore, hlast⟩
  · exact ⟨_, congrArg (·.value.1) (hpasses hall)⟩
  · obtain ⟨report, hreport⟩ := isOk_settle (before.map line) last
    refine ⟨report, ?_⟩
    rw [hsettles before last after htried hbefore hlast, hfold]
    exact hreport

theorem second_archive_settles_report :
    let a := Path.ofString "/a.jar"
    let b := Path.ofString "/b.jar"
    let snapshot := Path.ofString "/1437853102-a.jar"
    let files := (FileSystem.empty []).writeFile snapshot .empty
    let bench : Workbench Nat (List Member) :=
      ⟨.listed fun _ => [], fun _ => return .ok .incremental⟩
    let current := [a, .ofString "/notes.txt", b, .ofString "/c.jar"]
    let diff : ClasspathDiff := ⟨⟨[snapshot]⟩, ⟨current⟩, {}⟩
    let cause := "no previous compiled archive found for /b.jar"
    ((diff.run bench).run 0 (.still files)).value.1 = .ok ⟨.fullRebuild cause,
      [⟨a, .analyzed .incremental⟩, ⟨b, .analyzed (.fullRebuild cause)⟩]⟩ := by
  intro a b snapshot files bench current diff cause
  let first := Attempt.make (diff.analyzeArchive bench) a 0 (.still files)
  let second := Attempt.make (diff.analyzeArchive bench) b first.world
    ((Disk.still files).after first.events)
  have harchives : diff.current.paths.filter diff.options.isArchive =
      [a, b, .ofString "/c.jar"] := by
    decide +kernel
  have hfirst : first.Passes := toOption_eq_some_iff.1 (by decide +kernel)
  have hsecond : second.judgement = .ok (.fullRebuild cause) :=
    toOption_eq_some_iff.1 (by decide +kernel)
  have hlast : ¬ second.Passes := by
    unfold Attempt.Passes
    rw [hsecond]
    exact nofun
  obtain ⟨-, -, hsettles, -⟩ := diff.run_eq_first_settled bench 0 (.still files)
  rw [harchives] at hsettles
  rw [hsettles [first] second _ rfl (List.forall_mem_singleton.2 hfirst) hlast]
  simp only [ClasspathReport.settle, hsecond]
  rfl

end Rebuild
