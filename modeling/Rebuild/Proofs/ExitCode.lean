import Rebuild.Command.Footprint
import Rebuild.Proofs.Panics

/-!
# When a run ends with zero

A run reports an incremental change exactly if the archive is up to date, or all archives of the
current side. Failures end in a report, in an error or in a panic, and none of them is zero.
-/

namespace Rebuild

variable {files : FileSystem} {paths : List Path}

/-! ## Several archives -/

/-- A report that is left open. -/
def ClasspathReport.IsIncremental (result : Except AnalysisError ClasspathReport) : Prop :=
  ∃ report : ClasspathReport, result = .ok report ∧ report.verdict = .incremental

theorem ClasspathReport.isIncremental_ok_iff (report : ClasspathReport) :
    IsIncremental (.ok report) ↔ report.verdict = .incremental := by
  constructor
  · rintro ⟨other, h, hverdict⟩
    exact Except.ok.inj h ▸ hverdict
  · intro hverdict
    exact ⟨report, rfl, hverdict⟩

theorem ClasspathReport.not_isIncremental_error (error : AnalysisError) :
    ¬ IsIncremental (.error error) := by
  rintro ⟨_, h, _⟩
  exact nomatch h

theorem ClasspathReport.verdict_add {report : ClasspathReport} (h : report.verdict = .incremental)
    (archive : Path) (verdict : Verdict) (result : ArchiveResult) :
    (report.add archive verdict result).verdict = verdict := by
  unfold add
  rw [h]
  rfl

theorem ClasspathReport.addArchives_ensures {ω : Type}
    {analyze : Path → Act ω (Except AnalysisError Verdict)} {holds : Path → Prop}
    (errorsAsFullRebuild : Bool) (archives : List Path) :
    (∀ archive ∈ archives, Act.Ensures files paths (analyze archive) fun result =>
      result = .ok .incremental ↔ holds archive) →
    ∀ report : ClasspathReport, report.verdict = .incremental →
      Act.Ensures files paths (addArchives analyze errorsAsFullRebuild archives report)
        fun result => IsIncremental result ↔ ∀ archive ∈ archives, holds archive := by
  induction archives with
  | nil =>
    intro _ report hreport
    exact Act.Ensures.pure ⟨fun _ => nofun, fun _ => ⟨report, rfl, hreport⟩⟩
  | cons archive archives ih =>
    intro hanalyze report hreport
    rw [addArchives]
    refine (hanalyze archive List.mem_cons_self).bind fun result hresult => ?_
    simp only [List.forall_mem_cons, ← hresult]
    rcases result with error | (_ | cause)
    · cases errorsAsFullRebuild with
      | false => exact Act.Ensures.pure (iff_of_false (not_isIncremental_error error) nofun)
      | true =>
        have hadd := verdict_add hreport archive (.fullRebuild (failureCause archive error))
          (.failed error.message)
        simp only [↓reduceIte, hadd, Verdict.isFullRebuild]
        refine Act.Ensures.skip fun _ => Act.Ensures.pure ?_
        rw [isIncremental_ok_iff, hadd]
        exact iff_of_false nofun nofun
    · -- The report has a line more, but is still open.
      have hadd := verdict_add hreport archive .incremental (.analyzed .incremental)
      simp only [hadd, Verdict.isFullRebuild, Bool.false_eq_true, ↓reduceIte, true_and]
      exact ih (fun other hmem => hanalyze other (List.mem_cons_of_mem archive hmem)) _ hadd
    · have hadd := verdict_add hreport archive (.fullRebuild cause) (.analyzed (.fullRebuild cause))
      simp only [↓reduceIte, hadd, Verdict.isFullRebuild]
      refine Act.Ensures.pure ?_
      rw [isIncremental_ok_iff, hadd]
      exact iff_of_false nofun nofun

theorem ClasspathDiff.analyzeArchive_ensures {diff : ClasspathDiff} {archive : Path}
    (hprevious : ∀ path ∈ diff.previous.paths, path ∈ paths) (hmem : archive ∈ paths) :
    Act.Ensures files paths (diff.analyzeArchive Command.workbench archive) fun result =>
      result = .ok .incremental ↔
        ArchiveUnit.IsUpToDate files diff.previous.paths archive := by
  unfold analyzeArchive
  refine (Act.Ensures.inquiry (ArchiveUnit.create_ensures _ _ archive)).bind ?_
  intro created hcreated
  rw [hcreated]
  cases hname : Baseline.fileName? archive with
  | none =>
    exact Act.Ensures.pure
      ⟨nofun, fun h => absurd h (ArchiveUnit.not_isUpToDate_of_fileName? hname)⟩
  | some name =>
    exact (ArchiveUnit.analyze_created_ensures _ _ hname hprevious hmem).bind fun answer hanswer =>
      Act.Ensures.pure hanswer

theorem ClasspathReport.addArchives_lists {ω : Type}
    {analyze : Path → Act ω (Except AnalysisError Verdict)} (errorsAsFullRebuild : Bool)
    (archives : List Path) : ∀ report : ClasspathReport,
      Act.Ensures files paths (addArchives analyze errorsAsFullRebuild archives report)
        fun result => ∀ final, result = .ok final → final.verdict = .incremental →
          final.archives.map ArchiveOutcome.archive =
            report.archives.map ArchiveOutcome.archive ++ archives := by
  induction archives with
  | nil =>
    intro report
    refine Act.Ensures.pure fun final h _ => ?_
    rw [List.append_nil, Except.ok.inj h]
  | cons archive archives ih =>
    intro report
    have hnext (verdict : Verdict) (result : ArchiveResult) :
        Act.Ensures files paths
          (if (report.add archive verdict result).verdict.isFullRebuild then
            return .ok (report.add archive verdict result)
          else addArchives analyze errorsAsFullRebuild archives (report.add archive verdict result))
          fun result => ∀ final, result = .ok final → final.verdict = .incremental →
            final.archives.map ArchiveOutcome.archive =
              report.archives.map ArchiveOutcome.archive ++ archive :: archives := by
      split
      · next hfull =>
        refine Act.Ensures.pure fun final h hverdict => ?_
        rw [Except.ok.inj h, hverdict] at hfull
        exact nomatch hfull
      · have hlists := ih (report.add archive verdict result)
        rwa [add, List.map_append, List.map_singleton, List.append_assoc,
          List.singleton_append] at hlists
    rw [addArchives]
    refine Act.Ensures.skip fun result => ?_
    cases result with
    | ok verdict => exact hnext verdict _
    | error error =>
      cases errorsAsFullRebuild with
      | false => exact Act.Ensures.pure nofun
      | true => exact Act.Ensures.skip fun _ => hnext _ _

theorem ClasspathReport.addArchives_tells {ω : Type}
    {analyze : Path → Act ω (Except AnalysisError Verdict)} (errorsAsFullRebuild : Bool)
    (hanalyze : ∀ archive, (analyze archive).Tells fun result panics =>
      panics = stopsBy AnalysisError.isPanic result) (archives : List Path) :
    ∀ report : ClasspathReport, report.verdict = .incremental →
      (addArchives analyze errorsAsFullRebuild archives report).Tells fun result panics =>
        IsIncremental result → panics = false := by
  induction archives with
  | nil => exact fun _ _ => Act.Tells.pure fun _ => rfl
  | cons archive archives ih =>
    intro report hreport
    rw [addArchives]
    refine (hanalyze archive).bind ?_
    rintro result panics rfl
    rcases result with error | (_ | cause)
    · cases errorsAsFullRebuild with
      | false => exact Act.Tells.pure fun h => absurd h (not_isIncremental_error error)
      | true =>
        have hadd := verdict_add hreport archive (.fullRebuild (failureCause archive error))
          (.failed error.message)
        simp only [↓reduceIte, hadd, Verdict.isFullRebuild]
        refine (Act.Tells.inquiry (Inquiry.Tells.emit analysisTarget_ne)).skip fun _ => ?_
        refine Act.Tells.pure fun h => ?_
        rw [isIncremental_ok_iff, hadd] at h
        exact nomatch h
    · have hadd := verdict_add hreport archive .incremental (.analyzed .incremental)
      simp only [hadd, Verdict.isFullRebuild, Bool.false_eq_true, ↓reduceIte]
      exact ih _ hadd
    · have hadd := verdict_add hreport archive (.fullRebuild cause) (.analyzed (.fullRebuild cause))
      simp only [↓reduceIte, hadd, Verdict.isFullRebuild]
      exact Act.Tells.pure fun _ => rfl

theorem ClasspathDiff.analyzeArchive_tells (diff : ClasspathDiff) (archive : Path) :
    (diff.analyzeArchive Command.workbench archive).Tells fun result panics =>
      panics = stopsBy AnalysisError.isPanic result := by
  unfold analyzeArchive
  refine (Act.Tells.inquiry (ArchiveUnit.create_tells _ _ archive)).bind ?_
  rintro created panics ⟨rfl, hcreated⟩
  cases created with
  | error error => exact Act.Tells.pure hcreated.symm
  | ok unit =>
    refine unit.analyze_tells.bind ?_
    rintro ⟨result, unit⟩ panics rfl
    exact Act.Tells.pure (Bool.or_false _)

/-! ## Reports -/

theorem Path.exists_json_eq_ok_iff {path : Path} :
    (∃ value, path.json = .ok value) ↔ path.IsText := by
  unfold IsText json
  rw [← isSome_text?_iff]
  cases text? path.places <;> simp

theorem exists_return_eq_ok_iff {ε α β : Type} {found : Except ε α} {make : α → β} :
    (∃ value, (do return make (← found)) = Except.ok (ε := ε) value) ↔
      ∃ value, found = .ok value := by
  cases found with
  | error error => exact iff_of_false nofun nofun
  | ok value => exact iff_of_true ⟨make value, rfl⟩ ⟨value, rfl⟩

theorem exists_mapM_eq_ok_iff {ε α β : Type} {f : α → Except ε β} {items : List α} :
    (∃ values, items.mapM f = .ok values) ↔ ∀ item ∈ items, ∃ value, f item = .ok value := by
  induction items with
  | nil => exact iff_of_true ⟨[], rfl⟩ nofun
  | cons item items ih =>
    rw [List.forall_mem_cons, ← ih, List.mapM_cons]
    cases f item with
    | error error => exact iff_of_false nofun nofun
    | ok value => cases items.mapM f <;> simp [bind, Except.bind, pure, Except.pure]

theorem ClasspathReport.exists_json_eq_ok_iff {report : ClasspathReport} :
    (∃ value, report.json = .ok value) ↔
      ∀ path ∈ report.archives.map ArchiveOutcome.archive, path.IsText := by
  unfold json
  rw [exists_return_eq_ok_iff, exists_mapM_eq_ok_iff, List.forall_mem_map]
  refine forall₂_congr fun line _ => ?_
  rw [exists_return_eq_ok_iff, Path.exists_json_eq_ok_iff]

theorem exists_archiveJson_eq_ok_iff {archive : Path} {snapshot : Option Path} {verdict : Verdict} :
    (∃ value, archiveJson archive snapshot verdict = .ok value) ↔
      ∀ path ∈ archive :: snapshot.toList, path.IsText := by
  rw [List.forall_mem_cons, ← Path.exists_json_eq_ok_iff]
  cases snapshot with
  | none =>
    rw [Option.toList_none, and_iff_left nofun]
    change (∃ value, (do return Json.object (("archive", ← archive.json) ::
      ("previous_archive", .null) :: verdict.fields)) = Except.ok value) ↔ _
    exact exists_return_eq_ok_iff
  | some path =>
    rw [Option.toList_some, List.forall_mem_singleton, ← Path.exists_json_eq_ok_iff, and_comm]
    change (∃ value, (do
      let previous ← path.json
      return Json.object (("archive", ← archive.json) :: ("previous_archive", previous) ::
        verdict.fields)) = Except.ok value) ↔ _
    cases path.json with
    | error error => exact iff_of_false nofun nofun
    | ok previous =>
      rw [and_iff_right ⟨previous, rfl⟩]
      exact exists_return_eq_ok_iff

/-! ## Commands -/

namespace CommandOutcome

def exitCode : CommandOutcome → Nat
  | .ok (exitCode, _) => exitCode
  | .error _ => 2

def output : CommandOutcome → String
  | .ok (_, output) => output
  | .error _ => ""

end CommandOutcome

theorem Verdict.exitCode_eq_zero_iff (verdict : Verdict) :
    verdict.exitCode = 0 ↔ verdict = .incremental := by
  cases verdict <;> simp [exitCode, isFullRebuild]

theorem Verdict.exists_reported_eq_ok {json : Bool} {value : Except String Json}
    (verdict : Verdict) (text : String) (hvalue : json = true → ∃ found, value = .ok found) :
    ∃ output, verdict.reported json value text = .ok (verdict.exitCode, output) := by
  unfold reported
  cases json with
  | false => exact ⟨text, rfl⟩
  | true =>
    obtain ⟨found, rfl⟩ := hvalue rfl
    exact ⟨_, rfl⟩

theorem Verdict.exitCode_reported_eq_zero_iff {json : Bool} {value : Except String Json}
    (verdict : Verdict) (text : String) :
    (verdict.reported json value text).exitCode = 0 ↔
      verdict = .incremental ∧ (json = true → ∃ found, value = .ok found) := by
  rw [← exitCode_eq_zero_iff]
  unfold reported
  cases json with
  | false => exact (and_iff_left nofun).symm
  | true =>
    cases value with
    | error error => exact iff_of_false nofun fun h => nomatch h.2 rfl
    | ok found => exact (and_iff_left fun _ => ⟨found, rfl⟩).symm

namespace Command

/-- The command reports for machines. -/
def json : Command → Bool
  | analyze _ _ json | classpath _ json | baselineName _ json => json

/-- The paths that a report for machines shows. -/
def reportedPaths (options : AnalysisOptions) : Command → List Path
  | analyze sides archive _ =>
    archive ::
      ((Baseline.fileName? archive).bind (ResourceSet.findByFileName? ⟨sides.previous⟩)).toList
  | classpath sides _ => sides.current.filter options.isArchive
  | baselineName archive _ => [archive]

/-- The report comes about: a report for machines takes paths that are text. -/
def CanReport (options : AnalysisOptions) (command : Command) : Prop :=
  command.json = true → ∀ path ∈ command.reportedPaths options, path.IsText

section Outcomes

variable {options : AnalysisOptions} {sides : ClasspathSides} {archive : Path} {json : Bool}

theorem canReport_analyze_iff {name : String} (hname : Baseline.fileName? archive = some name)
    (verdict : Verdict) : (analyze sides archive json).CanReport options ↔
      (json = true → ∃ value, archiveJson archive
        (ResourceSet.findByFileName? ⟨sides.previous⟩ name) verdict = .ok value) := by
  rw [exists_archiveJson_eq_ok_iff]
  unfold CanReport reportedPaths
  simp only [hname, Option.bind_some]
  rfl

theorem analyzeArchive_ensures (hprevious : ∀ path ∈ sides.previous, path ∈ paths)
    (hmem : archive ∈ paths) :
    Inquiry.Ensures files paths (analyzeArchive options sides archive json) fun outcome =>
      outcome.exitCode = 0 ↔ ArchiveUnit.IsUpToDate files sides.previous archive ∧
        (analyze sides archive json).CanReport options := by
  unfold analyzeArchive
  refine (ArchiveUnit.create_ensures _ _ archive).bind fun created hcreated => ?_
  rw [hcreated]
  cases hname : Baseline.fileName? archive with
  | none =>
    exact Inquiry.Ensures.pure
      (iff_of_false nofun fun h => ArchiveUnit.not_isUpToDate_of_fileName? hname h.1)
  | some name =>
    simp only
    refine (ArchiveUnit.analyze_created_ensures ⟨sides.previous⟩ ⟨sides.current⟩ hname hprevious
      hmem ()).bind ?_
    rintro ⟨⟨result, unit⟩, w⟩ hanswer
    simp only at hanswer
    rw [← hanswer]
    cases result with
    | ok verdict =>
      refine Inquiry.Ensures.pure ?_
      rw [verdict.exitCode_reported_eq_zero_iff, canReport_analyze_iff hname verdict,
        Except.ok.injEq]
    | error error =>
      cases options.errorsAsFullRebuild with
      | false => exact Inquiry.Ensures.pure (iff_of_false nofun nofun)
      | true =>
        refine Inquiry.Ensures.skip fun _ => Inquiry.Ensures.pure ?_
        rw [Verdict.exitCode_reported_eq_zero_iff]
        exact iff_of_false nofun nofun

theorem analyzeClasspath_ensures (hprevious : ∀ path ∈ sides.previous, path ∈ paths)
    (hcurrent : ∀ path ∈ sides.current, path ∈ paths) :
    Inquiry.Ensures files paths (analyzeClasspath options sides json) fun outcome =>
      outcome.exitCode = 0 ↔
        (∀ archive ∈ sides.current, options.isArchive archive = true →
          ArchiveUnit.IsUpToDate files sides.previous archive) ∧
        (classpath sides json).CanReport options := by
  unfold analyzeClasspath ClasspathDiff.run ClasspathDiff.archives
  refine ((ClasspathReport.addArchives_ensures options.errorsAsFullRebuild _
    (fun archive hmem => ClasspathDiff.analyzeArchive_ensures hprevious
      (hcurrent archive (List.mem_filter.1 hmem).1)) {} rfl).and
    (ClasspathReport.addArchives_lists _ _ {}) ()).bind ?_
  rintro ⟨result, w⟩ ⟨hanswer, hlists⟩
  simp only [List.mem_filter, and_imp] at hanswer
  rw [← hanswer]
  cases result with
  | error error =>
    refine Inquiry.Ensures.pure (iff_of_false nofun fun h => ?_)
    exact ClasspathReport.not_isIncremental_error error h.1
  | ok report =>
    refine Inquiry.Ensures.pure ?_
    rw [report.verdict.exitCode_reported_eq_zero_iff, ClasspathReport.isIncremental_ok_iff,
      ClasspathReport.exists_json_eq_ok_iff]
    refine and_congr_right fun hverdict => ?_
    -- A report that is still open lists all archives, so these are the paths that it shows.
    rw [hlists report rfl hverdict]
    rfl

theorem analyzeArchive_tells (options : AnalysisOptions) (sides : ClasspathSides) (archive : Path)
    (json : Bool) : (analyzeArchive options sides archive json).Tells fun outcome panics =>
      outcome.exitCode = 0 → panics = false := by
  unfold analyzeArchive
  refine (ArchiveUnit.create_tells _ _ archive).bind ?_
  rintro created panics ⟨rfl, -⟩
  cases created with
  | error error => exact Inquiry.Tells.pure nofun
  | ok unit =>
    refine (unit.analyze_tells ()).bind ?_
    rintro ⟨⟨result, unit⟩, w⟩ panics rfl
    cases result with
    | ok verdict => exact Inquiry.Tells.pure fun _ => rfl
    | error error =>
      cases options.errorsAsFullRebuild with
      | false => exact Inquiry.Tells.pure nofun
      | true =>
        refine (Inquiry.Tells.emit analysisTarget_ne).skip fun _ => ?_
        refine Inquiry.Tells.pure fun hzero => ?_
        exact nomatch ((Verdict.exitCode_reported_eq_zero_iff _ _).1 hzero).1

theorem analyzeClasspath_tells (options : AnalysisOptions) (sides : ClasspathSides) (json : Bool) :
    (analyzeClasspath options sides json).Tells fun outcome panics =>
      outcome.exitCode = 0 → panics = false := by
  unfold analyzeClasspath ClasspathDiff.run
  refine (ClasspathReport.addArchives_tells _ (ClasspathDiff.analyzeArchive_tells _) _ {} rfl
    ()).bind ?_
  rintro ⟨result, w⟩ panics hopen
  cases result with
  | error error => exact Inquiry.Tells.pure nofun
  | ok report =>
    refine Inquiry.Tells.pure fun hzero => ?_
    rw [Bool.or_false]
    exact hopen ⟨report, rfl, ((Verdict.exitCode_reported_eq_zero_iff _ _).1 hzero).1⟩

end Outcomes

end Command

/-! ## Runs -/

namespace RunResult

theorem ofAnswer_ends (setup : LogSetup) (timestamp : String) (disk : Disk)
    (answer : Answer CommandOutcome) :
    let result := ofAnswer setup timestamp disk answer
    result.exitCode = (if answer.panics then 101 else answer.value.exitCode) ∧
      result.output = if answer.panics then "" else answer.value.output := by
  obtain ⟨value, events⟩ := answer
  have hpanics := LogEvent.isSome_panic? events
  unfold ofAnswer Answer.panics
  rw [← hpanics]
  cases LogEvent.panic? events with
  | some message => exact ⟨rfl, rfl⟩
  | none => cases value <;> exact ⟨rfl, rfl⟩

end RunResult

namespace Invocation

theorem runWith_exitCode_eq_zero_iff {invocation : Invocation} {environment : Environment}
    {timestamp : String} {config : Config} {source : Option Path} {holds : Prop}
    (hlog : config.logging.IsApart files paths)
    (hcommand : Inquiry.Ensures files paths (invocation.command.run config.analysis) fun outcome =>
      outcome.exitCode = 0 ↔ holds)
    (hcalm : (invocation.command.run config.analysis).Tells fun outcome panics =>
      outcome.exitCode = 0 → panics = false) :
    (invocation.runWith environment timestamp files config source).exitCode = 0 ↔ holds := by
  have hsteady := hlog.isSteady environment.logDirectives timestamp
  have hopening := LogSetup.opening_ne config.logging environment.logDirectives files
  unfold runWith
  generalize LogSetup.create config.logging environment.logDirectives files = created
    at hsteady hopening ⊢
  obtain ⟨setup, opened, opening⟩ := created
  have hinquiry : Inquiry.Ensures files paths
      (do
        opening.forM Inquiry.emit
        source.forM fun path => Inquiry.emit (configEvent path)
        invocation.command.run config.analysis)
      fun outcome => outcome.exitCode = 0 ↔ holds :=
    Inquiry.Ensures.skip fun _ => Inquiry.Ensures.skip fun _ => hcommand
  have htells : Inquiry.Tells
      (do
        opening.forM Inquiry.emit
        source.forM fun path => Inquiry.emit (configEvent path)
        invocation.command.run config.analysis)
      fun outcome panics => outcome.exitCode = 0 → panics = false :=
    (Inquiry.Tells.emitAll hopening).skip fun _ => (configEvent_isCalm source).skip fun _ => hcalm
  refine Iff.trans ?_ (hinquiry _ hsteady)
  dsimp only
  rw [(RunResult.ofAnswer_ends ..).1]
  constructor
  · intro hzero
    split at hzero
    · exact nomatch hzero
    · exact hzero
  · intro hzero
    rw [htells _ hzero]
    exact hzero

section Commands

variable {named : Option Path} {environment : Environment} {timestamp : String} {config : Config}
  {source : Option Path} {sides : ClasspathSides}

theorem analyze_exitCode_eq_zero_iff {archive : Path} {json : Bool}
    (hlog : config.logging.IsApart files (Command.analyze sides archive json).paths) :
    (runWith ⟨named, .analyze sides archive json⟩ environment timestamp files config
        source).exitCode = 0 ↔
      ArchiveUnit.IsUpToDate files sides.previous archive ∧
        (Command.analyze sides archive json).CanReport config.analysis := by
  refine runWith_exitCode_eq_zero_iff hlog ?_ ?_
  · refine Command.analyzeArchive_ensures ?_ ?_
    · intro path hmem
      simp [Command.paths, hmem]
    · simp [Command.paths]
  · exact Command.analyzeArchive_tells config.analysis sides archive json

theorem classpath_exitCode_eq_zero_iff {json : Bool}
    (hlog : config.logging.IsApart files (Command.classpath sides json).paths) :
    (runWith ⟨named, .classpath sides json⟩ environment timestamp files config
        source).exitCode = 0 ↔
      (∀ archive ∈ sides.current, config.analysis.isArchive archive = true →
        ArchiveUnit.IsUpToDate files sides.previous archive) ∧
          (Command.classpath sides json).CanReport config.analysis := by
  refine runWith_exitCode_eq_zero_iff hlog ?_ ?_
  · refine Command.analyzeClasspath_ensures ?_ ?_
    · intro path hmem
      simp [Command.paths, hmem]
    · intro path hmem
      simp [Command.paths, hmem]
  · exact Command.analyzeClasspath_tells config.analysis sides json

end Commands

/-- A run with a configuration that loads and a log that is no input ends with zero exactly if the
archive is up to date, or all archives of the current side, and a report for machines has only text
to show. -/
theorem run_exitCode_eq_zero_iff_isUpToDate {invocation : Invocation} {environment : Environment}
    {timestamp : String} {config : Config} {source : Option Path}
    (hconfig : Config.load files invocation.config environment.configPath files.workingPath =
      .ok (config, source))
    (hlog : config.logging.IsApart files invocation.command.paths) :
    (∀ sides archive json, invocation.command = .analyze sides archive json →
      ((invocation.run environment timestamp files).exitCode = 0 ↔
        ArchiveUnit.IsUpToDate files sides.previous archive ∧
          invocation.command.CanReport config.analysis)) ∧
    (∀ sides json, invocation.command = .classpath sides json →
      ((invocation.run environment timestamp files).exitCode = 0 ↔
        (∀ archive ∈ sides.current, config.analysis.isArchive archive = true →
          ArchiveUnit.IsUpToDate files sides.previous archive) ∧
            invocation.command.CanReport config.analysis)) := by
  obtain ⟨named, command⟩ := invocation
  unfold run
  rw [hconfig]
  constructor
  · rintro sides archive json rfl
    exact analyze_exitCode_eq_zero_iff hlog
  · rintro sides json rfl
    exact classpath_exitCode_eq_zero_iff hlog

end Invocation

/-- An archive of one class, which is empty. -/
def oneClassArchive : ByteArray :=
  ⟨#[0x50, 0x4B, 3, 4, 20, 0, 0, 0, 0, 0, 0, 0, 0, 0, 0, 0, 0, 0, 0, 0, 0, 0, 0, 0, 0, 0, 7, 0, 0,
    0, 0x41, 0x2E, 0x63, 0x6C, 0x61, 0x73, 0x73,
    0x50, 0x4B, 1, 2, 20, 0, 20, 0, 0, 0, 0, 0, 0, 0, 0, 0, 0, 0, 0, 0, 0, 0, 0, 0, 0, 0, 0, 0, 7,
    0, 0, 0, 0, 0, 0, 0, 0, 0, 0, 0, 0, 0, 0, 0, 0, 0, 0x41, 0x2E, 0x63, 0x6C, 0x61, 0x73, 0x73,
    0x50, 0x4B, 5, 6, 0, 0, 0, 0, 1, 0, 1, 0, 53, 0, 0, 0, 37, 0, 0, 0, 0, 0]⟩

theorem kept_class_exits_with_zero :
    let files := ((FileSystem.empty []).writeFile (.ofString "/app.jar") oneClassArchive).writeFile
      (.ofString "/488532946-app.jar") oneClassArchive
    let invocation : Invocation :=
      ⟨none, .analyze ⟨[.ofString "/488532946-app.jar"], []⟩ (.ofString "/app.jar") true⟩
    (invocation.run {} "" files).exitCode = 0 ∧
      ArchiveUnit.IsUpToDate files [.ofString "/488532946-app.jar"] (.ofString "/app.jar") ∧
        invocation.command.CanReport {} := by
  intro files invocation
  have hconfig : Config.load files invocation.config none files.workingPath = .ok ({}, none) := rfl
  have hlog : ({} : LoggingConfig).IsApart files invocation.command.paths :=
    fun _ _ _ _ h => nomatch h
  have hexit : (invocation.run {} "" files).exitCode = 0 := by decide +kernel
  exact ⟨hexit, ((Invocation.run_exitCode_eq_zero_iff_isUpToDate hconfig hlog).1 _ _ _ rfl).1 hexit⟩

/-- An empty path cannot be passed, and a report for machines cannot show a path that is no text. -/
theorem up_to_date_exits_with_two :
    let archive := Path.ofString "/app.jar"
    let snapshot := Path.ofString "/488532946-app.jar"
    let hidden : Path :=
      ⟨Path.slash :: .broken [0xFF] :: Path.slash :: "488532946-app.jar".toList.map .char⟩
    let files := (((FileSystem.empty []).writeFile archive oneClassArchive).writeFile snapshot
      oneClassArchive).writeFile hidden oneClassArchive
    let arguments := ["analyze", "--previous", "", "--previous", "/488532946-app.jar",
      "--archive", "/app.jar"]
    (Arguments.parse arguments = .error .misuse ∧ ArgumentStop.misuse.exitCode = 2 ∧
      ArchiveUnit.IsUpToDate files [.ofString "", snapshot] archive) ∧
    (Invocation.run ⟨none, .analyze ⟨[hidden], []⟩ archive true⟩ {} "" files).exitCode = 2 ∧
      ArchiveUnit.IsUpToDate files [hidden] archive := by
  intro archive snapshot hidden files arguments
  -- Without a report for machines, runs with these lists end with zero.
  have hkept (previous : List Path)
      (hzero : (Invocation.runWith ⟨none, .analyze ⟨previous, []⟩ archive false⟩ {} "" files {}
        none).exitCode = 0) : ArchiveUnit.IsUpToDate files previous archive := by
    have hlog : ({} : LoggingConfig).IsApart files
        (Command.analyze ⟨previous, []⟩ archive false).paths := fun _ _ _ _ h => nomatch h
    exact ((Invocation.analyze_exitCode_eq_zero_iff hlog).1 hzero).1
  refine ⟨⟨by rfl, rfl, hkept _ (by decide +kernel)⟩, by decide +kernel,
    hkept _ (by decide +kernel)⟩

end Rebuild
