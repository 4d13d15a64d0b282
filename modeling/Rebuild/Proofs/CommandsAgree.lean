import Rebuild.Proofs.ExitCode
import Rebuild.Proofs.Failures
import Rebuild.Proofs.QuietAnalysis

/-!
# Two commands, one verdict

A run for one archive and a run for a classpath that has no other archive come to one judgement of
that archive, whatever they log meanwhile. What each of them makes of it is written twice; here it
is seen to be the same. A judgement that stands for a panic ends both runs without a report.
-/

namespace Rebuild

variable {ω α β : Type}

/-! ## Answers that are settled with their panics -/

/-- On all disks that show the files there is one answer, with a panic on the way to it on all of
them or on none, and that is as wanted. -/
def Inquiry.Settles (files : FileSystem) (paths : List Path) (x : Inquiry α)
    (wanted : α → Bool → Prop) : Prop :=
  ∃ value panics, wanted value panics ∧
    ∀ disk : Disk, disk.Shows files paths → (x disk).value = value ∧ (x disk).panics = panics

namespace Inquiry.Settles

variable {files : FileSystem} {paths : List Path} {wanted : α → Bool → Prop}

theorem of_determines {x : Inquiry α} {stops : α → Bool}
    (htells : x.Tells fun value panics => panics = stops value)
    (hx : Determines files paths x fun value => wanted value (stops value)) :
    Settles files paths x wanted := by
  obtain ⟨value, hvalue, hx⟩ := hx
  refine ⟨value, stops value, hvalue, fun disk hdisk => ⟨hx disk hdisk, ?_⟩⟩
  rw [htells disk, hx disk hdisk]

theorem pure {value : α} (h : wanted value false) :
    Settles files paths (Pure.pure value : Inquiry α) wanted :=
  ⟨value, false, h, fun _ _ => ⟨rfl, rfl⟩⟩

theorem bind {x : Inquiry α} {f : α → Inquiry β} {between : α → Bool → Prop}
    {wanted : β → Bool → Prop} (hx : Settles files paths x between)
    (hf : ∀ value panics, between value panics →
      Settles files paths (f value) fun result later => wanted result (panics || later)) :
    Settles files paths (x >>= f) wanted := by
  obtain ⟨first, before, hfirst, hx⟩ := hx
  obtain ⟨second, behind, hsecond, hf⟩ := hf first before hfirst
  refine ⟨second, before || behind, hsecond, fun disk hdisk => ?_⟩
  obtain ⟨hvalue, hpanics⟩ := hx disk hdisk
  have hrest := hf (disk.after (x disk).events) (hdisk.after _)
  rw [value_bind, panics_bind, hvalue, hpanics, hrest.1, hrest.2]
  exact ⟨rfl, rfl⟩

theorem of_isCalm {x : Inquiry α} (hcalm : x.IsCalm)
    (hx : Determines files paths x fun value => wanted value false) :
    Settles files paths x wanted := by
  obtain ⟨value, hvalue, hx⟩ := hx
  exact ⟨value, false, hvalue, fun disk hdisk => ⟨hx disk hdisk, hcalm disk⟩⟩

theorem said {x : Inquiry Unit} (hx : x.IsCalm) :
    Settles files paths x fun _ panics => panics = false :=
  of_isCalm hx ⟨(), rfl, fun _ _ => rfl⟩

end Inquiry.Settles

/-- An action is settled with its panics, in whatever world it starts. -/
def Act.Settles (files : FileSystem) (paths : List Path) (x : Act ω α)
    (wanted : α → Bool → Prop) : Prop :=
  ∀ w : ω, Inquiry.Settles files paths (x.run w) fun answer panics => wanted answer.1 panics

namespace Act.Settles

variable {files : FileSystem} {paths : List Path} {wanted : α → Bool → Prop}

theorem of_determines {x : Act ω α} {stops : α → Bool}
    (htells : x.Tells fun value panics => panics = stops value)
    (hx : Determines files paths x fun value => wanted value (stops value)) :
    Settles files paths x wanted :=
  fun w => Inquiry.Settles.of_determines (htells w) (hx w)

theorem pure {value : α} (h : wanted value false) :
    Settles files paths (Pure.pure value : Act ω α) wanted :=
  fun _ => Inquiry.Settles.pure h

theorem bind {x : Act ω α} {f : α → Act ω β} {between : α → Bool → Prop}
    {wanted : β → Bool → Prop} (hx : Settles files paths x between)
    (hf : ∀ value panics, between value panics →
      Settles files paths (f value) fun result later => wanted result (panics || later)) :
    Settles files paths (x >>= f) wanted :=
  fun w => (hx w).bind fun answer panics h => hf answer.1 panics h answer.2

theorem inquiry {x : Inquiry α} (hx : Inquiry.Settles files paths x wanted) :
    Settles files paths (x : Act ω α) wanted := by
  intro w
  refine hx.bind (f := fun value => Pure.pure (value, w)) fun value panics h => ?_
  exact Inquiry.Settles.pure ((Bool.or_false panics).symm ▸ h)

end Act.Settles

theorem ArchiveUnit.create_settles {files : FileSystem} {paths : List Path}
    (previous current : ResourceSet) {archive : Path} {name : String}
    (hname : Baseline.fileName? archive = some name) :
    Inquiry.Settles files paths (create previous current archive) fun result panics =>
      panics = false ∧
        result = .ok ⟨previous, current, archive, previous.findByFileName? name, none⟩ := by
  have hcalm : (create previous current archive).IsCalm :=
    fun disk => (create_tells previous current archive disk).1
  have hcreated : Inquiry.Determines files paths (create previous current archive) _ :=
    create_determines previous current hname
  obtain ⟨value, rfl, hsame⟩ := hcreated
  exact Inquiry.Settles.of_isCalm hcalm ⟨_, ⟨rfl, rfl⟩, hsame⟩

/-! ## Sizes that no buffer has, on the way to a panic -/

/-- A jar on one of the sides states a size for some name that no buffer has. -/
def ClasspathSides.Overstate (files : FileSystem) (sides : ClasspathSides) : Prop :=
  ∃ path ∈ sides.previous ++ sides.current, ∃ name,
    (ClasspathEntry.jar path).Overstates files name

theorem ClasspathSides.Overstate.of_agreesOn {files seen : FileSystem} {paths : List Path}
    {sides : ClasspathSides} (hcovered : sides.IsCovered files paths)
    (h : FileSystem.AgreesOn paths files seen) (hseen : sides.Overstate seen) :
    sides.Overstate files := by
  obtain ⟨path, hmem, name, fresh, hload, hfresh⟩ := hseen
  have hpath : path ∈ paths :=
    (List.mem_append.1 hmem).elim (hcovered.previous path) (hcovered.current path)
  rw [Jar.load_eq_ok_iff_of_agreesOn h hpath] at hload
  refine ⟨path, hmem, name, fresh, hload, ?_⟩
  unfold Jar.Overstates at hfresh ⊢
  rwa [Jar.archive_eq_of_agreesOn h hpath hload] at hfresh

namespace ArchiveUnit

variable {files : FileSystem} {unit : ArchiveUnit}

theorem overstate_of_loadClass {label name : String} {paths : List Path} {error : ClasspathError}
    (hmem : ∀ path ∈ paths, path ∈ unit.sides.previous ++ unit.sides.current)
    (herror : Stateless.loadClass files label ⟨paths⟩ name = .error error)
    (hpanic : error.isPanic = true) : unit.sides.Overstate files := by
  rw [Stateless.loadClass_eq] at herror
  obtain ⟨before, deciding, after, hentries, -, hdeciding⟩ :=
    ClasspathEntry.stopsBy_findClass_iff.1 ((congrArg (stopsBy _) herror).trans hpanic)
  have hkept : deciding ∈ ClasspathEntry.kept files paths :=
    hentries ▸ List.mem_append_right before List.mem_cons_self
  have hpath := hmem _ (ClasspathEntry.path_mem_of_mem_kept hkept)
  cases deciding with
  | classDirectory path => exact absurd hdeciding id
  | jar path => exact ⟨path, hpath, EntryName.ofQualified name, hdeciding⟩

theorem overstate_of_isPanic {compare : Comparator ω} {error : AnalysisError} {w : ω}
    (hfresh : unit.verdict = none)
    (herror : (Act.on (unit.analyze ⟨.jars ω, compare⟩) files w).1.1 = .error error)
    (hpanic : error.isPanic = true) : unit.sides.Overstate files := by
  have hothers : AnalysisError.AllowsOthers fun error =>
      error.isPanic = true → unit.sides.Overstate files := ⟨nofun, nofun⟩
  refine analyze_failsOnlyWith compare hothers hfresh ?_ w error herror hpanic
  intro snapshot _ before after _ _ index member counterpart name _ _ _ _
  constructor
  · exact fun _ => overstate_of_loadClass fun _ => List.mem_append_left _
  · exact fun _ => overstate_of_loadClass fun _ => List.mem_append_right _

end ArchiveUnit

/-! ## What the commands make of it -/

/-- The verdict that a command goes by: a failure may count as a full rebuild. -/
def AnalysisOptions.standing (options : AnalysisOptions) (archive : Path) :
    Except AnalysisError Verdict → Except AnalysisError Verdict
  | .ok verdict => .ok verdict
  | .error error =>
    if options.errorsAsFullRebuild then .ok (.fullRebuild (failureCause archive error))
    else .error error

theorem AnalysisOptions.exists_standing_eq_ok {options : AnalysisOptions}
    (h : options.errorsAsFullRebuild = true) (archive : Path)
    (judgement : Except AnalysisError Verdict) :
    ∃ verdict, options.standing archive judgement = .ok verdict := by
  unfold standing
  cases judgement with
  | ok verdict => exact ⟨verdict, rfl⟩
  | error error => exact ⟨_, if_pos h⟩

theorem Verdict.exitCode_lt_two (verdict : Verdict) : verdict.exitCode < 2 := by
  unfold exitCode
  split <;> decide

/-- The analysis comes to the judgement, with a panic if it stands for one. -/
def IsJudged (judgement result : Except AnalysisError Verdict) (panics : Bool) : Prop :=
  result = judgement ∧ panics = stopsBy AnalysisError.isPanic judgement

def ArchiveResult.ofJudgement : Except AnalysisError Verdict → ArchiveResult
  | .ok verdict => .analyzed verdict
  | .error error => .failed error.message

theorem ClasspathReport.addArchives_singleton_settles {files : FileSystem} {paths : List Path}
    {analyze : Path → Act ω (Except AnalysisError Verdict)} {archive : Path}
    {judgement : Except AnalysisError Verdict} (options : AnalysisOptions)
    (h : Act.Settles files paths (analyze archive) (IsJudged judgement)) :
    Act.Settles files paths
      (addArchives analyze options.errorsAsFullRebuild [archive] {}) fun result panics =>
        panics = stopsBy AnalysisError.isPanic judgement ∧
          result = (options.standing archive judgement).map fun verdict =>
            ⟨verdict, [⟨archive, .ofJudgement judgement⟩]⟩ := by
  rw [addArchives]
  refine h.bind ?_
  rintro result panics ⟨rfl, rfl⟩
  unfold AnalysisOptions.standing
  rcases result with error | (_ | cause)
  · cases options.errorsAsFullRebuild with
    | false => exact Act.Settles.pure ⟨Bool.or_false _, rfl⟩
    | true =>
      refine (Act.Settles.inquiry
        (Inquiry.Settles.said (Inquiry.Tells.emit analysisTarget_ne))).bind ?_
      rintro _ later rfl
      exact Act.Settles.pure ⟨Bool.or_false _, rfl⟩
  · exact Act.Settles.pure ⟨rfl, rfl⟩
  · exact Act.Settles.pure ⟨rfl, rfl⟩

namespace Command

section Outcomes

variable {files : FileSystem} {paths : List Path} {options : AnalysisOptions}
  {sides : ClasspathSides} {archive : Path} {name : String}
  {judgement : Except AnalysisError Verdict}

/-- The unit that both commands make for an archive. -/
def unitOf (sides : ClasspathSides) (archive : Path) (name : String) : ArchiveUnit :=
  ⟨⟨sides.previous⟩, ⟨sides.current⟩, archive, ResourceSet.findByFileName? ⟨sides.previous⟩ name,
    none⟩

theorem exists_judgement (hcovered : sides.IsCovered files paths) (hmem : archive ∈ sides.current)
    (name : String) : ∃ judgement,
      Act.Settles files paths ((unitOf sides archive name).analyze workbench)
        (fun answer => IsJudged judgement answer.1) ∧
      (stopsBy AnalysisError.isPanic judgement = true → sides.Overstate files) := by
  have hsnapshot : ∀ snapshot ∈ (unitOf sides archive name).snapshot, snapshot ∈ sides.previous :=
    fun _ hfound => List.mem_of_find?_eq_some hfound
  obtain ⟨answer, -, hanswer⟩ := ArchiveUnit.analyze_determines hcovered hmem hsnapshot ()
  refine ⟨answer.1.1, Act.Settles.of_determines (ArchiveUnit.analyze_tells _) fun _ => ?_, ?_⟩
  · exact ⟨answer, ⟨rfl, rfl⟩, hanswer⟩
  · have hstill := hanswer (.still files) (Disk.Shows.still files paths)
    intro hstops
    cases herror : answer.1.1 with
    | ok verdict =>
      rw [herror] at hstops
      exact nomatch hstops
    | error error =>
      rw [herror] at hstops
      rw [← hstill] at herror
      exact ArchiveUnit.overstate_of_isPanic rfl herror hstops

/-- How a run for one archive ends on the judgement. -/
def archiveOutcome (options : AnalysisOptions) (sides : ClasspathSides) (archive : Path)
    (name : String) (json : Bool) (judgement : Except AnalysisError Verdict) : CommandOutcome :=
  match options.standing archive judgement with
  | .ok verdict => verdict.reported json
      (archiveJson archive (unitOf sides archive name).snapshot verdict)
      (verdict.describe ++ "\n")
  | .error error =>
    .error (("failed to analyze " ++ archive.shown) :: error.message :: error.causes)

/-- How a run for a classpath without other archives ends on the judgement. -/
def classpathOutcome (options : AnalysisOptions) (archive : Path) (json : Bool)
    (judgement : Except AnalysisError Verdict) : CommandOutcome :=
  match options.standing archive judgement with
  | .ok verdict =>
    let report : ClasspathReport := ⟨verdict, [⟨archive, .ofJudgement judgement⟩]⟩
    verdict.reported json report.json report.text
  | .error error => .error (error.message :: error.causes)

theorem outcomes_agree {json : Bool} (hname : Baseline.fileName? archive = some name)
    (htext : archive.IsText) (hreport : (analyze sides archive json).CanReport options)
    (jsonAll : Bool) (judgement : Except AnalysisError Verdict) :
    let one := archiveOutcome options sides archive name json judgement
    let all := classpathOutcome options archive jsonAll judgement
    one.exitCode = all.exitCode ∧ one.exitCode ≠ 101 ∧
    (one.exitCode ≠ 2 → ∃ verdict snapshot result,
      let report : ClasspathReport := ⟨verdict, [⟨archive, result⟩]⟩
      verdict.reported json (archiveJson archive snapshot verdict) (verdict.describe ++ "\n") =
        .ok (one.exitCode, one.output) ∧
      verdict.reported jsonAll report.json report.text = .ok (all.exitCode, all.output)) ∧
    (options.errorsAsFullRebuild = true → one.exitCode ≠ 2) := by
  unfold archiveOutcome classpathOutcome
  cases hstanding : options.standing archive judgement with
  | error error =>
    refine ⟨rfl, nofun, fun h => absurd rfl h, fun hfold => ?_⟩
    obtain ⟨verdict, hverdict⟩ := AnalysisOptions.exists_standing_eq_ok hfold archive judgement
    exact nomatch hstanding.symm.trans hverdict
  | ok verdict =>
    let report : ClasspathReport := ⟨verdict, [⟨archive, .ofJudgement judgement⟩]⟩
    have hvalue : ∃ value, report.json = .ok value :=
      ClasspathReport.exists_json_eq_ok_iff.2 (List.forall_mem_singleton.2 htext)
    obtain ⟨output, hone⟩ := verdict.exists_reported_eq_ok (verdict.describe ++ "\n")
      ((canReport_analyze_iff hname verdict).1 hreport)
    obtain ⟨outputAll, hall⟩ :=
      verdict.exists_reported_eq_ok report.text fun _ : jsonAll = true => hvalue
    have hcode := verdict.exitCode_lt_two
    simp only [unitOf, hone, report, hall, CommandOutcome.exitCode]
    refine ⟨trivial, ?_, fun _ => ⟨verdict, _, _, hone, hall⟩, fun _ => ?_⟩ <;> omega

variable (hname : Baseline.fileName? archive = some name)
  (hjudge : Act.Settles files paths ((unitOf sides archive name).analyze workbench)
    fun answer => IsJudged judgement answer.1)

include hname hjudge

theorem analyzeArchive_settles (json : Bool) :
    Inquiry.Settles files paths (analyzeArchive options sides archive json) fun outcome panics =>
      panics = stopsBy AnalysisError.isPanic judgement ∧
        outcome = archiveOutcome options sides archive name json judgement := by
  unfold analyzeArchive
  refine (ArchiveUnit.create_settles _ _ hname).bind ?_
  rintro created panics ⟨rfl, rfl⟩
  refine (hjudge ()).bind ?_
  rintro ⟨⟨result, unit⟩, w⟩ panics ⟨rfl, rfl⟩
  unfold archiveOutcome AnalysisOptions.standing
  cases result with
  | ok verdict => exact Inquiry.Settles.pure ⟨rfl, rfl⟩
  | error error =>
    cases options.errorsAsFullRebuild with
    | false => exact Inquiry.Settles.pure ⟨Bool.or_false _, rfl⟩
    | true =>
      refine (Inquiry.Settles.said (Inquiry.Tells.emit analysisTarget_ne)).bind ?_
      rintro _ later rfl
      exact Inquiry.Settles.pure ⟨Bool.or_false _, rfl⟩

theorem analyzeClasspath_settles
    (hsole : sides.current.filter options.isArchive = [archive]) (json : Bool) :
    Inquiry.Settles files paths (analyzeClasspath options sides json) fun outcome panics =>
      panics = stopsBy AnalysisError.isPanic judgement ∧
        outcome = classpathOutcome options archive json judgement := by
  have hanalyze : Act.Settles files paths
      (ClasspathDiff.analyzeArchive ⟨⟨sides.previous⟩, ⟨sides.current⟩, options⟩ workbench archive)
      (IsJudged judgement) := by
    unfold ClasspathDiff.analyzeArchive
    refine (Act.Settles.inquiry (ArchiveUnit.create_settles _ _ hname)).bind ?_
    rintro created panics ⟨rfl, rfl⟩
    refine hjudge.bind ?_
    rintro ⟨result, unit⟩ panics ⟨rfl, rfl⟩
    exact Act.Settles.pure ⟨rfl, Bool.or_false _⟩
  unfold analyzeClasspath ClasspathDiff.run ClasspathDiff.archives
  simp only [hsole]
  refine (ClasspathReport.addArchives_singleton_settles options hanalyze ()).bind ?_
  rintro ⟨result, w⟩ panics ⟨rfl, hresult⟩
  simp only at hresult
  subst hresult
  unfold classpathOutcome
  cases options.standing archive judgement <;>
    exact Inquiry.Settles.pure ⟨Bool.or_false _, rfl⟩

end Outcomes

end Command

/-! ## One archive among other entries -/

/-- The archive stands once in the list, and no other entry is analyzed. -/
structure AnalysisOptions.SelectsOnly (options : AnalysisOptions) (current : List Path)
    (archive : Path) : Prop where
  isArchive : options.isArchive archive = true
  once : current.count archive = 1
  other : ∀ path ∈ current, options.isArchive path = true → path = archive

theorem AnalysisOptions.SelectsOnly.filter_eq {options : AnalysisOptions} {current : List Path}
    {archive : Path} (h : options.SelectsOnly current archive) :
    current.filter options.isArchive = [archive] := by
  have hsame : ∀ path ∈ current, options.isArchive path = (path == archive) := by
    intro path hmem
    by_cases heq : path = archive
    · rw [heq, h.isArchive, beq_self_eq_true]
    · rw [beq_false_of_ne heq]
      exact Bool.eq_false_iff.2 fun hpath => heq (h.other path hmem hpath)
  rw [List.filter_congr hsame, List.filter_beq, h.once]
  rfl

theorem Path.isSome_fileName?_of_isArchive {options : AnalysisOptions} {path : Path}
    (h : options.isArchive path = true) : path.fileName?.isSome = true := by
  unfold AnalysisOptions.isArchive Path.extension? at h
  cases hname : path.fileName? with
  | none =>
    rw [hname] at h
    exact nomatch h
  | some name => rfl

theorem Baseline.exists_fileName?_eq_some {options : AnalysisOptions} {archive : Path}
    (htext : archive.IsText) (harchive : options.isArchive archive = true) :
    ∃ name, Baseline.fileName? archive = some name := by
  obtain ⟨name, hname⟩ := Option.isSome_iff_exists.1 (Path.isSome_fileName?_of_isArchive harchive)
  have hplaces : ∀ place ∈ name, place.char?.isSome = true :=
    fun place hplace => htext place (mem_of_mem_cut (Path.mem_segments_of_fileName? hname) hplace)
  obtain ⟨text, htext⟩ := Option.isSome_iff_exists.1 (Path.isSome_text?_iff.2 hplaces)
  unfold fileName?
  simp only [hname, htext, Option.bind_eq_bind, Option.bind_some]
  exact ⟨_, rfl⟩

/-! ## Runs -/

def Command.inputs (files : FileSystem) (command : Command) : List Path :=
  command.paths ++ command.classPaths files

theorem Command.inputs_isCovered (files : FileSystem) (sides : ClasspathSides) (json : Bool) :
    sides.IsCovered files ((classpath sides json).inputs files) := by
  refine ⟨?_, ?_, ?_⟩
  · intro path hmem
    simp [inputs, paths, hmem]
  · intro path hmem
    simp [inputs, paths, hmem]
  · intro directory hmem hdirectory entry hentry
    refine List.mem_append_right _ (List.mem_flatMap.2 ⟨directory, ?_, ?_⟩)
    · exact List.mem_filter.2 ⟨hmem, hdirectory⟩
    · exact List.mem_map_of_mem hentry

section Runs

variable {files : FileSystem} {paths : List Path} {sides : ClasspathSides}

theorem LoggingConfig.IsApart.shows {logging : LoggingConfig} (h : logging.IsApart files paths)
    (environment : Option String) (timestamp : String) :
    let created := LogSetup.create logging environment files
    FileSystem.AgreesOn paths files created.2.1 ∧
      (created.1.disk timestamp created.2.1).Shows created.2.1 paths := by
  have hsteady := h.isSteady environment timestamp
  generalize LogSetup.create logging environment files = created at hsteady ⊢
  obtain ⟨setup, opened, opening⟩ := created
  exact ⟨hsteady.agrees, ⟨FileSystem.AgreesOn.refl paths opened, hsteady.apart⟩, fun _ => rfl⟩

namespace Invocation

/-- A run ends as its command does on the files as they are when the log is open, unless there is a
panic. -/
theorem runWith_of_settles (invocation : Invocation) {environment : Environment}
    {config : Config} {outcome : CommandOutcome} {panics : Bool} (timestamp : String)
    (source : Option Path) (hlog : config.logging.IsApart files paths)
    (hcommand : Inquiry.Settles
      (LogSetup.create config.logging environment.logDirectives files).2.1 paths
      (invocation.command.run config.analysis) fun result stopped =>
        stopped = panics ∧ result = outcome) :
    let result := invocation.runWith environment timestamp files config source
    result.exitCode = (if panics then 101 else outcome.exitCode) ∧
      result.output = if panics then "" else outcome.output := by
  have hshows := (hlog.shows environment.logDirectives timestamp).2
  have hopening := LogSetup.opening_ne config.logging environment.logDirectives files
  unfold runWith
  generalize LogSetup.create config.logging environment.logDirectives files = created
    at hshows hopening hcommand ⊢
  obtain ⟨setup, opened, opening⟩ := created
  have hinquiry : Inquiry.Settles opened paths
      (do
        opening.forM Inquiry.emit
        source.forM fun path => Inquiry.emit (configEvent path)
        invocation.command.run config.analysis)
      fun result stopped => stopped = panics ∧ result = outcome := by
    refine (Inquiry.Settles.said (Inquiry.Tells.emitAll hopening)).bind ?_
    rintro _ _ rfl
    refine (Inquiry.Settles.said (configEvent_isCalm source)).bind ?_
    rintro _ _ rfl
    exact hcommand
  obtain ⟨value, stopped, ⟨rfl, rfl⟩, hsame⟩ := hinquiry
  obtain ⟨hvalue, hpanics⟩ := hsame _ hshows
  rw [← hvalue, ← hpanics]
  exact RunResult.ofAnswer_ends ..

/-- On the same files both runs end with one exit code, and unless that is 2 or 101 they report one
verdict with its cause. It is 2 only if no config is loaded or it does not take a failure for a full
rebuild, and with 101 there is no report. -/
theorem analyze_agrees_with_classpath {named : Option Path} (environment : Environment)
    {archive : Path} (json jsonAll : Bool) (now later : String) (htext : archive.IsText)
    (hsole : ∀ config source,
      Config.load files named environment.configPath files.workingPath = .ok (config, source) →
        config.analysis.SelectsOnly sides.current archive ∧
          config.logging.IsApart files ((Command.classpath sides jsonAll).inputs files) ∧
          (Command.analyze sides archive json).CanReport config.analysis) :
    let one := run ⟨named, .analyze sides archive json⟩ environment now files
    let all := run ⟨named, .classpath sides jsonAll⟩ environment later files
    one.exitCode = all.exitCode ∧
    (one.exitCode ≠ 2 → one.exitCode ≠ 101 → ∃ verdict snapshot result,
      let report : ClasspathReport := ⟨verdict, [⟨archive, result⟩]⟩
      verdict.reported json (archiveJson archive snapshot verdict) (verdict.describe ++ "\n") =
        .ok (one.exitCode, one.output) ∧
      verdict.reported jsonAll report.json report.text = .ok (all.exitCode, all.output)) ∧
    (one.exitCode = 101 → one.output = "" ∧ all.output = "" ∧ sides.Overstate files) ∧
    (∀ config source,
      Config.load files named environment.configPath files.workingPath = .ok (config, source) →
        config.analysis.errorsAsFullRebuild = true → one.exitCode ≠ 2) := by
  unfold run
  cases hload : Config.load files named environment.configPath files.workingPath with
  | error error => exact ⟨rfl, fun h => absurd rfl h, nofun, nofun⟩
  | ok loaded =>
    obtain ⟨config, source⟩ := loaded
    obtain ⟨hselects, hlog, hreport⟩ := hsole config source hload
    obtain ⟨name, hname⟩ := Baseline.exists_fileName?_eq_some htext hselects.isArchive
    have hmem : archive ∈ sides.current := List.count_pos_iff.1 (by rw [hselects.once]; decide)
    have hcovered := Command.inputs_isCovered files sides jsonAll
    have hagrees := (hlog.shows environment.logDirectives now).1
    -- Both runs go on with the files as they are when the log is open, so they judge alike.
    obtain ⟨judgement, hjudge, hstops⟩ :=
      Command.exists_judgement (hcovered.of_agreesOn hagrees) hmem name
    obtain ⟨honeCode, honeOutput⟩ :=
      runWith_of_settles ⟨named, .analyze sides archive json⟩ now source hlog
        (Command.analyzeArchive_settles hname hjudge json)
    obtain ⟨hallCode, hallOutput⟩ :=
      runWith_of_settles ⟨named, .classpath sides jsonAll⟩ later source hlog
        (Command.analyzeClasspath_settles hname hjudge hselects.filter_eq jsonAll)
    simp only [honeCode, honeOutput, hallCode, hallOutput]
    cases hpanics : stopsBy AnalysisError.isPanic judgement with
    | true =>
      have hoverstate := (hstops hpanics).of_agreesOn hcovered hagrees
      exact ⟨rfl, fun _ h => absurd rfl h, fun _ => ⟨rfl, rfl, hoverstate⟩, fun _ _ _ _ => nofun⟩
    | false =>
      obtain ⟨hsame, hcalm, hreports, hfold⟩ :=
        Command.outcomes_agree hname htext hreport jsonAll judgement
      refine ⟨hsame, fun h _ => hreports h, fun h => absurd h hcalm, fun other place hother => ?_⟩
      obtain ⟨rfl, rfl⟩ := Prod.mk.inj (Except.ok.inj hother)
      exact hfold

end Invocation

end Runs

theorem missing_archive_fails_alike :
    let snapshot := Path.ofString "/488532946-app.jar"
    let archive := Path.ofString "/app.jar"
    let files := (FileSystem.empty []).writeFile snapshot oneClassArchive
    let sides : ClasspathSides := ⟨[snapshot], [.ofString "/classes", archive]⟩
    let one := Invocation.run ⟨none, .analyze sides archive true⟩ {} "now" files
    let all := Invocation.run ⟨none, .classpath sides false⟩ {} "later" files
    one.exitCode = 1 ∧ all.exitCode = 1 ∧ ∃ verdict found result,
      let report : ClasspathReport := ⟨verdict, [⟨archive, result⟩]⟩
      verdict.reported true (archiveJson archive found verdict) (verdict.describe ++ "\n") =
        .ok (1, one.output) ∧
      verdict.reported false report.json report.text = .ok (1, all.output) := by
  intro snapshot archive files sides one all
  have hload : Config.load files none none files.workingPath = .ok ({}, none) := rfl
  have hreport : (Command.analyze sides archive true).CanReport {} := by
    intro _
    have hpaths : (Command.analyze sides archive true).reportedPaths {} = [archive, snapshot] := by
      decide +kernel
    simp only [hpaths, List.forall_mem_cons, archive, snapshot, Path.isText_ofString,
      List.not_mem_nil, false_implies, implies_true, and_self]
  have hsole : ∀ config source,
      Config.load files none none files.workingPath = .ok (config, source) →
        config.analysis.SelectsOnly sides.current archive ∧
          config.logging.IsApart files ((Command.classpath sides false).inputs files) ∧
          (Command.analyze sides archive true).CanReport config.analysis := by
    intro config source h
    rw [hload] at h
    obtain ⟨rfl, rfl⟩ := Prod.mk.inj (Except.ok.inj h)
    have hlog : ({} : LoggingConfig).IsApart files ((Command.classpath sides false).inputs files) :=
      fun _ _ _ _ h => nomatch h
    exact ⟨⟨by decide +kernel, by decide +kernel, by decide +kernel⟩, hlog, hreport⟩
  obtain ⟨hcode, hreports, -, hfold⟩ := Invocation.analyze_agrees_with_classpath {} true false
    "now" "later" (Path.isText_ofString "/app.jar") hsole
  have hone : one.exitCode = 1 := by decide +kernel
  have hall : all.exitCode = 1 := hcode.symm.trans hone
  obtain ⟨verdict, found, result, houtput, houtputAll⟩ :=
    hreports (hfold {} none hload rfl) (hone ▸ by decide)
  exact ⟨hone, hall, verdict, found, result, hone ▸ houtput, hall ▸ houtputAll⟩

/-- The snapshot states a size for its class that no buffer has, and the class changed. Neither run
comes to a report. -/
theorem stated_size_leaves_no_report :
    let snapshot := Path.ofString "/488532946-app.jar"
    let archive := Path.ofString "/app.jar"
    let files := ((FileSystem.empty []).writeFile snapshot
      (statedClassArchive (List.replicate 8 0xFF))).writeFile archive oneClassArchive
    let sides : ClasspathSides := ⟨[snapshot], [archive]⟩
    let one := Invocation.run ⟨none, .analyze sides archive false⟩ {} "now" files
    let all := Invocation.run ⟨none, .classpath sides false⟩ {} "later" files
    (one.exitCode, one.output) = (101, "") ∧ (all.exitCode, all.output) = (101, "") := by
  decide +kernel

end Rebuild
