import Rebuild.Proofs.ClasspathReports
import Rebuild.Proofs.CommandsAgree
import Rebuild.Proofs.IdleEntries
import Rebuild.Proofs.SnapshotNames
import Rebuild.Proofs.VerdictInputs

/-!
# Classes that are found again

An archive that is selected by its extension has a name, so its snapshot can be looked for. A class
of the snapshot that changed lies in an archive on each side, so a lookup under its own name comes
upon it at the latest there, unless something in front of it decides.
-/

namespace Rebuild

variable {ω ρ α β : Type}

namespace AnalysisError

def IsInvalidPath (error : AnalysisError) : Prop := ∃ path, error = .invalidArchivePath path

/-- A class is on no entry of a side. -/
def IsMissingClass (error : AnalysisError) : Prop :=
  ∃ name label, error = .classpath (.classNotFound name label)

end AnalysisError

/-- An archive has a name; and if no name of a class is misread, the class is found. -/
def AnalysisError.IsExpected (undotted : Prop) (error : AnalysisError) : Prop :=
  ¬ error.IsInvalidPath ∧ (undotted → ¬ error.IsMissingClass)

theorem AnalysisError.isExpected_allowsOthers (undotted : Prop) :
    AllowsOthers (IsExpected undotted) where
  archive _ := ⟨nofun, fun _ => nofun⟩
  comparator _ _ := ⟨nofun, fun _ => nofun⟩

/-! ## A class that an archive holds -/

namespace ClasspathEntry

variable {files : FileSystem} {label name : String} {paths : List Path} {path : Path} {held : Jar}

theorem jar_mem_kept (hmem : path ∈ paths) (hload : Jar.load files path = .ok held) :
    jar path ∈ kept files paths := by
  obtain ⟨before, after, rfl⟩ := List.append_of_mem hmem
  rw [kept_insert, kept_jar hload]
  simp

theorem not_isWithout_jar {entry : Zip.Entry} (hload : Jar.load files path = .ok held)
    (hentry : entry ∈ held.entries) : ¬ (jar path).IsWithout files entry.name := by
  have hfind : ((held.archive files).find? entry.name).isSome := by
    unfold Zip.Archive.find?
    rw [List.find?_isSome]
    exact ⟨entry, hentry, beq_self_eq_true _⟩
  obtain ⟨found, hfound⟩ := Option.isSome_iff_exists.1 hfind
  unfold IsWithout read
  simp only [hload, Jar.read_eq, Jar.held?, hfound, Option.map_some]
  cases (held.held files found).content <;> exact nofun

theorem findClass_ne_classNotFound {entry : Zip.Entry} (hmem : path ∈ paths)
    (hload : Jar.load files path = .ok held) (hentry : entry ∈ held.entries)
    (hname : EntryName.ofQualified name = entry.name) (missing context : String) :
    findClass files label name (kept files paths) ≠ .error (.classNotFound missing context) := by
  rw [Ne, findClass_eq_classNotFound_iff]
  rintro ⟨-, hwithout⟩
  have hjar := hwithout _ (jar_mem_kept hmem hload)
  rw [hname] at hjar
  exact not_isWithout_jar hload hentry hjar

end ClasspathEntry

namespace Jar

variable {files : FileSystem} {jar : Jar}

theorem exists_entry_of_member {name : String} {member : Member}
    (h : (jar.member files name).1 = .ok (some member)) :
    ∃ entry ∈ jar.entries, entry.name = name := by
  obtain ⟨entry, hfind, -⟩ := member_eq_ok_some_iff.1 h
  exact ⟨entry, List.mem_of_find?_eq_some hfind, name_of_find? hfind⟩

end Jar

/-! ## One archive -/

namespace ArchiveUnit

section Archive

variable {files : FileSystem} {unit : ArchiveUnit} {undotted : Prop}

theorem comparesWithin_isExpected {snapshot : Path} {before after : Jar}
    (hsnapshot : snapshot ∈ unit.previous.paths) (hbefore : Jar.load files snapshot = .ok before)
    (harchive : unit.archive ∈ unit.current.paths)
    (hafter : Jar.load files unit.archive = .ok after)
    (hundotted : undotted → ∀ entry ∈ before.entries, ¬ EntryName.IsDotted entry.name) :
    ComparesWithin files unit (AnalysisError.IsExpected undotted) before after := by
  intro index member counterpart name hmember hanswer hname hcause
  obtain ⟨entry, hentry, hentryName⟩ := Jar.exists_entry_of_memberAt hmember
  obtain ⟨other, hother, hotherName⟩ := Jar.exists_entry_of_member hanswer
  have hloadable := ((nameCause?_eq_none_iff member).1 hcause).2
  have hreads (h : undotted) : EntryName.ofQualified name = member.name := by
    have hreached := (EntryName.isReached_iff _).2
      ⟨hloadable, hentryName ▸ hundotted h entry hentry⟩
    exact hreached.ofQualified_eq hname
  constructor
  · intro error herror
    refine ⟨nofun, ?_⟩
    rintro h ⟨missing, context, heq⟩
    rw [Stateless.loadClass_eq, AnalysisError.classpath.inj heq] at herror
    exact ClasspathEntry.findClass_ne_classNotFound hsnapshot hbefore hentry
      ((hreads h).trans hentryName.symm) missing context herror
  · intro error herror
    refine ⟨nofun, ?_⟩
    rintro h ⟨missing, context, heq⟩
    rw [Stateless.loadClass_eq, AnalysisError.classpath.inj heq] at herror
    exact ClasspathEntry.findClass_ne_classNotFound harchive hafter hother
      ((hreads h).trans hotherName.symm) missing context herror

/-- The names of the classes in the archive hold no dots. -/
def HoldsNoDots (files : FileSystem) (path : Path) : Prop :=
  ∀ jar, Jar.load files path = .ok jar → ∀ entry ∈ jar.entries, ¬ EntryName.IsDotted entry.name

theorem analyze_isExpected (compare : Comparator ω) (hfresh : unit.verdict = none)
    (hsnapshot : ∀ snapshot ∈ unit.snapshot, snapshot ∈ unit.previous.paths)
    (harchive : unit.archive ∈ unit.current.paths) (w : ω) :
    Judgement.FailsOnlyWith
      (AnalysisError.IsExpected (∀ snapshot ∈ unit.snapshot, HoldsNoDots files snapshot))
      (Act.on (unit.analyze ⟨.jars ω, compare⟩) files w).1.1 := by
  refine analyze_failsOnlyWith compare (AnalysisError.isExpected_allowsOthers _) hfresh ?_ w
  intro snapshot hmem before after hbefore hafter
  exact comparesWithin_isExpected (hsnapshot snapshot hmem) hbefore harchive hafter
    fun hundotted => hundotted snapshot hmem before hbefore

end Archive

end ArchiveUnit

/-! ## The whole classpath -/

theorem Attempt.mem_series_still {files : FileSystem} {analyze : Path → Act ω Judgement}
    {archives : List Path} {w : ω} {attempt : Attempt ω}
    (h : attempt ∈ series analyze archives w (.still files)) :
    ∃ archive ∈ archives, ∃ between,
      attempt.judgement = (Act.on (analyze archive) files between).1 := by
  induction archives generalizing w with
  | nil => exact nomatch h
  | cons archive archives ih =>
    unfold series at h
    simp only [Disk.after_still] at h
    rcases List.mem_cons.1 h with rfl | h
    · exact ⟨archive, List.mem_cons_self, w, rfl⟩
    · obtain ⟨other, hother, between, hjudgement⟩ := ih h
      exact ⟨other, List.mem_cons_of_mem archive hother, between, hjudgement⟩

namespace ClasspathReport

/-- The line of a report tells of no failure, or of one of this kind. -/
def LineFailsOnlyWith (allowed : AnalysisError → Prop) (line : ArchiveOutcome) : Prop :=
  ∀ message, line.result = .failed message → ∃ error, allowed error ∧ message = error.message

/-- The failure that a run ends with, or those that its report tells of. -/
structure FailsOnlyWith (allowed : AnalysisError → Prop)
    (result : Except AnalysisError ClasspathReport) : Prop where
  error : ∀ error, result = .error error → allowed error
  line : ∀ report, result = .ok report → ∀ line ∈ report.archives, LineFailsOnlyWith allowed line

variable {allowed : AnalysisError → Prop} {lines : List ArchiveOutcome}

theorem FailsOnlyWith.report {verdict : Verdict}
    (h : ∀ line ∈ lines, LineFailsOnlyWith allowed line) :
    FailsOnlyWith allowed (.ok ⟨verdict, lines⟩) := by
  refine ⟨nofun, fun report hreport => ?_⟩
  obtain rfl := Except.ok.inj hreport
  exact h

theorem lineFailsOnlyWith_of_passes (attempts : List (Attempt ω)) :
    ∀ line ∈ attempts.map Attempt.line, LineFailsOnlyWith allowed line := by
  intro line hline message hmessage
  obtain ⟨attempt, -, rfl⟩ := List.mem_map.1 hline
  exact nomatch hmessage

theorem settle_failsOnlyWith {errorsAsFullRebuild : Bool} {attempt : Attempt ω}
    (hlines : ∀ line ∈ lines, LineFailsOnlyWith allowed line)
    (h : Judgement.FailsOnlyWith allowed attempt.judgement) :
    FailsOnlyWith allowed (settle errorsAsFullRebuild lines attempt) := by
  unfold settle
  cases hjudgement : attempt.judgement with
  | ok verdict =>
    refine FailsOnlyWith.report (List.forall_mem_append.2 ⟨hlines, ?_⟩)
    exact List.forall_mem_singleton.2 nofun
  | error error =>
    have hallowed := h error hjudgement
    cases errorsAsFullRebuild with
    | false => exact ⟨fun other heq => Except.error.inj heq ▸ hallowed, nofun⟩
    | true =>
      refine FailsOnlyWith.report (List.forall_mem_append.2 ⟨hlines, ?_⟩)
      refine List.forall_mem_singleton.2 fun message hmessage => ?_
      exact ⟨error, hallowed, (ArchiveResult.failed.inj hmessage).symm⟩

end ClasspathReport

namespace ClasspathDiff

variable {diff : ClasspathDiff} {files : FileSystem} {archive : Path}

def snapshot? (diff : ClasspathDiff) (archive : Path) : Option Path :=
  (Baseline.fileName? archive).bind diff.previous.findByFileName?

theorem analyzeArchive_failsOnlyWith (compare : Comparator ω) (hmem : archive ∈ diff.archives)
    (htext : archive.IsText) (w : ω) :
    Judgement.FailsOnlyWith (AnalysisError.IsExpected
        (∀ snapshot ∈ diff.snapshot? archive, ArchiveUnit.HoldsNoDots files snapshot))
      (Act.on (diff.analyzeArchive ⟨.jars ω, compare⟩ archive) files w).1 := by
  obtain ⟨hcurrent, hselected⟩ := List.mem_filter.1 hmem
  obtain ⟨name, hname⟩ := Baseline.exists_fileName?_eq_some htext hselected
  have hcreate : ((ArchiveUnit.create diff.previous diff.current archive).on files).value =
      .ok ⟨diff.previous, diff.current, archive, diff.snapshot? archive, none⟩ := by
    unfold snapshot?
    rw [hname]
    exact ArchiveUnit.create_value diff.previous diff.current hname (.still files)
  have hsnapshot : ∀ snapshot ∈ diff.snapshot? archive, snapshot ∈ diff.previous.paths := by
    intro snapshot hfound
    obtain ⟨_, -, hfound⟩ := Option.bind_eq_some_iff.1 hfound
    exact List.mem_of_find?_eq_some hfound
  unfold analyzeArchive
  simp only [Act.on_bind, Act.on_inquiry, hcreate]
  exact ArchiveUnit.analyze_isExpected compare rfl hsnapshot hcurrent w

/-- The names of classes in the snapshots that archives are compared with hold no dots. -/
def ComparesNoDots (diff : ClasspathDiff) (files : FileSystem) : Prop :=
  ∀ archive ∈ diff.archives, ∀ snapshot ∈ diff.snapshot? archive,
    ArchiveUnit.HoldsNoDots files snapshot

open Attempt in
/-- The archives, whether the run comes to them or not, and the run fail in this way only. -/
structure FailsOnlyWith (diff : ClasspathDiff) (bench : Workbench ω ρ) (files : FileSystem) (w : ω)
    (allowed : AnalysisError → Prop) : Prop where
  attempt : ∀ attempt ∈ series (diff.analyzeArchive bench) diff.archives w (.still files),
    Judgement.FailsOnlyWith allowed attempt.judgement
  run : ClasspathReport.FailsOnlyWith allowed (Act.on (diff.run bench) files w).1

theorem FailsOnlyWith.of_attempts {bench : Workbench ω ρ} {w : ω} {allowed : AnalysisError → Prop}
    (h : ∀ attempt ∈ Attempt.series (diff.analyzeArchive bench) diff.archives w (.still files),
      Judgement.FailsOnlyWith allowed attempt.judgement) :
    diff.FailsOnlyWith bench files w allowed := by
  refine ⟨h, ?_⟩
  rcases Attempt.all_pass_or_first_settles
    (Attempt.series (diff.analyzeArchive bench) diff.archives w (.still files)) with
    hall | ⟨before, last, after, htried, hbefore, hlast⟩
  · have hrun := ClasspathReport.addArchives_of_passes (diff.analyzeArchive bench)
      diff.options.errorsAsFullRebuild [] hall
    have hanswer : (Act.on (diff.run bench) files w).1 = _ := congrArg (·.value.1) hrun
    rw [hanswer]
    exact ClasspathReport.FailsOnlyWith.report (ClasspathReport.lineFailsOnlyWith_of_passes _)
  · have hrun := ClasspathReport.addArchives_of_settles (diff.analyzeArchive bench)
      diff.options.errorsAsFullRebuild [] htried hbefore hlast
    have hanswer : (Act.on (diff.run bench) files w).1 = _ := congrArg (·.value.1) hrun
    have hfails := h last (htried ▸ List.mem_append_right before List.mem_cons_self)
    rw [hanswer]
    exact ClasspathReport.settle_failsOnlyWith
      (ClasspathReport.lineFailsOnlyWith_of_passes before) hfails

/-- On unchanging files no archive of text fails for its path. And if the names of classes in the
snapshots hold no dots, no class is missing on either side: what changed is there to be found,
though something in front of it may fail. -/
theorem fails_with_no_missing_class (diff : ClasspathDiff) (compare : Comparator ω)
    (files : FileSystem) (w : ω) (htext : ∀ path ∈ diff.current.paths, path.IsText) :
    diff.FailsOnlyWith ⟨.jars ω, compare⟩ files w (fun error => ¬ error.IsInvalidPath) ∧
    (diff.ComparesNoDots files →
      diff.FailsOnlyWith ⟨.jars ω, compare⟩ files w fun error => ¬ error.IsMissingClass) := by
  have hexpected : ∀ attempt ∈
      Attempt.series (diff.analyzeArchive ⟨.jars ω, compare⟩) diff.archives w (.still files),
      Judgement.FailsOnlyWith (AnalysisError.IsExpected (diff.ComparesNoDots files))
        attempt.judgement := by
    intro attempt hattempt error herror
    obtain ⟨archive, hmem, between, hjudgement⟩ := Attempt.mem_series_still hattempt
    have hpath := htext archive (List.mem_filter.1 hmem).1
    obtain ⟨hvalid, hfound⟩ := analyzeArchive_failsOnlyWith compare hmem hpath between error
      (hjudgement.symm.trans herror)
    exact ⟨hvalid, fun hundotted => hfound (hundotted archive hmem)⟩
  constructor
  · exact .of_attempts fun attempt hattempt error herror =>
      (hexpected attempt hattempt error herror).1
  · intro hundotted
    exact .of_attempts fun attempt hattempt error herror =>
      (hexpected attempt hattempt error herror).2 hundotted

theorem damaged_class_is_no_missing_class :
    let diff : ClasspathDiff := ⟨⟨[Grown.snapshot]⟩, ⟨[.ofString "/classes", Grown.archive]⟩, {}⟩
    let message := "malformed class A in /488532946-app.jar: unexpected end of input"
    diff.ComparesNoDots Grown.disk ∧
      (Act.on (diff.run ⟨.jars Unit, .conservative⟩) Grown.disk ()).1 =
        .ok ⟨.fullRebuild ("analysis of /app.jar failed: " ++ message),
          [⟨Grown.archive, .failed message⟩]⟩ ∧
      (∃ error : AnalysisError, ¬ error.IsInvalidPath ∧ message = error.message) ∧
      ∃ error : AnalysisError, ¬ error.IsMissingClass ∧ message = error.message := by
  intro diff message
  have htext : ∀ path ∈ diff.current.paths, path.IsText := by
    exact List.forall_mem_cons.2 ⟨Path.isText_ofString _, List.forall_mem_singleton.2
      (Path.isText_ofString _)⟩
  have hload : Jar.load Grown.disk Grown.snapshot =
      .ok ⟨Grown.snapshot, 2, [listedClass 0xD202EF8D 1 0]⟩ := by
    decide +kernel
  have hnodots : diff.ComparesNoDots Grown.disk := by
    have harchives : diff.archives = [Grown.archive] := by decide +kernel
    have hsnapshot : diff.snapshot? Grown.archive = some Grown.snapshot := by decide +kernel
    intro archive hmem snapshot hfound jar hjar
    rw [harchives, List.mem_singleton] at hmem
    rw [hmem, hsnapshot, Option.mem_some_iff] at hfound
    rw [← hfound, hload] at hjar
    rw [← Except.ok.inj hjar]
    exact List.forall_mem_singleton.2 (by decide)
  have hrun : (Act.on (diff.run ⟨.jars Unit, .conservative⟩) Grown.disk ()).1 =
      .ok ⟨.fullRebuild ("analysis of /app.jar failed: " ++ message),
        [⟨Grown.archive, .failed message⟩]⟩ :=
    toOption_eq_some_iff.1 (by decide +kernel)
  obtain ⟨hvalid, hfound⟩ :=
    diff.fails_with_no_missing_class .conservative Grown.disk () htext
  refine ⟨hnodots, hrun, ?_, ?_⟩
  · exact hvalid.run.line _ hrun _ List.mem_cons_self message rfl
  · exact (hfound hnodots).run.line _ hrun _ List.mem_cons_self message rfl

end ClasspathDiff

end Rebuild
