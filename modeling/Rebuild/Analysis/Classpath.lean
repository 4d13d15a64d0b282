import Rebuild.Analysis.ArchiveUnit
import Rebuild.Analysis.Options

/-!
# Analysis of a classpath

The archives of the current side are analyzed in order, up to the first one that forces a full
rebuild. Whether a failure counts as one is an option.
-/

namespace Rebuild

/-- What came of one archive. -/
inductive ArchiveResult
  | analyzed (verdict : Verdict)
  | failed (error : String)
deriving DecidableEq, Repr

structure ArchiveOutcome where
  archive : Path
  result : ArchiveResult
deriving DecidableEq, Repr

structure ClasspathReport where
  verdict : Verdict := .incremental
  /-- The archives that were analyzed, in order. -/
  archives : List ArchiveOutcome := []
deriving DecidableEq, Repr

namespace ClasspathReport

def add (report : ClasspathReport) (archive : Path) (verdict : Verdict) (result : ArchiveResult) :
    ClasspathReport :=
  ⟨report.verdict.andThen verdict, report.archives ++ [⟨archive, result⟩]⟩

end ClasspathReport

/-- The cause of a full rebuild that stands for a failure. -/
def failureCause (archive : Path) (error : AnalysisError) : String :=
  "analysis of " ++ archive.shown ++ " failed: " ++ error.message

def failureEvent (archive : Path) (error : AnalysisError) : LogEvent :=
  ⟨.warn, analysisTarget, "analysis failed; assuming a full rebuild",
    [("archive", .shown archive.shown), ("error", .shown error.message)]⟩

/-- Adds the archives to a report, until it says that a full rebuild is needed. -/
def ClasspathReport.addArchives (analyze : Path → Act ω (Except AnalysisError Verdict))
    (errorsAsFullRebuild : Bool) :
    List Path → ClasspathReport → Act ω (Except AnalysisError ClasspathReport)
  | [], report => return .ok report
  | archive :: archives, report => do
    match ← analyze archive with
    | .ok verdict =>
      let report := report.add archive verdict (.analyzed verdict)
      if report.verdict.isFullRebuild then return .ok report
      else addArchives analyze errorsAsFullRebuild archives report
    | .error error =>
      if errorsAsFullRebuild then
        Inquiry.emit (failureEvent archive error)
        let report := report.add archive (.fullRebuild (failureCause archive error))
          (.failed error.message)
        if report.verdict.isFullRebuild then return .ok report
        else addArchives analyze errorsAsFullRebuild archives report
      else return .error error

/-- The two sides of a classpath and how they are compared. -/
structure ClasspathDiff where
  previous : ResourceSet
  current : ResourceSet
  options : AnalysisOptions := {}

namespace ClasspathDiff

/-- The entries of the current side that are analyzed. -/
def archives (diff : ClasspathDiff) : List Path :=
  diff.current.paths.filter diff.options.isArchive

/-- Analyzes one archive from scratch. -/
def analyzeArchive (diff : ClasspathDiff) (bench : Workbench ω ρ) (archive : Path) :
    Act ω (Except AnalysisError Verdict) := do
  match ← (ArchiveUnit.create diff.previous diff.current archive : Inquiry _) with
  | .error error => return .error error
  | .ok unit =>
    let (result, _) ← unit.analyze bench
    return result

def run (diff : ClasspathDiff) (bench : Workbench ω ρ) :
    Act ω (Except AnalysisError ClasspathReport) :=
  ClasspathReport.addArchives (diff.analyzeArchive bench) diff.options.errorsAsFullRebuild
    diff.archives {}

end ClasspathDiff

end Rebuild
