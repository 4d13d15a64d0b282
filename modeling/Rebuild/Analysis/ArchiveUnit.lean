import Rebuild.Analysis.Baseline
import Rebuild.Analysis.Comparator
import Rebuild.Analysis.Error
import Rebuild.Archive.Access

/-!
# Analysis of one archive

An archive is compared with its snapshot, member by member in the order of the snapshot, up to the
first member that does not pass. Members with equal checksums pass unseen. Each archive that is
opened is closed again before the answer is there, whatever the answer is.
-/

namespace Rebuild

def analysisTarget : String := "jarguard.analysis"

/-- What an analysis works with: archives and a judge for classes. -/
structure Workbench (ω ρ : Type) where
  access : ArchiveAccess ω ρ
  compare : Comparator ω

/-- The contexts of the two sides. -/
structure Contexts where
  previous : ClassContext
  current : ClassContext

/-- A step of a comparison, which loads classes into the contexts of both sides. -/
abbrev Walk (ω : Type) := StateT Contexts (Act ω)

namespace Walk

def say (event : LogEvent) : Walk ω Unit := Inquiry.emit event

def loadPrevious (name : String) : Walk ω (Except ClasspathError LoadedClass) := do
  let contexts ← get
  let (result, previous) ← (contexts.previous.load name : Inquiry _)
  set { contexts with previous }
  return result

def loadCurrent (name : String) : Walk ω (Except ClasspathError LoadedClass) := do
  let contexts ← get
  let (result, current) ← (contexts.current.load name : Inquiry _)
  set { contexts with current }
  return result

end Walk

/-- Opens an archive for as long as its use takes. -/
def ArchiveAccess.withReader (access : ArchiveAccess ω ρ) (path : Path)
    (use : ρ → Walk ω (Except AnalysisError Verdict)) : Walk ω (Except AnalysisError Verdict) := do
  match ← (access.acquire path : Act ω _) with
  | .error error => return .error (.archive error)
  | .ok reader =>
    let result ← use reader
    (access.release reader : Act ω _)
    return result

/-- One archive of the current side, and the snapshot that the previous side has of it. A verdict
that was reached once is remembered. -/
structure ArchiveUnit where
  previous : ResourceSet
  current : ResourceSet
  archive : Path
  snapshot : Option Path
  verdict : Option Verdict := none

namespace ArchiveUnit

/-- Looks for the snapshot by its name. -/
def create (previous current : ResourceSet) (archive : Path) :
    Inquiry (Except AnalysisError ArchiveUnit) := do
  match Baseline.fileName? archive with
  | none => return .error (.invalidArchivePath archive)
  | some expected =>
    let snapshot := previous.findByFileName? expected
    Inquiry.emit ⟨.debug, analysisTarget, "resolved previous archive",
      [("archive", .shown archive.shown), ("expected", .shown expected),
        ("found", .boolean snapshot.isSome)]⟩
    return .ok { previous, current, archive, snapshot }

/-- The cause of a member that the current archive does not have. -/
def removalCause (member : Member) (qualified : String) : String :=
  if EntryName.isVersioned member.name then "multi-release member removed: " ++ member.name
  else "member removed: " ++ qualified

/-- The cause that a changed member gives by its name alone: which definition of a class for several
releases counts is not known, and a class that is not found under its name cannot be compared. -/
def nameCause? (member : Member) : Option String :=
  if EntryName.isVersioned member.name then some ("multi-release member changed: " ++ member.name)
  else if EntryName.isLoadable member.name then none
  else some ("member not loadable by class name: " ++ member.name)

/-- Loads both definitions of a class and has them compared. -/
def judgeClass (bench : Workbench ω ρ) (qualified : String) :
    Walk ω (Except AnalysisError Verdict) := do
  match ← Walk.loadPrevious qualified with
  | .error error => return .error (.classpath error)
  | .ok previous =>
    match ← Walk.loadCurrent qualified with
    | .error error => return .error (.classpath error)
    | .ok current =>
      match ← (bench.compare ⟨qualified, previous, current⟩ : Act ω _) with
      | .error message => return .error (.comparator qualified message)
      | .ok verdict => return .ok verdict

/-- Judges one member of the snapshot. Members that are no classes are not looked at. -/
def judge (unit : ArchiveUnit) (bench : Workbench ω ρ) (current : ρ) (member : Member) :
    Walk ω (Except AnalysisError Verdict) := do
  match member.qualified? with
  | none => return .ok .incremental
  | some qualified =>
    match ← (bench.access.member current member.name : Act ω _) with
    | .error error => return .error (.archive error)
    | .ok none => return .ok (.fullRebuild (removalCause member qualified))
    | .ok (some counterpart) =>
      if counterpart.checksum = member.checksum then return .ok .incremental
      else
        Walk.say ⟨.debug, analysisTarget, "member changed",
          [("archive", .shown unit.archive.shown), ("member", .shown member.name)]⟩
        match nameCause? member with
        | some cause => return .ok (.fullRebuild cause)
        | none => judgeClass bench qualified

/-- An item settles the analysis unless it is a member that passes. -/
def settle (unit : ArchiveUnit) (bench : Workbench ω ρ) (current : ρ)
    (item : ArchiveAccess.Item) : Walk ω (Option (Except AnalysisError Verdict)) := do
  match item with
  | .error error => return some (.error (.archive error))
  | .ok member =>
    match ← unit.judge bench current member with
    | .ok .incremental => return none
    | result => return some result

def loadedEvent (context : ClassContext) : LogEvent :=
  ⟨.trace, analysisTarget, "classes loaded",
    [("context", .quotedText context.label), ("loaded", .number context.loadedCount)]⟩

/-- Walks the snapshot up to the first item that settles the analysis. -/
def compareReaders (unit : ArchiveUnit) (bench : Workbench ω ρ) (previous current : ρ) :
    Walk ω (Except AnalysisError Verdict) := do
  Walk.say ⟨.debug, analysisTarget, "comparing archives",
    [("previous", .shown (bench.access.path previous).shown),
      ("current", .shown (bench.access.path current).shown)]⟩
  let settled ← bench.access.visit previous (unit.settle bench current)
    (bench.access.indices previous)
  let contexts ← get
  Walk.say (loadedEvent contexts.previous)
  Walk.say (loadedEvent contexts.current)
  return settled.getD (.ok .incremental)

/-- Compares the archive with a snapshot that is there. -/
def compareWith (unit : ArchiveUnit) (bench : Workbench ω ρ) (snapshot : Path) :
    Act ω (Except AnalysisError Verdict) := do
  let previous ← (ClassContext.create "previous" unit.previous : Inquiry _)
  let current ← (ClassContext.create "current" unit.current : Inquiry _)
  let body : Walk ω (Except AnalysisError Verdict) :=
    bench.access.withReader snapshot fun snapshotReader =>
      bench.access.withReader unit.archive fun archiveReader =>
        unit.compareReaders bench snapshotReader archiveReader
  let (result, contexts) ← body.run ⟨previous, current⟩
  (contexts.previous.release : Inquiry _)
  (contexts.current.release : Inquiry _)
  return result

/-- The verdict for the archive as things are now. -/
def run (unit : ArchiveUnit) (bench : Workbench ω ρ) : Act ω (Except AnalysisError Verdict) := do
  let files ← (Inquiry.files : Inquiry _)
  match unit.snapshot.filter files.doesExist with
  | none =>
    Inquiry.emit ⟨.info, analysisTarget, "no previous archive to compare against",
      [("archive", .shown unit.archive.shown)]⟩
    return .ok (.fullRebuild ("no previous compiled archive found for " ++ unit.archive.shown))
  | some snapshot => unit.compareWith bench snapshot

/-- The verdict, which is reached once and remembered; an error is not. -/
def analyze (unit : ArchiveUnit) (bench : Workbench ω ρ) :
    Act ω (Except AnalysisError Verdict × ArchiveUnit) := do
  match unit.verdict with
  | some verdict => return (.ok verdict, unit)
  | none =>
    match ← unit.run bench with
    | .error error => return (.error error, unit)
    | .ok verdict =>
      match verdict.cause? with
      | some cause =>
        Inquiry.emit ⟨.info, analysisTarget, "full rebuild required",
          [("archive", .shown unit.archive.shown), ("cause", .quotedText cause)]⟩
      | none => pure ()
      return (.ok verdict, { unit with verdict := some verdict })

def isFullRebuildNeeded (unit : ArchiveUnit) : Bool :=
  match unit.verdict with
  | some verdict => verdict.isFullRebuild
  | none => false

def fullRebuildCause? (unit : ArchiveUnit) : Option String := unit.verdict.bind Verdict.cause?

end ArchiveUnit

end Rebuild
