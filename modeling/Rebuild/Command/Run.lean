import Rebuild.Command.Arguments
import Rebuild.Command.Report
import Rebuild.Config.Discovery
import Rebuild.Log.Setup

/-!
# Running a command

A run reads the configuration, opens the log and does what the command asks. It ends with exit code
0 or 1 by the verdict, with 2 and a message, or with 101 if it gives up. All of it is a function of
the arguments, the environment, the time and the file system.
-/

namespace Rebuild

/-- The environment variables that a run looks at. -/
structure Environment where
  configPath : Option String := none
  logDirectives : Option String := none

/-- What a run ends with. -/
structure RunResult where
  exitCode : Nat
  output : String := ""
  /-- What is logged and how. -/
  logged : String := ""
  setup : Option LogSetup := none
  /-- What went wrong in the end. -/
  failure : Option String := none
  /-- The file system with the log in its file. -/
  files : FileSystem

/-- The log, if it goes there, and what went wrong. -/
def RunResult.errorOutput (result : RunResult) : String :=
  (match result.setup with
    | some setup => if setup.stderr then result.logged else ""
    | none => "") ++
  match result.failure with
  | some message => message ++ "\n"
  | none => ""

/-- What a command that succeeds prints, and its exit code; a command that fails gives its message
and the faults behind it. -/
abbrev CommandOutcome := Except (List String) (Nat × String)

def chain (causes : List String) : String := ": ".intercalate causes

/-- What a command ends with that reports a verdict. A report for machines stands on several lines,
and may not come about. -/
def Verdict.reported (verdict : Verdict) (json : Bool) (value : Except String Json)
    (text : String) : CommandOutcome :=
  if json then
    match value with
    | .ok value => .ok (verdict.exitCode, value.pretty ++ "\n")
    | .error message => .error [message]
  else .ok (verdict.exitCode, text)

namespace Command

def workbench : Workbench Unit Jar := { access := .jars Unit, compare := .conservative }

/-- The verdict on one archive. A failure is a full rebuild if the options say so. -/
def analyzeArchive (options : AnalysisOptions) (sides : ClasspathSides) (archive : Path)
    (json : Bool) : Inquiry CommandOutcome := do
  match ← ArchiveUnit.create ⟨sides.previous⟩ ⟨sides.current⟩ archive with
  | .error error => return .error (error.message :: error.causes)
  | .ok unit =>
    let ((result, _), _) ← (unit.analyze workbench).run ()
    let report (verdict : Verdict) : CommandOutcome :=
      verdict.reported json (archiveJson archive unit.snapshot verdict) (verdict.describe ++ "\n")
    match result with
    | .ok verdict => return report verdict
    | .error error =>
      if options.errorsAsFullRebuild then
        Inquiry.emit (failureEvent archive error)
        return report (.fullRebuild (failureCause archive error))
      else
        return .error (("failed to analyze " ++ archive.shown) :: error.message :: error.causes)

/-- The verdict on all archives of the current side. -/
def analyzeClasspath (options : AnalysisOptions) (sides : ClasspathSides) (json : Bool) :
    Inquiry CommandOutcome := do
  let diff : ClasspathDiff := ⟨⟨sides.previous⟩, ⟨sides.current⟩, options⟩
  let (result, _) ← (diff.run workbench).run ()
  match result with
  | .ok report => return report.verdict.reported json report.json report.text
  | .error error => return .error (error.message :: error.causes)

/-- The panic over a value that there should be. -/
def unwrapPanic (message : String) : LogEvent :=
  .panic ("called `Result::unwrap()` on an `Err` value: Error(\"" ++ message ++
    "\", line: 0, column: 0)")

/-- The name of the snapshot. Here the report for machines is taken to come about always. -/
def nameBaseline (archive : Path) (json : Bool) : Inquiry CommandOutcome := do
  match Baseline.fileName? archive with
  | none => return .error ["invalid archive path " ++ archive.shown]
  | some name =>
    if json then
      match baselineJson archive name with
      | .ok value => return .ok (0, value.pretty ++ "\n")
      | .error message =>
        Inquiry.emit (unwrapPanic message)
        return .error [message]
    else return .ok (0, name ++ "\n")

def run (options : AnalysisOptions) : Command → Inquiry CommandOutcome
  | analyze sides archive json => analyzeArchive options sides archive json
  | classpath sides json => analyzeClasspath options sides json
  | baselineName archive json => nameBaseline archive json

end Command

/-- What is said until a run gives up, and behind that the closing of jars: a run that gives up
closes what is open and does nothing else. -/
def happened (events : List LogEvent) : List LogEvent :=
  let (before, behind) := events.span fun event => !event.isPanic
  before ++ behind.filter Jar.isClosing

/-- How a run ends, by what its command comes to. A panic goes before any outcome. -/
def RunResult.ofAnswer (setup : LogSetup) (timestamp : String) (disk : Disk)
    (answer : Answer CommandOutcome) : RunResult :=
  let events := happened answer.events
  let result : RunResult := {
    exitCode := 2
    logged := String.join (events.map (setup.text timestamp))
    setup := some setup
    files := (disk.after events).files }
  match LogEvent.panic? answer.events, answer.value with
  | some message, _ => { result with exitCode := 101, failure := some message }
  | none, .ok (exitCode, output) => { result with exitCode, output }
  | none, .error causes => { result with failure := some (chain causes) }

namespace Invocation

def configEvent (path : Path) : LogEvent :=
  ⟨.debug, LogSetup.logTarget, "using config file", [("path", .shown path.shown)]⟩

/-- A run with a configuration that is loaded. Its log says first how it came to be opened and where
the configuration is from. -/
def runWith (invocation : Invocation) (environment : Environment) (timestamp : String)
    (files : FileSystem) (config : Config) (source : Option Path) : RunResult :=
  let (setup, files, opening) := LogSetup.create config.logging environment.logDirectives files
  let disk := setup.disk timestamp files
  let inquiry : Inquiry CommandOutcome := do
    opening.forM Inquiry.emit
    source.forM fun path => Inquiry.emit (configEvent path)
    invocation.command.run config.analysis
  .ofAnswer setup timestamp disk (inquiry disk)

/-- A run at some time. -/
def run (invocation : Invocation) (environment : Environment) (timestamp : String)
    (files : FileSystem) : RunResult :=
  match Config.load files invocation.config environment.configPath files.workingPath with
  | .error error =>
    { exitCode := 2, failure := some (chain (error.message :: error.causes)), files }
  | .ok (config, source) => invocation.runWith environment timestamp files config source

end Invocation

end Rebuild
