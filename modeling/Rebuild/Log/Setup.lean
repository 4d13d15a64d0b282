import Rebuild.Config.Basic
import Rebuild.Inquiry
import Rebuild.Log.Filter
import Rebuild.Log.Line

/-!
# Where events go

Events that pass the filter go to the error output, to a file, to both or nowhere. A file that
cannot be opened is left out, and the log says so.
-/

namespace Rebuild

structure LogSetup where
  filter : LogFilter
  json : Bool
  stderr : Bool
  /-- Where the log file lies. -/
  file : Option Place

namespace LogSetup

def logTarget : String := "jarguard.config"

def unopenedEvent (path : Path) : LogEvent :=
  ⟨.warn, logTarget, "failed to open log file; file logging disabled",
    [("path", .shown path.shown)]⟩

/-- Opens the log, with what there is to say about that. A log file comes to be even if nothing is
ever logged. -/
def create (config : LoggingConfig) (environment : Option String) (files : FileSystem) :
    LogSetup × FileSystem × List LogEvent :=
  let filter := LogFilter.merge config.level environment
  let setup : LogSetup := { filter, json := config.json, stderr := config.stderr, file := none }
  match config.file with
  | none => (setup, files, [])
  | some path =>
    match files.openForAppend path with
    | .ok (files, place) => ({ setup with file := some place }, files, [])
    | .error _ => (setup, files, [unopenedEvent path])

/-- What is logged of an event: a line, or nothing. -/
def text (setup : LogSetup) (timestamp : String) (event : LogEvent) : String :=
  if !event.isPanic && setup.filter.enables event then event.line setup.json timestamp else ""

/-- The disk with the log file on it. -/
def disk (setup : LogSetup) (timestamp : String) (files : FileSystem) : Disk where
  files
  log := setup.file.map fun place => ⟨place, fun event => (setup.text timestamp event).toUTF8⟩

end LogSetup

end Rebuild
