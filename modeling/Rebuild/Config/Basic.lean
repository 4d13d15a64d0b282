import Rebuild.Analysis.Options
import Rebuild.Config.Problem
import Rebuild.FileSystem
import Rebuild.Toml.Document

/-!
# Configuration

Every field has a default, and a field that is not known is an error. The first problem of a
document, in the order in which its keys stand, is the one that is reported. A table may also be
written as a sequence of its fields.
-/

namespace Rebuild

structure LoggingConfig where
  /-- A level, or directives for single targets. -/
  level : String := "warn"
  json : Bool := false
  stderr : Bool := true
  /-- The file that log lines are appended to. -/
  file : Option Path := none
deriving DecidableEq, Repr

structure Config where
  logging : LoggingConfig := {}
  analysis : AnalysisOptions := {}
deriving DecidableEq, Repr

namespace Toml.Value

def asString (wanted : Wanted) : Value → Except ConfigProblem String
  | string text => .ok text
  | other => .error (.wrongType other wanted)

def asBoolean : Value → Except ConfigProblem Bool
  | boolean value => .ok value
  | other => .error (.wrongType other .boolean)

def asStrings : Value → Except ConfigProblem (List String)
  | array items => items.mapM (asString .string)
  | other => .error (.wrongType other .sequence)

/-- The one field that a date has where a table is wanted. No table knows it. -/
def dateField : String := "$__toml_private_datetime"

/-- The fields that a table gives, or a sequence in the order of the names. In a format that checks
the length of sequences, surplus items are an error; otherwise they are not looked at. -/
def asFields (names : List String) (wanted : Wanted) (checksLength : Bool) :
    Value → Except ConfigProblem (List (String × Value))
  | table entries => .ok entries
  | dateTime => .ok [(dateField, dateTime)]
  | array items =>
    if checksLength && items.length > names.length then .error (.surplusItems items.length)
    else .ok (names.zip items)
  | other => .error (.wrongType other wanted)

end Toml.Value

open Toml (Value)

namespace AnalysisOptions

def fieldNames : List String := ["errors_as_full_rebuild", "archive_extensions"]

def setField (options : AnalysisOptions) (field : String × Value) :
    Except ConfigProblem AnalysisOptions :=
  match field with
  | ("errors_as_full_rebuild", value) =>
    return { options with errorsAsFullRebuild := ← value.asBoolean }
  | ("archive_extensions", value) =>
    return { options with archiveExtensions := ← value.asStrings }
  | (name, _) => throw (.unknownField name fieldNames)

def ofFields (fields : List (String × Value)) : Except ConfigProblem AnalysisOptions :=
  fields.foldlM setField {}

def ofValue (checksLength : Bool) (value : Value) : Except ConfigProblem AnalysisOptions := do
  ofFields (← value.asFields fieldNames .analysisTable checksLength)

end AnalysisOptions

namespace LoggingConfig

def fieldNames : List String := ["level", "json", "stderr", "file"]

def setField (config : LoggingConfig) (field : String × Value) :
    Except ConfigProblem LoggingConfig :=
  match field with
  | ("level", value) => return { config with level := ← value.asString .string }
  | ("json", value) => return { config with json := ← value.asBoolean }
  | ("stderr", value) => return { config with stderr := ← value.asBoolean }
  | ("file", value) => return { config with file := some (.ofString (← value.asString .path)) }
  | (name, _) => throw (.unknownField name fieldNames)

def ofFields (fields : List (String × Value)) : Except ConfigProblem LoggingConfig :=
  fields.foldlM setField {}

def ofValue (value : Value) : Except ConfigProblem LoggingConfig := do
  ofFields (← value.asFields fieldNames .loggingTable false)

end LoggingConfig

/-- Why the file of a configuration has no text. -/
inductive TextFault
  | file (error : FileError)
  | notText
deriving DecidableEq, Repr

def TextFault.message : TextFault → String
  | file error => error.message
  | notText => "stream did not contain valid UTF-8"

inductive ConfigError
  | unreadable (path : Path) (fault : TextFault)
  | malformed
  | wrongContents (problem : ConfigProblem)
deriving Repr

namespace ConfigError

def message : ConfigError → String
  | unreadable path fault => "failed to read config file " ++ path.shown ++ ": " ++ fault.message
  | malformed => "failed to parse toml config: the text is no TOML document"
  | wrongContents problem => "failed to parse toml config: " ++ problem.message

/-- The faults behind the error, the nearest one first. -/
def causes : ConfigError → List String
  | unreadable _ fault => [fault.message]
  | malformed | wrongContents _ => []

end ConfigError

namespace Config

def fieldNames : List String := ["logging", "analysis"]

def setField (config : Config) (field : String × Value) : Except ConfigProblem Config :=
  match field with
  | ("logging", value) => return { config with logging := ← LoggingConfig.ofValue value }
  | ("analysis", value) => return { config with analysis := ← AnalysisOptions.ofValue false value }
  | (name, _) => throw (.unknownField name fieldNames)

/-- The configuration that the entries of a document give. -/
def ofFields (fields : List (String × Value)) : Except ConfigProblem Config :=
  fields.foldlM setField {}

def parse (text : String) : Except ConfigError Config :=
  match Toml.parse? text with
  | none => .error .malformed
  | some entries => (ofFields entries).mapError .wrongContents

end Config

end Rebuild
