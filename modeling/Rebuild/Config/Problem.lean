import Rebuild.Text.Quoted
import Rebuild.Toml.Value

/-! # What is wrong with the contents of a configuration -/

namespace Rebuild

/-- What a field of a configuration wants. -/
inductive Wanted
  | string | boolean | sequence | path | loggingTable | analysisTable
deriving DecidableEq, Repr

def Wanted.name : Wanted → String
  | string => "a string"
  | boolean => "a boolean"
  | sequence => "a sequence"
  | path => "path string"
  | loggingTable => "struct LoggingConfig"
  | analysisTable => "struct AnalysisOptions"

/-- A value as an error shows it: scalars by themselves, the others by their kind. -/
def Toml.Value.shown : Toml.Value → String
  | string text => "string " ++ quoted text
  | integer value => "integer `" ++ toString value ++ "`"
  | float value => "floating point `" ++ value.print ++ "`"
  | boolean value => "boolean `" ++ toString value ++ "`"
  | dateTime => "map"
  | array _ => "sequence"
  | table _ => "map"

inductive ConfigProblem
  | unknownField (name : String) (known : List String)
  | wrongType (found : Toml.Value) (wanted : Wanted)
  /-- A sequence that stands for a table has more items than the table has fields. -/
  | surplusItems (count : Nat)
deriving Repr

namespace ConfigProblem

def ticked (name : String) : String := "`" ++ name ++ "`"

/-- Two alternatives are joined by a word, more are listed. -/
def alternatives : List String → String
  | [] => "there are no fields"
  | [a] => "expected " ++ ticked a
  | [a, b] => "expected " ++ ticked a ++ " or " ++ ticked b
  | names => "expected one of " ++ ", ".intercalate (names.map ticked)

def message : ConfigProblem → String
  | unknownField name known => "unknown field " ++ ticked name ++ ", " ++ alternatives known
  | wrongType found wanted => "invalid type: " ++ found.shown ++ ", expected " ++ wanted.name
  | surplusItems count => "invalid length " ++ toString count

end ConfigProblem

end Rebuild
