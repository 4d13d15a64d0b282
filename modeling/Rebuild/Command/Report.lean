import Rebuild.Analysis.Classpath
import Rebuild.Json

/-! # Reports of commands, for terminals and for machines -/

namespace Rebuild

/-- The path in a report for machines, where it has to be text. -/
def Path.json (path : Path) : Except String Json :=
  match Path.text? path.places with
  | some text => .ok (.string text)
  | none => .error "path contains invalid UTF-8 characters"

def Verdict.fields : Verdict → List (String × Json)
  | incremental => [("verdict", .string "incremental")]
  | fullRebuild cause => [("verdict", .string "full-rebuild"), ("cause", .string cause)]

/-- Zero for incremental changes and one for a full rebuild. -/
def Verdict.exitCode (verdict : Verdict) : Nat := if verdict.isFullRebuild then 1 else 0

namespace ArchiveResult

def describe : ArchiveResult → String
  | analyzed verdict => verdict.describe
  | failed error => "failed: " ++ error

def fields : ArchiveResult → List (String × Json)
  | analyzed verdict =>
    [("outcome", .string "analyzed"), ("verdict", .object verdict.fields)]
  | failed error => [("outcome", .string "failed"), ("error", .string error)]

end ArchiveResult

namespace ClasspathReport

def text (report : ClasspathReport) : String :=
  String.join (report.archives.map fun outcome =>
    outcome.archive.shown ++ ": " ++ outcome.result.describe ++ "\n") ++
  "verdict: " ++ report.verdict.describe ++ "\n"

def json (report : ClasspathReport) : Except String Json := do
  let archives ← report.archives.mapM fun outcome => do
    return .object (("archive", ← outcome.archive.json) :: outcome.result.fields)
  return .object [("verdict", .object report.verdict.fields), ("archives", .array archives)]

end ClasspathReport

/-- The report on one archive. -/
def archiveJson (archive : Path) (snapshot : Option Path) (verdict : Verdict) :
    Except String Json := do
  let previous ← match snapshot with
    | some path => path.json
    | none => pure .null
  return .object (("archive", ← archive.json) :: ("previous_archive", previous) :: verdict.fields)

def baselineJson (archive : Path) (name : String) : Except String Json := do
  return .object [("archive", ← archive.json), ("baseline", .string name)]

end Rebuild
