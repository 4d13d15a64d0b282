import Rebuild.Classpath.Error

/-! # Why an analysis reaches no verdict -/

namespace Rebuild

inductive AnalysisError
  /-- The path of the current archive has no file name that is text. -/
  | invalidArchivePath (path : Path)
  | archive (error : ArchiveError)
  | classpath (error : ClasspathError)
  | comparator (className message : String)
deriving DecidableEq, Repr

namespace AnalysisError

def message : AnalysisError → String
  | invalidArchivePath path => "invalid archive path " ++ path.shown
  | archive error => error.message
  | classpath error => error.message
  | comparator className message => "comparing " ++ className ++ " failed: " ++ message

/-- The faults behind the error, the nearest one first. -/
def causes : AnalysisError → List String
  | invalidArchivePath _ => []
  | archive error => error.causes
  | classpath error => error.causes
  | comparator _ message => [message]

end AnalysisError

end Rebuild
