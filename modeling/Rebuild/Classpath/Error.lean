import Rebuild.Archive.Member
import Rebuild.ClassFile.Basic

/-! # Why a class cannot be loaded -/

namespace Rebuild

inductive ClasspathError
  | classNotFound (name context : String)
  | nameMismatch (path : Path) (expected found : String)
  | file (path : Path) (error : FileError)
  | archive (error : ArchiveError)
  | classFile (name : String) (path : Path) (error : ClassFileError)
deriving DecidableEq, Repr

namespace ClasspathError

def message : ClasspathError → String
  | classNotFound name context =>
    "class " ++ name ++ " not found on the " ++ context ++ " classpath"
  | nameMismatch path expected found =>
    path.shown ++ " defines " ++ found ++ ", expected " ++ expected
  | file path error => "failed to read " ++ path.shown ++ ": " ++ error.message
  | archive error => error.message
  | classFile name path error =>
    "malformed class " ++ name ++ " in " ++ path.shown ++ ": " ++ error.message

/-- The faults behind the error, the nearest one first. -/
def causes : ClasspathError → List String
  | classNotFound .. | nameMismatch .. => []
  | file _ error => [error.message]
  | archive error => error.causes
  | classFile _ _ error => [error.message]

end ClasspathError

end Rebuild
