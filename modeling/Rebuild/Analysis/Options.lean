import Rebuild.Path

/-! # What is analyzed, and what a failure means -/

namespace Rebuild

structure AnalysisOptions where
  /-- A failed analysis counts as a full rebuild and is not returned. -/
  errorsAsFullRebuild : Bool := true
  /-- Extensions, without the dot, of the current entries that are analyzed. -/
  archiveExtensions : List String := ["jar"]
deriving DecidableEq, Repr

namespace AnalysisOptions

/-- Equal up to the case of ASCII letters. -/
def sameExtension (a b : String) : Bool :=
  a.toList.map Char.toLower == b.toList.map Char.toLower

def isArchive (options : AnalysisOptions) (path : Path) : Bool :=
  match path.extension?.bind Path.text? with
  | some extension => options.archiveExtensions.any fun known => sameExtension known extension
  | none => false

end AnalysisOptions

end Rebuild
