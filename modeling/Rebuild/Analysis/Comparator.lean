import Rebuild.Analysis.Verdict
import Rebuild.Classpath.Context

/-! # Judging changed classes -/

namespace Rebuild

/-- The two definitions of a class that changed. -/
structure ClassPair where
  qualifiedName : String
  previous : LoadedClass
  current : LoadedClass
deriving Repr

/-- Judges whether a change of one class is safe. A comparator may use a world of its own, and may
fail with a message. -/
abbrev Comparator (ω : Type) := ClassPair → Act ω (Except String Verdict)

/-- Takes every change for unsafe. -/
def Comparator.conservative : Comparator ω := fun pair =>
  return .ok (.fullRebuild ("class changed: " ++ pair.qualifiedName))

end Rebuild
