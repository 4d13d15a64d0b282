import Rebuild.Analysis.ArchiveUnit

/-!
# Observed analyses

A world that keeps count of what an analysis does: archives opened and closed, and classes compared.
A member can be made unreachable, to see what an analysis makes of it.
-/

namespace Rebuild

structure Observations where
  opened : Nat := 0
  closed : Nat := 0
  /-- The pairs that were compared, in order. -/
  compared : List ClassPair := []

namespace ArchiveAccess

/-- Counts the archives that are opened and closed. -/
def counted (access : ArchiveAccess Observations ρ) : ArchiveAccess Observations ρ where
  acquire path := do
    let result ← access.acquire path
    if result.isOk then modify fun seen => { seen with opened := seen.opened + 1 }
    return result
  release reader := do
    access.release reader
    modify fun seen => { seen with closed := seen.closed + 1 }
  path := access.path
  entryCount := access.entryCount
  memberAt := access.memberAt
  member := access.member

/-- Fails when a reader is asked for this name. -/
def failingAt (access : ArchiveAccess ω ρ) (name : String) : ArchiveAccess ω ρ :=
  { access with
    member := fun reader asked =>
      if asked = name then return .error ⟨access.path reader, .injected⟩
      else access.member reader asked }

end ArchiveAccess

namespace Comparator

/-- Notes each pair before it is judged. -/
def recorded (compare : Comparator Observations) : Comparator Observations := fun pair => do
  modify fun seen => { seen with compared := seen.compared ++ [pair] }
  compare pair

/-- Judges classes by name: some fail with a message, some force a full rebuild for a cause, and the
others pass. -/
def byName (fails unsafeClasses : List (String × String)) : Comparator ω := fun pair =>
  match fails.lookup pair.qualifiedName, unsafeClasses.lookup pair.qualifiedName with
  | some message, _ => return .error message
  | none, some cause => return .ok (.fullRebuild cause)
  | none, none => return .ok .incremental

end Comparator

end Rebuild
