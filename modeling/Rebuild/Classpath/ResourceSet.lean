import Rebuild.Path

/-!
# One side of a classpath

The paths of a classpath in search order. Paths are compared as they are written.
-/

namespace Rebuild

structure ResourceSet where
  paths : List Path
deriving DecidableEq, Repr

namespace ResourceSet

def size (set : ResourceSet) : Nat := set.paths.length

def isEmpty (set : ResourceSet) : Bool := set.paths.isEmpty

/-- The first path with this file name. -/
def findByFileName? (set : ResourceSet) (name : String) : Option Path :=
  set.paths.find? fun path => path.fileName? == some (name.toList.map .char)

end ResourceSet

end Rebuild
