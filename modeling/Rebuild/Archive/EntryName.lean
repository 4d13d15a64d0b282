import Rebuild.ClassName
import Rebuild.Text.Number
import Rebuild.Text.Split

/-!
# Entry names and class names

An archive entry that holds a class is named by the class: `com/example/Foo.class`. A class has an
internal name, with slashes, and a qualified name, with dots.
-/

namespace Rebuild.EntryName

def classSuffix : List Char := ".class".toList

def versionsFolder : List Char := "META-INF/versions/".toList

/-- The entry that a lookup of the class reads. -/
def ofInternal (internal : String) : String := String.ofList (internal.toList ++ classSuffix)

/-- One slash in front is ignored; a class name is not empty and ends in no slash. -/
def internalChars? (entry : List Char) : Option (List Char) :=
  (dropBack? classSuffix ((dropFront? ['/'] entry).getD entry)).filter fun name =>
    !name.isEmpty && name.getLast? != some '/'

/-- The internal name of the class that the entry is named for. -/
def internal? (entry : String) : Option String :=
  (internalChars? entry.toList).map String.ofList

def isClass (entry : String) : Bool := (internal? entry).isSome

def qualified? (entry : String) : Option String := (internal? entry).map ClassName.qualify

/-- Whether a lookup of the entry's class by its internal name reads this entry: `/Top.class` names
the class `Top`, and a lookup of `Top` reads `Top.class`. -/
def isLoadable (entry : String) : Bool :=
  match internal? entry with
  | some internal => entry == ofInternal internal
  | none => false

/-- Whether the entry overrides a class for one release: it lies under a numbered folder. -/
def isVersioned (entry : String) : Bool :=
  match (dropFront? versionsFolder entry.toList).bind (cutFirst? '/') with
  | some (release, _) => (numberBelow? UInt32.size release).isSome
  | none => false

end Rebuild.EntryName
