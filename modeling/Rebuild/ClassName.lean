/-!
# Names of classes

A class has an internal name, with slashes between the parts, and a qualified name, with dots.
Neither spelling escapes the other's separator, so the two maps are inverse only on names that hold
one kind of separator.
-/

namespace Rebuild.ClassName

def dotted (c : Char) : Char := if c = '/' then '.' else c

def slashed (c : Char) : Char := if c = '.' then '/' else c

/-- The qualified name of an internal name. -/
def qualify (internal : String) : String := String.ofList (internal.toList.map dotted)

/-- The internal name that a lookup by qualified name asks for. -/
def unqualify (qualified : String) : String := String.ofList (qualified.toList.map slashed)

end Rebuild.ClassName
