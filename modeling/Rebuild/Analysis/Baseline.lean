import Rebuild.Path

/-!
# Names of snapshots

A build keeps a copy of every archive under a name made of a hash of the archive's path and its
file name. The hash is the one that a Java `File` gives the path, so the copy is found wherever it
lies.
-/

namespace Rebuild.Baseline

/-- Mixed into every path hash. -/
def salt : UInt32 := 1234321

/-- A slash in front of a slash is dropped, so runs become one slash. -/
def collapse : List Char → List Char
  | [] => []
  | c :: rest => if c = '/' && rest.head? == some '/' then collapse rest else c :: collapse rest

/-- The path with single slashes and no slash at its end, unless it is the root. -/
def normalize (text : List Char) : List Char :=
  let collapsed := collapse text
  if collapsed.length > 1 && collapsed.getLast? == some '/' then collapsed.dropLast else collapsed

/-- The polynomial in 31 over the UTF-16 units, with the last unit as the constant term. -/
def textHash (text : List Char) : UInt32 :=
  (Utf16.encode text).foldl (fun hash unit => hash * 31 + unit.toUInt32) 0

/-- The hash of the path, as a signed number. -/
def pathHash (path : Path) : Int32 :=
  (textHash (normalize path.shown.toList) ^^^ salt).toInt32

/-- The name that the copy of the archive is kept under: the hash without its sign, and the file
name. The least number has no counterpart and keeps its sign. -/
def fileName? (archive : Path) : Option String := do
  let name ← archive.fileName?
  let text ← Path.text? name
  return toString (pathHash archive).abs.toInt ++ "-" ++ text

end Rebuild.Baseline
