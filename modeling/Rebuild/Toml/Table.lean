import Rebuild.Toml.Value

/-!
# Tables under construction

A document adds to its tables from several places: keys, dotted keys and headers. How a table came
to stand decides what may still be added to it, so a table keeps its standing until the document is
read.
-/

namespace Rebuild.Toml

/-- How a table came to stand. -/
inductive Standing
  /-- By a header of its own, or as the root. -/
  | declared
  /-- In passing, by a header of a table inside it. -/
  | passed
  /-- By a dotted key. -/
  | dotted
deriving DecidableEq, Repr

inductive Node
  | value (value : Value)
  | table (standing : Standing) (entries : List (String × Node))
  /-- The tables of repeated headers; keys go to the last one. -/
  | tables (items : List Node)
deriving Repr, Inhabited

abbrev Entries := List (String × Node)

namespace Entries

def find? (entries : Entries) (key : String) : Option Node := entries.lookup key

/-- Replaces the node of a key at its place; a new key comes last. -/
def set (key : String) (node : Node) : Entries → Entries
  | [] => [(key, node)]
  | (other, old) :: rest =>
    if other = key then (key, node) :: rest else (other, old) :: set key node rest

def erase (entries : Entries) (key : String) : Entries :=
  entries.filter fun (other, _) => other != key

end Entries

mutual

/-- The finished value of a node. -/
def Node.finish : Node → Value
  | .value value => value
  | .table _ entries => .table (finishEntries entries)
  | .tables items => .array (finishItems items)

def finishEntries : List (String × Node) → List (String × Value)
  | [] => []
  | (key, node) :: rest => (key, node.finish) :: finishEntries rest

def finishItems : List Node → List Value
  | [] => []
  | node :: rest => node.finish :: finishItems rest

end

/-- What to do with the table at the end of a path, whose standing is known. -/
abbrev Change (α : Type) := Standing → Entries → Option (α × Entries)

/-- Changes the table at the end of the path, with tables on the way made as `made` says. A dotted
key passes through no declared table, and nothing passes through a value. -/
def descend (made : Standing) (change : Change α) : List String → Change α
  | [], standing, entries => change standing entries
  | key :: path, _, entries =>
    match entries.find? key with
    | none => do
      let (answer, inner) ← descend made change path made []
      return (answer, entries.set key (.table made inner))
    | some (.table standing inner) =>
      if made = .dotted && standing = .declared then none
      else do
        let (answer, inner) ← descend made change path standing inner
        return (answer, entries.set key (.table standing inner))
    | some (.tables items) =>
      match items.getLast? with
      | some (.table standing inner) => do
        let (answer, inner) ← descend made change path standing inner
        return (answer, entries.set key (.tables (items.dropLast ++ [.table standing inner])))
      | _ => none
    | some (.value _) => none

/-- A new key. Keys without dots go to tables that no dotted key has made, and the others to tables
that a dotted key has made. -/
def insertKey (isDotted : Bool) (key : String) (value : Value) : Change Unit :=
  fun standing entries =>
    if (standing == .dotted) != isDotted then none
    else match entries.find? key with
      | some _ => none
      | none => some ((), entries.set key (.value value))

/-- A key of a declared table, given as the parts in front of its last one and the last one. -/
def insertAt (path : List String) (key : String) (value : Value) (entries : Entries) :
    Option Entries :=
  (descend .dotted (insertKey (!path.isEmpty) key value) path .declared entries).map (·.2)

/-- A table of pairs in braces, closed once it is read. -/
def ofPairs? (pairs : List ((List String × String) × Value)) : Option Value := do
  let entries ← pairs.foldlM
    (fun entries ((path, key), value) => insertAt path key value entries) []
  return .table (finishEntries entries)

end Rebuild.Toml
