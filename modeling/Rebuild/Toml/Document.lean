import Rebuild.Toml.Scalar
import Rebuild.Toml.Table

/-!
# TOML documents

Values nest to a bounded depth. A document is a root table followed by headers, each with the keys
of its table. The keys of a table are gathered first and join the document at the next header.
-/

namespace Rebuild.Toml

namespace Scan

open Rebuild.Scan

/-- The most arrays and inline tables that a value may be nested in. -/
def maxNesting : Nat := 79

/-- Items in brackets, over as many lines as they take. The last one may have a comma behind it. -/
def array (item : Scan Value) : Scan Value := do
  char '['
  loop (fun taken => do
    spacing
    if ← accept ']' then return .inr (.array taken.reverse)
    else
      let value ← item
      spacing
      if ← accept ',' then return .inl (value :: taken)
      else
        char ']'
        return .inr (.array (value :: taken).reverse)) []

def pair (item : Scan Value) : Scan ((List String × String) × Value) := do
  let name ← key
  char '='
  blanks
  let value ← item
  return (name, value)

/-- Pairs in braces, on one line, without a comma behind the last one. -/
def inlineTable (item : Scan Value) : Scan Value := do
  char '{'
  blanks
  let pairs ← if ← accept '}' then pure []
    else loop (fun taken => do
      let next ← pair item
      blanks
      if ← accept ',' then return .inl (next :: taken)
      else
        char '}'
        return .inr (next :: taken).reverse) []
  match ofPairs? pairs with
  | some value => return value
  | none => failure

/-- A value at a place that admits `levels` levels of arrays and inline tables. -/
def valueAt (levels : Nat) : Scan Value := do
  match ← peek? with
  | some '"' => return .string (← string '"')
  | some '\'' => return .string (← string '\'')
  | some '[' =>
    match levels with
    | 0 => failure
    | levels + 1 => array (valueAt levels)
  | some '{' =>
    match levels with
    | 0 => failure
    | levels + 1 => inlineTable (valueAt levels)
  | _ => scalar

def value : Scan Value := valueAt maxNesting

end Scan

/-- A document that is read up to some line: what is finished, and the table whose keys come
next. -/
structure Document where
  root : Entries := []
  /-- Where the open table goes; nothing for the root. -/
  header : Option (List String × String) := none
  repeated : Bool := false
  pending : Entries := []

namespace Document

/-- Puts a table in its place. -/
def place (key : String) (table : Entries) : Change Unit := fun _ entries =>
  match entries.find? key with
  | some _ => none
  | none => some ((), entries.set key (.table .declared table))

/-- Adds a table to the ones that share a header. -/
def placeRepeated (key : String) (table : Entries) : Change Unit := fun _ entries =>
  match entries.find? key with
  | some (.tables items) =>
    some ((), entries.set key (.tables (items ++ [.table .declared table])))
  | some _ => none
  | none => some ((), entries.set key (.tables [.table .declared table]))

/-- The root with the open table in it. -/
def close (document : Document) : Option Entries :=
  match document.header with
  | none => some document.pending
  | some (path, key) =>
    let change := if document.repeated then placeRepeated else place
    (descend .passed (change key document.pending) path .declared document.root).map (·.2)

/-- Takes a table that was only passed so far out of its place. It is placed again, last, once the
keys of its header are read. -/
def reopen (key : String) : Change Entries := fun _ entries =>
  match entries.find? key with
  | none => some ([], entries)
  | some (.table .passed inner) => some (inner, entries.erase key)
  | some _ => none

/-- Opens the table of a header. -/
def openTable (document : Document) (path : List String) (key : String) : Option Document := do
  let (entries, root) ← descend .passed (reopen key) path .declared (← document.close)
  return { root, header := some (path, key), repeated := false, pending := entries }

/-- Makes sure that a key stands for repeated tables. -/
def reserve (key : String) : Change Unit := fun _ entries =>
  match entries.find? key with
  | some (.tables _) => some ((), entries)
  | some _ => none
  | none => some ((), entries.set key (.tables []))

/-- Opens one more table of a repeated header. -/
def openRepeated (document : Document) (path : List String) (key : String) : Option Document := do
  let (_, root) ← descend .passed (reserve key) path .declared (← document.close)
  return { root, header := some (path, key), repeated := true }

def addKey (document : Document) (path : List String) (key : String) (value : Value) :
    Option Document := do
  return { document with pending := ← insertAt path key value document.pending }

open Rebuild.Scan Scan in
/-- A header in single or double brackets. -/
def headerLine (document : Document) : Scan Document := do
  char '['
  let isRepeated ← accept '['
  let (path, key) ← key
  char ']'
  if isRepeated then char ']'
  lineEnd
  liftM (if isRepeated then document.openRepeated path key else document.openTable path key)

open Rebuild.Scan Scan in
def keyLine (document : Document) : Scan Document := do
  let ((path, key), value) ← pair value
  lineEnd
  liftM (document.addKey path key value)

open Rebuild.Scan Scan in
/-- One line, or the end of the document. -/
def line (document : Document) : Scan (Document ⊕ Document) := do
  blanks
  match ← peek? with
  | none => return .inr document
  | some '[' => return .inl (← document.headerLine)
  | some '#' | some '\n' | some '\r' => do lineEnd; return .inl document
  | some _ => return .inl (← document.keyLine)

/-- A byte order mark in front says nothing. -/
def withoutMark (text : List Char) : List Char :=
  match text with
  | '\uFEFF' :: rest => rest
  | _ => text

end Document

/-- The entries of the root table, if the text is a document. -/
def parse? (text : String) : Option (List (String × Value)) := do
  let (document, _) ← Scan.loop Document.line {} (Document.withoutMark text.toList)
  return finishEntries (← document.close)

end Rebuild.Toml
