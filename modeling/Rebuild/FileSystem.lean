import Rebuild.Path

/-!
# File systems

A file system is a value: the entries below the root, each at the list of names that leads to it,
and a working directory. A path is followed segment by segment, so it can fail on the way: at a
name that is missing, at a file that is passed through, at a name that is too long.

A file has an identity apart from its place. Writing to a file that is there changes its content
and keeps its identity; a file that is removed and made anew has another one. Who holds on to an
identity still reads the content when the file is removed.
-/

namespace Rebuild

/-- Why a file could not be used. -/
inductive FileError
  | notFound
  | notDirectory
  | isDirectory
  | nameTooLong
  | nulInName
deriving DecidableEq, Repr

def FileError.message : FileError → String
  | notFound => "No such file or directory (os error 2)"
  | notDirectory => "Not a directory (os error 20)"
  | isDirectory => "Is a directory (os error 21)"
  | nameTooLong => "File name too long (os error 36)"
  | nulInName => "file name contained an unexpected NUL byte"

/-- What a file is known by, wherever it lies. -/
abbrev FileIdentity := Nat

inductive FileNode
  | file (identity : FileIdentity)
  | directory
deriving DecidableEq

/-- The names that lead from the root to an entry. -/
abbrev Place := List (List Utf8.Piece)

structure FileSystem where
  entries : List (Place × FileNode)
  workingDirectory : Place
  /-- The contents of all files that ever were, each at the identity of its file. -/
  contents : Array ByteArray := #[]

namespace FileSystem

def node? (files : FileSystem) (place : Place) : Option FileNode :=
  if place.isEmpty then some .directory else files.entries.lookup place

/-- The path that leads to a place from the root. -/
def absolutePath (place : Place) : Path :=
  match place with
  | [] => ⟨[Path.slash]⟩
  | names => ⟨names.flatMap fun name => Path.slash :: name⟩

/-- The working directory as an absolute path. -/
def workingPath (files : FileSystem) : Path := absolutePath files.workingDirectory

/-! ## Following a path -/

def byteLength (segment : List Utf8.Piece) : Nat :=
  segment.foldl (fun length piece => length + piece.byteLength) 0

/-- The longest name of an entry, in bytes. -/
def maxName : Nat := 255

/-- The longest path, in bytes. -/
def maxPath : Nat := 4095

/-- Follows the segments from a place. Every place that is passed has to be a directory. -/
def walk (files : FileSystem) (place : Place) : List (List Utf8.Piece) → Except FileError Place
  | [] => .ok place
  | segment :: segments =>
    match files.node? place with
    | none => .error .notFound
    | some (.file _) => .error .notDirectory
    | some .directory =>
      if segment = [] || segment = [Path.dot] then walk files place segments
      else if segment = [Path.dot, Path.dot] then walk files place.dropLast segments
      else if byteLength segment > maxName then .error .nameTooLong
      else if (files.node? (place ++ [segment])).isNone then .error .notFound
      else walk files (place ++ [segment]) segments

/-- Where a path starts. -/
def start (files : FileSystem) (path : Path) : Place :=
  if path.isAbsolute then [] else files.workingDirectory

/-- What is wrong with a path whatever the file system holds. -/
def refusal? (path : Path) : Option FileError :=
  if path.places.contains (.char '\x00') then some .nulInName
  else if path.places.isEmpty then some .notFound
  else if byteLength path.places > maxPath then some .nameTooLong
  else none

/-- The entry at a path. -/
def find (files : FileSystem) (path : Path) : Except FileError FileNode :=
  match refusal? path with
  | some e => .error e
  | none => do
    match files.node? (← files.walk (files.start path) path.segments) with
    | some node => return node
    | none => throw .notFound

def doesExist (files : FileSystem) (path : Path) : Bool :=
  match files.find path with
  | .ok _ => true
  | .error _ => false

def isFile (files : FileSystem) (path : Path) : Bool :=
  match files.find path with
  | .ok (.file _) => true
  | _ => false

def isDirectory (files : FileSystem) (path : Path) : Bool :=
  match files.find path with
  | .ok .directory => true
  | _ => false

/-- The content of the file with an identity. -/
def content (files : FileSystem) (identity : FileIdentity) : ByteArray :=
  files.contents[identity]?.getD .empty

/-- The file at a path. -/
def findFile (files : FileSystem) (path : Path) : Except FileError FileIdentity := do
  match ← files.find path with
  | .file identity => return identity
  | .directory => throw .isDirectory

/-- The content of the file at a path. -/
def read (files : FileSystem) (path : Path) : Except FileError ByteArray :=
  (files.findFile path).map files.content

/-! ## Changes -/

def put (files : FileSystem) (place : Place) (node : FileNode) : FileSystem :=
  { files with entries := (place, node) :: files.entries.filter fun entry => entry.1 != place }

/-- Gives the file at a place this content, or makes a new file there. -/
def putFile (files : FileSystem) (place : Place) (content : ByteArray) : FileSystem :=
  match files.node? place with
  | some (.file identity) =>
    { files with contents := files.contents.setIfInBounds identity content }
  | _ =>
    { files.put place (.file files.contents.size) with contents := files.contents.push content }

/-- Makes the directories from a place on, as far as they are missing. -/
def makeDirectories (files : FileSystem) (place : Place) : Place → FileSystem
  | [] => files
  | name :: names =>
    let next := place ++ [name]
    let files := if (files.node? next).isSome then files else files.put next .directory
    makeDirectories files next names

/-- An empty file system with a working directory. -/
def empty (workingDirectory : Place) : FileSystem :=
  makeDirectories { entries := [], workingDirectory } [] workingDirectory

/-- The place that a path without `..` leads to, whether it is there or not. -/
def placeOf (files : FileSystem) (path : Path) : Place := files.start path ++ path.names

/-- Writes a file, and makes its parents as far as they are missing. -/
def writeFile (files : FileSystem) (path : Path) (content : ByteArray) : FileSystem :=
  let place := files.placeOf path
  (files.makeDirectories [] place.dropLast).putFile place content

/-- Makes a directory, and its parents as far as they are missing. -/
def makeDirectory (files : FileSystem) (path : Path) : FileSystem :=
  files.makeDirectories [] (files.placeOf path)

/-- Removes an entry and all that lies below it. -/
def remove (files : FileSystem) (path : Path) : FileSystem :=
  let place := files.placeOf path
  { files with entries := files.entries.filter fun entry => !place.isPrefixOf entry.1 }

/-- The place where a path could be made into a file: a name in a directory that is there. -/
def writablePlace (files : FileSystem) (path : Path) : Except FileError Place :=
  match refusal? path with
  | some e => .error e
  | none => do
    let parent ← files.walk (files.start path) path.segments.dropLast
    match files.node? parent, path.segments.getLast? with
    | none, _ => throw .notFound
    | some (.file _), _ => throw .notDirectory
    | some .directory, none => throw .isDirectory
    | some .directory, some name =>
      if name = [] || name = [Path.dot] || name = [Path.dot, Path.dot] then throw .isDirectory
      else if byteLength name > maxName then throw .nameTooLong
      else return parent ++ [name]

/-- Opens a file for appending, and makes an empty one if there is none: the new file system and
where the file lies. -/
def openForAppend (files : FileSystem) (path : Path) : Except FileError (FileSystem × Place) := do
  let place ← files.writablePlace path
  match files.node? place with
  | some (.file _) => return (files, place)
  | some .directory => throw .isDirectory
  | none => return (files.putFile place .empty, place)

/-- Adds to the end of the file at a place. -/
def append (files : FileSystem) (place : Place) (added : ByteArray) : FileSystem :=
  match files.node? place with
  | some (.file identity) => files.putFile place (files.content identity ++ added)
  | _ => files

end FileSystem

end Rebuild
