import Rebuild.Text.Split
import Rebuild.Text.Utf8

/-!
# Paths

A path is text cut at `/`, in which some places may hold bytes that are no text. Segments, file
names, extensions and joining are decided on the path alone: no file system is asked.
-/

namespace Rebuild

open Utf8 (Piece)

structure Path where
  places : List Piece
deriving DecidableEq, Repr

namespace Path

def slash : Piece := .char '/'

def dot : Piece := .char '.'

def ofString (text : String) : Path := ⟨text.toList.map .char⟩

def ofBytes (bytes : List UInt8) : Path := ⟨Utf8.pieces bytes⟩

/-- The path as text, with U+FFFD for what is no text. -/
def shown (path : Path) : String := String.ofList (path.places.map Piece.shown)

instance : ToString Path := ⟨shown⟩

/-- A path that is text throughout. -/
def IsText (path : Path) : Prop := ∀ place ∈ path.places, place.char?.isSome

/-- The stretches between slashes, empty ones included. -/
def segments (path : Path) : List (List Piece) := cut slash path.places

def isAbsolute (path : Path) : Bool := path.places.head? == some slash

/-- The path read from the directory `base`; an absolute path stands for itself. -/
def join (base path : Path) : Path :=
  if path.isAbsolute then path
  else if base.places.isEmpty || base.places.getLast? == some slash then
    ⟨base.places ++ path.places⟩
  else ⟨base.places ++ slash :: path.places⟩

/-- The segments that name something: empty ones and `.` say nothing. -/
def names (path : Path) : List (List Piece) :=
  path.segments.filter fun segment => !segment.isEmpty && segment != [dot]

/-- The last name, unless it is `..`. -/
def fileName? (path : Path) : Option (List Piece) :=
  match path.names.getLast? with
  | some name => if name = [dot, dot] then none else some name
  | none => none

/-- A segment that is text throughout. -/
def text? (segment : List Piece) : Option String :=
  (segment.mapM Piece.char?).map String.ofList

/-- The part of the file name behind its last dot. A name without a dot, or with only a leading
one, has no extension. -/
def extension? (path : Path) : Option (List Piece) :=
  match path.fileName?.map fun name => cut dot name with
  | some (stem :: second :: others) =>
    if stem.isEmpty && others.isEmpty then none else (second :: others).getLast?
  | _ => none

theorem isSome_text?_iff {name : List Piece} :
    (text? name).isSome = true ↔ ∀ place ∈ name, place.char?.isSome = true := by
  unfold text?
  rw [Option.isSome_map]
  induction name with
  | nil => simp
  | cons place name ih =>
    rw [List.forall_mem_cons, ← ih, List.mapM_cons]
    cases place.char? <;> cases name.mapM Piece.char? <;> simp

theorem isText_ofString (text : String) : (ofString text).IsText := by
  intro place hplace
  obtain ⟨c, -, rfl⟩ := List.mem_map.1 hplace
  rfl

theorem mem_segments_of_fileName? {path : Path} {name : List Piece}
    (h : path.fileName? = some name) : name ∈ path.segments := by
  unfold fileName? at h
  split at h
  · next last hlast =>
    split at h
    · exact nomatch h
    · obtain rfl := Option.some.inj h
      exact (List.mem_filter.1 (List.mem_of_getLast? hlast)).1
  · exact nomatch h

end Path

end Rebuild
