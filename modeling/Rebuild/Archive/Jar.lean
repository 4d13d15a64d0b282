import Rebuild.Archive.Member
import Rebuild.Inquiry

/-!
# Jars

A jar reads its directory once, when it is opened. The data of its entries comes from the file that
it was opened on, as that is when it is asked for: the file may be written to or removed meanwhile.
Where the data of an entry starts is looked up once and remembered.
-/

namespace Rebuild

structure Jar where
  path : Path
  file : FileIdentity
  entries : List Zip.Entry
deriving DecidableEq

namespace Jar

/-- A directory can be opened like a file, but nothing can be read from it. -/
def load (files : FileSystem) (path : Path) : Except ArchiveError Jar :=
  match files.findFile path with
  | .error .isDirectory => .error ⟨path, .zip (.unreadable .isDirectory)⟩
  | .error error => .error ⟨path, .file error⟩
  | .ok file =>
    match Zip.entriesOf (files.content file) with
    | .ok entries => .ok ⟨path, file, entries⟩
    | .error fault => .error ⟨path, .zip fault⟩

/-- The number of entries, directories included. -/
def entryCount (jar : Jar) : Nat := jar.entries.length

/-- The jar as an archive, with the bytes that its file has now. -/
def archive (files : FileSystem) (jar : Jar) : Zip.Archive :=
  ⟨files.content jar.file, jar.entries⟩

def remember (entry : Zip.Entry) (start : Nat) (jar : Jar) : Jar :=
  { jar with entries := jar.entries.map fun other =>
      if other.name == entry.name then { other with dataStart := some start } else other }

/-- Finds where the data of an entry starts, and makes use of it. -/
def withData (files : FileSystem) (entry : Zip.Entry) (use : Nat → Except ArchiveFault α) :
    StateM Jar (Except ArchiveError α) := fun jar =>
  match (jar.archive files).dataOffset entry with
  | .error fault => (.error ⟨jar.path, .zip fault⟩, jar)
  | .ok start => ((use start).mapError fun fault => ⟨jar.path, fault⟩, jar.remember entry start)

/-- The member that an entry stands for. A directory is none. The header in front of the data has
to be in order. -/
def record (files : FileSystem) (entry : Zip.Entry) :
    StateM Jar (Except ArchiveError (Option Member)) :=
  withData files entry fun _ =>
    .ok (if entry.isDirectory then none else some ⟨entry.name, entry.checksum⟩)

def memberAt (files : FileSystem) (index : Nat) :
    StateM Jar (Except ArchiveError (Option Member)) := fun jar =>
  match jar.entries[index]? with
  | some entry => record files entry jar
  | none => (.error ⟨jar.path, .zip .noSuchEntry⟩, jar)

def member (files : FileSystem) (name : String) :
    StateM Jar (Except ArchiveError (Option Member)) := fun jar =>
  match (jar.archive files).find? name with
  | some entry => record files entry jar
  | none => (.ok none, jar)

/-- The number of bytes that a buffer can hold at most. Memory for so many is taken to be there. -/
def maxCapacity : Nat := 0x7FFFFFFFFFFFFFFF

/-- The content of an entry whose data starts at an offset. Before anything is read, a buffer is
made of the size that the directory states. -/
def contentAt (files : FileSystem) (jar : Jar) (entry : Zip.Entry) (start : Nat) :
    Except ArchiveFault ByteArray := do
  let stored ← ((jar.archive files).storedAt entry start).mapError .zip
  if maxCapacity < entry.size then throw .overflow
  (Zip.Archive.unpack entry stored).mapError .data

/-- The content of an entry, if there is one of this name. -/
def read (files : FileSystem) (name : String) :
    StateM Jar (Except ArchiveError (Option ByteArray)) := fun jar =>
  match (jar.archive files).find? name with
  | none => (.ok none, jar)
  | some entry =>
    if entry.isEncrypted then (.error ⟨jar.path, .zip .encrypted⟩, jar)
    else withData files entry (fun start => some <$> jar.contentAt files entry start) jar

/-- The panic that the outcome of a read stands for, if it stands for one. -/
def panicOf : Except ArchiveError (Option ByteArray) → List LogEvent
  | .error ⟨_, .overflow⟩ => [.panic ArchiveFault.overflow.message]
  | _ => []

/-- Reads an entry, and says so if that comes to a panic. -/
def fetch (name : String) (jar : Jar) :
    Inquiry (Except ArchiveError (Option ByteArray) × Jar) := do
  let answer := read (← Inquiry.files) name jar
  (panicOf answer.1).forM Inquiry.emit
  return answer

/-! ## Opening and closing -/

def logTarget : String := "jarguard.archive"

/-- Opens a jar and says so. -/
def acquire (path : Path) : Inquiry (Except ArchiveError Jar) := do
  match load (← Inquiry.files) path with
  | .error error => return .error error
  | .ok jar =>
    Inquiry.emit ⟨.trace, logTarget, "opened archive",
      [("path", .shown path.shown), ("entries", .number jar.entryCount)]⟩
    return .ok jar

def closingMessage : String := "closed archive"

/-- Closes a jar and says so. -/
def release (jar : Jar) : Inquiry Unit :=
  Inquiry.emit ⟨.trace, logTarget, closingMessage, [("path", .shown jar.path.shown)]⟩

def isClosing (event : LogEvent) : Bool :=
  event.target == logTarget && event.message == closingMessage

end Jar

end Rebuild
