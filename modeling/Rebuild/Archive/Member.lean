import Rebuild.Archive.EntryName
import Rebuild.FileSystem
import Rebuild.Zip.Archive

/-! # Members of archives, and why they cannot be had -/

namespace Rebuild

/-- A file in an archive: its name there and the checksum that the directory states. -/
structure Member where
  name : String
  checksum : UInt32
deriving DecidableEq, Repr

namespace Member

/-- The class that the member is named for. -/
def qualified? (member : Member) : Option String := EntryName.qualified? member.name

def isClass (member : Member) : Bool := EntryName.isClass member.name

end Member

inductive ArchiveFault
  /-- The file of the archive cannot be read. -/
  | file (error : FileError)
  /-- The file is no archive, or an entry of it cannot be located. -/
  | zip (fault : Zip.Fault)
  /-- The data of an entry is damaged. -/
  | data (fault : Zip.DataFault)
  /-- The entry is stated to be larger than a buffer can be. No read comes back with this fault: it
  stands for a panic. -/
  | overflow
  /-- A fault that was put there to see what happens. -/
  | injected
deriving DecidableEq, Repr

def ArchiveFault.message : ArchiveFault → String
  | file error => error.message
  | zip fault => fault.message
  | data fault => fault.message
  | overflow => "capacity overflow"
  | injected => "injected failure"

structure ArchiveError where
  path : Path
  fault : ArchiveFault
deriving DecidableEq, Repr

namespace ArchiveError

/-- Faults of the zip format are told from all others. -/
def isFormatFault (error : ArchiveError) : Bool :=
  match error.fault with
  | .zip _ => true
  | _ => false

def message (error : ArchiveError) : String :=
  (if error.isFormatFault then "failed to read archive " else "failed to open archive ") ++
    error.path.shown ++ ": " ++ error.fault.message

/-- The faults behind the error, the nearest one first. -/
def causes (error : ArchiveError) : List String :=
  error.fault.message :: match error.fault with
    | .zip (.unreadable fault) => [fault.message]
    | _ => []

end ArchiveError

end Rebuild
