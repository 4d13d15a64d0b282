import Rebuild.Zip.CodePage
import Rebuild.Zip.Entry

/-!
# The directory of an archive

A directory is a row of records, one for each entry. Data in front of the archive shifts all stated
offsets by the same amount. Every entry starts in front of the directory. A directory that cannot be
read in full is none.
-/

namespace Rebuild.Zip

def entrySignature : Signature := 0x02014B50

/-- Where a directory lies, what is added to its offsets, and how many entries it has. -/
structure DirectoryInfo where
  offset : Nat
  shift : Nat
  count : Nat
  sameDisk : Bool

/-- One record of a directory, and where the next one starts. -/
def DirectoryInfo.entryAt? (info : DirectoryInfo) (bytes : ByteArray) (offset : Nat) :
    Option (Entry × Nat) := do
  guard (entrySignature.isAt bytes offset)
  let flags ← number? bytes (offset + 8) 2
  let method ← number? bytes (offset + 10) 2
  let checksum ← number? bytes (offset + 16) 4
  let compressedSize ← number? bytes (offset + 20) 4
  let size ← number? bytes (offset + 24) 4
  let nameLength ← number? bytes (offset + 28) 2
  let extraLength ← number? bytes (offset + 30) 2
  let commentLength ← number? bytes (offset + 32) 2
  let headerOffset ← number? bytes (offset + 42) 4
  let nameBytes ← slice? bytes (offset + 46) nameLength
  let extra ← slice? bytes (offset + 46 + nameLength) extraLength
  let comment ← slice? bytes (offset + 46 + nameLength + extraLength) commentLength
  let text (bytes : ByteArray) : String :=
    if flags.testBit 11 then Utf8.shown bytes.toList else codePageText bytes.toList
  let entry : Entry := {
    name := text nameBytes
    nameBytes
    comment := text comment
    isEncrypted := flags.testBit 0
    method
    checksum := checksum.toUInt32
    size
    compressedSize
    headerOffset }
  let entry ← entry.withExtra? extra
  let headerOffset := entry.headerOffset + info.shift
  guard (headerOffset < info.offset)
  return ({ entry with headerOffset }, offset + 46 + nameLength + extraLength + commentLength)

/-- So many records, one behind the other. -/
def DirectoryInfo.entriesAt? (info : DirectoryInfo) (bytes : ByteArray) :
    (offset count : Nat) → Option (List Entry)
  | _, 0 => some []
  | offset, count + 1 => do
    let (entry, next) ← info.entryAt? bytes offset
    let others ← info.entriesAt? bytes next count
    return entry :: others

/-- The entries of a directory, as many as announced. It may not lie on another disk. -/
def DirectoryInfo.entries? (info : DirectoryInfo) (bytes : ByteArray) : Option (List Entry) :=
  if info.sameDisk then info.entriesAt? bytes info.offset info.count else none

/-- Of several entries with one name the last one counts, at the place of the first. -/
def putEntry (entry : Entry) : List Entry → List Entry
  | [] => [entry]
  | other :: rest => if other.name = entry.name then entry :: rest else other :: putEntry entry rest

end Rebuild.Zip
