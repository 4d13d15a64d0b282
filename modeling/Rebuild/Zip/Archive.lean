import Rebuild.Zip.EndRecord
import Rebuild.Zip.Inflate

/-!
# Zip archives

Names, sizes and checksums come from the directory; the header in front of an entry's data only says
where the data starts.
-/

namespace Rebuild.Zip

def localSignature : Signature := 0x04034B50

def DataFault.ofStop : Inflate.Stop → DataFault
  | .exhausted => incomplete
  | .corrupt => corrupt

structure Archive where
  bytes : ByteArray
  entries : List Entry

/-- The entries of an archive, each name once. -/
def entriesOf (bytes : ByteArray) : Except Fault (List Entry) := do
  let entries ← search bytes none bytes.size
  return entries.foldl (fun found entry => putEntry entry found) []

namespace Archive

def find? (archive : Archive) (name : String) : Option Entry :=
  archive.entries.find? fun entry => entry.name == name

/-- Where the data of an entry starts: behind its header. -/
def dataOffset (archive : Archive) (entry : Entry) : Except Fault Nat :=
  match entry.dataStart with
  | some start => .ok start
  | none =>
    match slice? archive.bytes entry.headerOffset 30 with
    | none => .error (.unreadable .endOfFile)
    | some header =>
      if localSignature.isAt header 0 then
        .ok (entry.headerOffset + 30 + (number? header 26 2).getD 0 + (number? header 28 2).getD 0)
      else .error .badLocalHeader

/-- The stored bytes of an entry whose data starts at an offset, as many as there are. -/
def storedAt (archive : Archive) (entry : Entry) (start : Nat) : Except Fault ByteArray :=
  if entry.method ≠ 0 && entry.method ≠ 8 then .error .unknownMethod
  else if entry.isSealed then .error .wrongPassword
  else .ok (archive.bytes.extract start (start + entry.compressedSize))

/-- The content of an entry out of its stored bytes. -/
def unpack (entry : Entry) (stored : ByteArray) : Except DataFault ByteArray := do
  let content ← if entry.method = 8 then (inflate stored).mapError .ofStop else pure stored
  if checksum content = entry.checksum then return content else throw .wrongChecksum

end Archive

end Rebuild.Zip
