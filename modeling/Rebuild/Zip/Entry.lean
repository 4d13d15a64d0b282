import Rebuild.Text.Utf8
import Rebuild.Zip.Bytes
import Rebuild.Zip.Checksum

/-!
# Entries and their extra fields

The directory says of each entry what it is called, how its data is stored and where. Extra fields
behind the name add to that: numbers that need more than four bytes, names and comments in UTF-8,
the method under a layer of encryption. A field that contradicts itself spoils the entry, but fields
that are cut off are passed over.
-/

namespace Rebuild.Zip

structure Entry where
  name : String
  /-- The name as it is written. -/
  nameBytes : ByteArray
  comment : String
  isEncrypted : Bool
  /-- Whether the data lies under a second kind of encryption, which an extra field announces. -/
  isSealed : Bool := false
  method : Nat
  checksum : UInt32
  size : Nat
  compressedSize : Nat
  headerOffset : Nat
  /-- Where the data starts, once that has been looked up. -/
  dataStart : Option Nat := none
deriving DecidableEq

/-- Names of directories end in a slash of either kind. -/
def Entry.isDirectory (entry : Entry) : Bool :=
  match entry.name.toList.getLast? with
  | some c => c = '/' || c = '\\'
  | none => false

/-- A number that does not fit its four bytes; the number itself stands in an extra field. -/
def overflow : Nat := 0xFFFFFFFF

namespace ExtraField

/-- Why the reading of extra fields ends early. -/
inductive Stop
  | endOfData
  | contradiction

/-- The entry as far as its fields are read, and where the next field is. -/
structure Progress where
  entry : Entry
  position : Nat

/-- What was read stays when the reading stops. -/
abbrev Reader := ExceptT Stop (StateM Progress)

def bytes (extra : ByteArray) (length : Nat) : Reader ByteArray := do
  let progress ← get
  match slice? extra progress.position length with
  | some found =>
    set { progress with position := progress.position + length }
    return found
  | none => throw .endOfData

def number (extra : ByteArray) (width : Nat) : Reader Nat := do
  let found ← bytes extra width
  return (number? found 0 width).getD 0

def skip (extra : ByteArray) (length : Nat) : Reader Unit := do
  let _ ← bytes extra length

def require (condition : Bool) : Reader Unit :=
  if condition then pure () else throw .contradiction

def alter (change : Entry → Entry) : Reader Unit :=
  modify fun progress => { progress with entry := change progress.entry }

/-! ## Kinds of fields -/

/-- The numbers that do not fit the record, in eight bytes each. A field that has room for three of
them holds all three. -/
def wideNumbers (extra : ByteArray) (length : Nat) : Reader Unit := do
  let start := (← get).position
  let isHere (value : Nat) : Bool := length ≥ 24 || value == overflow
  if isHere (← get).entry.size then
    let size ← number extra 8
    alter fun entry => { entry with size }
  if isHere (← get).entry.compressedSize then
    let compressedSize ← number extra 8
    alter fun entry => { entry with compressedSize }
  if isHere (← get).entry.headerOffset then
    let headerOffset ← number extra 8
    alter fun entry => { entry with headerOffset }
  let taken := (← get).position - start
  require (taken ≤ length)
  skip extra (length - taken)

/-- Three fine times, which nobody asks for. -/
def fineTimes (extra : ByteArray) (length : Nat) : Reader Unit := do
  require (length == 32)
  skip extra 4
  require ((← number extra 2) == 1)
  require ((← number extra 2) == 24)
  skip extra 24

/-- How many of eight flags are set. -/
def countFlags (flags : Nat) : Nat := ((List.range 8).filter flags.testBit).length

/-- Up to three times, as flags announce them. A field of five bytes has the first one whatever the
flags say. -/
def times (extra : ByteArray) (length : Nat) : Reader Unit := do
  let flags ← number extra 1
  require (length == 5 || length == 1 + 4 * countFlags flags)
  require (flags < 8)
  if flags.testBit 0 || length == 5 then skip extra 4
  if flags.testBit 1 && length > 5 then skip extra 4
  if flags.testBit 2 && length > 5 then skip extra 4

/-- Encryption that wraps the compressed data, and the method under it. -/
def encryption (extra : ByteArray) (length : Nat) : Reader Unit := do
  require (length == 7)
  let version ← number extra 2
  let vendor ← number extra 2
  let strength ← number extra 1
  let method ← number extra 2
  require (vendor == 0x4541)
  require (version == 1 || version == 2)
  require (1 ≤ strength && strength ≤ 3)
  alter fun entry => { entry with isSealed := true, method }

/-- UTF-8 in place of other text, which the field tells by its checksum. -/
def replacement (extra : ByteArray) (length : Nat) (replaced : ByteArray) :
    Reader (ByteArray × String) := do
  skip extra 1
  let stated ← number extra 4
  require (5 ≤ length)
  let content ← bytes extra (length - 5)
  require (checksum replaced == stated.toUInt32)
  match Utf8.text? content.toList with
  | some text => return (content, text)
  | none => throw .contradiction

def commentInUtf8 (extra : ByteArray) (length : Nat) : Reader Unit := do
  let (_, comment) ← replacement extra length (← get).entry.comment.toUTF8
  alter fun entry => { entry with comment }

def nameInUtf8 (extra : ByteArray) (length : Nat) : Reader Unit := do
  let (nameBytes, name) ← replacement extra length (← get).entry.nameBytes
  alter fun entry => { entry with nameBytes, name }

/-! ## Fields in order -/

/-- One field: its kind, its length and what it holds. -/
def field (extra : ByteArray) : Reader Unit := do
  let kind ← number extra 2
  let length ← number extra 2
  match kind with
  | 0x0001 => wideNumbers extra length
  | 0x000A => fineTimes extra length
  | 0x5455 => times extra length
  | 0x6375 => commentInUtf8 extra length
  | 0x7075 => nameInUtf8 extra length
  | 0x9901 => encryption extra length
  | _ => skip extra length

/-- Fields up to the end, at most so many of them. -/
def fields (extra : ByteArray) : (limit : Nat) → Reader Unit
  | 0 => pure ()
  | limit + 1 => do
    if (← get).position < extra.size then
      field extra
      fields extra limit

end ExtraField

/-- The method that only says that an extra field names the real one. -/
def sealedMethod : Nat := 99

/-- The entry with what its extra fields say, unless they contradict themselves or a needed one is
missing. -/
def Entry.withExtra? (entry : Entry) (extra : ByteArray) : Option Entry :=
  let (stopped, progress) := (ExtraField.fields extra extra.size).run.run ⟨entry, 0⟩
  let isSpoiled := match stopped with
    | .error .contradiction => true
    | _ => progress.entry.method == sealedMethod && !progress.entry.isSealed
  if isSpoiled then none else some progress.entry

end Rebuild.Zip
