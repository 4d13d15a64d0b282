import Rebuild.Zip.Directory
import Rebuild.Zip.Fault

/-!
# The end of an archive

An archive is read from its end: an end record says where the directory lies and how many entries it
has. Where these numbers do not fit, a locator in front of the end record leads to a wide one. Of
several end records the last one with a directory counts. If none has one, the fault of the first
record that leads nowhere is told, or else the fault of the last record that cannot be read.
-/

namespace Rebuild.Zip

def endSignature : Signature := 0x06054B50
def wideLocatorSignature : Signature := 0x07064B50
def wideEndSignature : Signature := 0x06064B50

/-! ## Wide end records -/

/-- What leads to a wide end record. -/
structure WideLocator where
  /-- Where the locator itself lies. -/
  offset : Nat
  disk : Nat
  /-- Where the wide record is said to lie. -/
  stated : Nat
  disks : Nat

/-- The locator that ends at an offset. -/
def WideLocator.before? (bytes : ByteArray) (endOffset : Nat) : Option WideLocator := do
  guard (20 ≤ endOffset)
  let offset := endOffset - 20
  guard (wideLocatorSignature.isAt bytes offset)
  let disk ← number? bytes (offset + 4) 4
  let stated ← number? bytes (offset + 8) 8
  let disks ← number? bytes (offset + 16) 4
  return { offset, disk, stated, disks }

structure WideEndRecord where
  /-- The number of bytes behind this number. -/
  length : Nat
  madeBy : Nat
  neededVersion : Nat
  thisDisk : Nat
  directoryDisk : Nat
  onThisDisk : Nat
  count : Nat
  directoryOffset : Nat

namespace WideEndRecord

def at? (bytes : ByteArray) (offset : Nat) : Option WideEndRecord := do
  let length ← number? bytes (offset + 4) 8
  let madeBy ← number? bytes (offset + 12) 2
  let neededVersion ← number? bytes (offset + 14) 2
  let thisDisk ← number? bytes (offset + 16) 4
  let directoryDisk ← number? bytes (offset + 20) 4
  let onThisDisk ← number? bytes (offset + 24) 8
  let count ← number? bytes (offset + 32) 8
  let directoryOffset ← number? bytes (offset + 48) 8
  return {
    length, madeBy, neededVersion, thisDisk, directoryDisk, onThisDisk, count, directoryOffset }

/-- Why the record at an offset does not go with its locator. The record ends where the locator
starts, and in front of it there is room for the directory. -/
def fault? (record : WideEndRecord) (locator : WideLocator) (offset : Nat) : Option EndFault :=
  if record.length < 44 then some .wideRecordTooShort
  else if locator.offset < offset + record.length + 12 then some .wideRecordTooLong
  else if record.directoryDisk ≠ locator.disk then some .otherDisk
  else if offset + record.length + 12 ≠ locator.offset then some .wrongWideLength
  else if offset < record.count * 46 + record.directoryOffset then some .tooManyEntries
  else none

/-- The entries of the directory, if the record can be believed. -/
def entries? (record : WideEndRecord) (bytes : ByteArray) (shift : Nat) : Option (List Entry) := do
  guard (record.onThisDisk ≤ record.count && record.neededVersion ≤ record.madeBy)
  let info : DirectoryInfo := {
    offset := record.directoryOffset + shift
    shift
    count := record.count
    sameDisk := record.thisDisk = record.directoryDisk }
  info.entries? bytes

end WideEndRecord

/-- The first wide record, at one of so many offsets, that goes with its locator, and where it lies.
Otherwise the fault of the last one counts. -/
def WideLocator.find (locator : WideLocator) (bytes : ByteArray) (kept : Option Fault) :
    (offset count : Nat) → Except Fault (WideEndRecord × Nat)
  | _, 0 => .error (kept.getD (.badEnd .noWideRecord))
  | offset, count + 1 =>
    if wideEndSignature.isAt bytes offset then
      match WideEndRecord.at? bytes offset with
      | none => find locator bytes (some (.unreadable .endOfFile)) (offset + 1) count
      | some record =>
        match record.fault? locator offset with
        | some fault => find locator bytes (some (.badEnd fault)) (offset + 1) count
        | none => .ok (record, offset)
    else find locator bytes kept (offset + 1) count

/-- The entries that a locator leads to. The wide record may be moved by data in front of the
archive, and then the directory is moved by as much. -/
def WideLocator.entries? (locator : WideLocator) (bytes : ByteArray) :
    Except Fault (Option (List Entry)) :=
  if locator.offset ≤ locator.stated then .error (.badEnd .locatorPointsAhead)
  else if 1 < locator.disks then .error (.badEnd .severalDisks)
  else do
    let (record, offset) ←
      locator.find bytes none locator.stated (locator.offset - locator.stated - 3)
    return record.entries? bytes (offset - locator.stated)

/-! ## Plain end records -/

structure EndRecord where
  thisDisk : Nat
  directoryDisk : Nat
  onThisDisk : Nat
  count : Nat
  directoryOffset : Nat

namespace EndRecord

/-- The record at an offset. Its comment ends in front of the end of the file. -/
def read (bytes : ByteArray) (offset : Nat) : Except Fault EndRecord :=
  let record : Option (EndRecord × Nat) := do
    let thisDisk ← number? bytes (offset + 4) 2
    let directoryDisk ← number? bytes (offset + 6) 2
    let onThisDisk ← number? bytes (offset + 8) 2
    let count ← number? bytes (offset + 10) 2
    let directoryOffset ← number? bytes (offset + 16) 4
    let commentLength ← number? bytes (offset + 20) 2
    return ({ thisDisk, directoryDisk, onThisDisk, count, directoryOffset }, commentLength)
  match record with
  | none => .error (.unreadable .endOfFile)
  | some (record, commentLength) =>
    if bytes.size < offset + 22 + commentLength then .error (.badEnd .commentTooLong)
    else .ok record

/-- Whether a number may stand in a wide record instead. -/
def mayBeWide (record : EndRecord) : Bool :=
  record.count = 0xFFFF || record.directoryOffset = overflow

/-- Where the directory lies. Its first record fixes the shift; an empty directory ends where the
end record starts. -/
def directory (record : EndRecord) (bytes : ByteArray) (offset : Nat) :
    Except Fault DirectoryInfo :=
  let stated := record.directoryOffset
  let info (shift : Nat) : DirectoryInfo := {
    offset := stated + shift
    shift
    count := record.onThisDisk
    sameDisk := record.thisDisk = record.directoryDisk }
  if record.count = 0 then .ok (info (offset - stated))
  else if offset ≤ stated then .error (.badEnd .directoryBehindEnd)
  else
    match entrySignature.find? bytes stated (offset - stated - 3) with
    | some found => .ok (info (found - stated))
    | none => .error (.badEnd .noDirectory)

/-- The entries that the record at an offset leads to: nothing if there is a directory that cannot
be read in full. -/
def entries? (record : EndRecord) (bytes : ByteArray) (offset : Nat) :
    Except Fault (Option (List Entry)) :=
  match if record.mayBeWide then WideLocator.before? bytes offset else none with
  | some locator => locator.entries? bytes
  | none => do
    let info ← record.directory bytes offset
    return info.entries? bytes

end EndRecord

/-! ## The search -/

/-- The entries of the last end record with a directory that starts below an offset. A fault met so
far stays if an earlier record cannot be read, and gives way if an earlier record can. A directory
that cannot be read in full makes all that came before it void. -/
def search (bytes : ByteArray) (kept : Option Fault) : (offset : Nat) → Except Fault (List Entry)
  | 0 => .error (kept.getD (.badEnd .noEndRecord))
  | offset + 1 =>
    if endSignature.isAt bytes offset then
      match EndRecord.read bytes offset with
      | .error fault => search bytes (some (kept.getD fault)) offset
      | .ok record =>
        match record.entries? bytes offset with
        | .error fault => search bytes (some fault) offset
        | .ok (some entries) => .ok entries
        | .ok none => search bytes none offset
    else search bytes kept offset

end Rebuild.Zip
