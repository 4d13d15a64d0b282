/-!
# What can be wrong with an archive

Bytes that cannot be read, an end record that leads to no directory, an entry that cannot be read,
and data that is not what was stored.
-/

namespace Rebuild.Zip

/-- Bytes that a reader needs and does not get. -/
inductive ReadFault
  | endOfFile
  | isDirectory
deriving DecidableEq, Repr

def ReadFault.message : ReadFault → String
  | endOfFile => "failed to fill whole buffer"
  | isDirectory => "Is a directory (os error 21)"

/-- Why the end of a file leads to no directory. -/
inductive EndFault
  | noEndRecord
  | commentTooLong
  | directoryBehindEnd
  | noDirectory
  | locatorPointsAhead
  | severalDisks
  | noWideRecord
  | wideRecordTooShort
  | wideRecordTooLong
  | otherDisk
  | wrongWideLength
  | tooManyEntries
deriving DecidableEq, Repr

def EndFault.message : EndFault → String
  | noEndRecord => "Could not find EOCD"
  | commentTooLong => "EOCD comment exceeds file boundary"
  | directoryBehindEnd => "Invalid CDFH offset in EOCD"
  | noDirectory => "No CDFH found"
  | locatorPointsAhead => "Invalid EOCD64 Locator CD offset"
  | severalDisks => "Multi-disk ZIP files are not supported"
  | noWideRecord => "Could not find EOCD64"
  | wideRecordTooShort => "Low EOCD64 record size"
  | wideRecordTooLong => "EOCD64 extends beyond EOCD64 locator"
  | otherDisk => "Invalid EOCD64: inconsistency with Locator data"
  | wrongWideLength => "Invalid EOCD64: inconsistent length"
  | tooManyEntries => "Invalid EOCD64: inconsistent number of files"

inductive Fault
  | unreadable (fault : ReadFault)
  | badEnd (fault : EndFault)
  | badLocalHeader
  | encrypted
  | wrongPassword
  | unknownMethod
  | noSuchEntry
deriving DecidableEq, Repr

def Fault.message : Fault → String
  | unreadable _ => "i/o error"
  | badEnd fault => "invalid Zip archive: " ++ fault.message
  | badLocalHeader => "invalid Zip archive: Invalid local file header"
  | encrypted => "unsupported Zip archive: Password required to decrypt file"
  | wrongPassword => "provided password is incorrect"
  | unknownMethod => "unsupported Zip archive: Compression method not supported"
  | noSuchEntry => "specified file not found in archive"

/-- Data of an entry that cannot be what was stored. -/
inductive DataFault
  | incomplete
  | corrupt
  | wrongChecksum
deriving DecidableEq, Repr

def DataFault.message : DataFault → String
  | incomplete => "incomplete deflate stream"
  | corrupt => "corrupt deflate stream"
  | wrongChecksum => "Invalid checksum"

end Rebuild.Zip
