/-! # Checksums -/

namespace Rebuild.Zip

/-- The reversed polynomial of the checksum. -/
def polynomial : UInt32 := 0xEDB88320

/-- Divides by the polynomial for one bit. -/
def checksumBit (remainder : UInt32) : UInt32 :=
  if remainder &&& 1 == 1 then remainder >>> 1 ^^^ polynomial else remainder >>> 1

def checksumByte (remainder : UInt32) (byte : UInt8) : UInt32 :=
  Nat.repeat checksumBit 8 (remainder ^^^ byte.toUInt32)

/-- The 32-bit cyclic redundancy check of bytes. -/
def checksum (bytes : ByteArray) : UInt32 :=
  bytes.foldl checksumByte 0xFFFFFFFF ^^^ 0xFFFFFFFF

end Rebuild.Zip
