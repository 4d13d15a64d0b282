/-!
# Numbers and signatures in bytes

Zip files hold little-endian numbers at fixed offsets and mark their records with signatures.
-/

namespace Rebuild.Zip

/-- The instance of the core library, also where another one is in scope. -/
instance decidableEqBytes : DecidableEq ByteArray := ByteArray.instDecidableEq

/-- The little-endian number of `width` bytes at an offset, if they are all there. -/
def number? (bytes : ByteArray) (offset : Nat) : (width : Nat) → Option Nat
  | 0 => some 0
  | width + 1 => do
    let low ← bytes[offset]?
    let high ← number? bytes (offset + 1) width
    return low.toNat + 256 * high

/-- `length` bytes from an offset on, if they are all there. -/
def slice? (bytes : ByteArray) (offset length : Nat) : Option ByteArray :=
  if offset + length ≤ bytes.size then some (bytes.extract offset (offset + length)) else none

/-- What a record starts with, as a little-endian number. -/
abbrev Signature := Nat

/-- Whether the little-endian number of `width` bytes at an offset is `value`. -/
def isNumberAt (value : Nat) (bytes : ByteArray) (offset : Nat) : (width : Nat) → Bool
  | 0 => true
  | width + 1 =>
    match bytes[offset]? with
    | some low => low.toNat == value % 256 && isNumberAt (value / 256) bytes (offset + 1) width
    | none => false

def Signature.isAt (signature : Signature) (bytes : ByteArray) (offset : Nat) : Bool :=
  isNumberAt signature bytes offset 4

/-- The first of `count` offsets that has the signature. -/
def Signature.find? (signature : Signature) (bytes : ByteArray) : (offset count : Nat) → Option Nat
  | _, 0 => none
  | offset, count + 1 =>
    if signature.isAt bytes offset then some offset
    else find? signature bytes (offset + 1) count

end Rebuild.Zip
