import Rebuild.ClassFile.Error

/-!
# Reading from the front of bytes

A parser takes what it needs from the front of a byte list and leaves the rest. Numbers are
big-endian.
-/

namespace Rebuild

abbrev Parser := StateT (List UInt8) (Except ClassFileError)

namespace Parser

/-- The first `n` bytes, if there are that many. -/
def bytes (n : Nat) : Parser (List UInt8) := fun input =>
  let front := input.take n
  if front.length = n then .ok (front, input.drop n) else .error .unexpectedEnd

/-- The number that big-endian bytes write. -/
def bigEndian (bytes : List UInt8) : Nat :=
  bytes.foldl (fun value byte => value * 256 + byte.toNat) 0

def number (width : Nat) : Parser Nat := bigEndian <$> bytes width

def u8 : Parser UInt8 := UInt8.ofNat <$> number 1

def u16 : Parser UInt16 := UInt16.ofNat <$> number 2

def u32 : Parser UInt32 := UInt32.ofNat <$> number 4

def u64 : Parser UInt64 := UInt64.ofNat <$> number 8

/-- As many items as the count says. -/
def times (item : Parser α) : Nat → Parser (List α)
  | 0 => pure []
  | n + 1 => do
    let first ← item
    let others ← times item n
    return first :: others

/-- A two-byte count and that many items. -/
def counted (item : Parser α) : Parser (List α) := do times item (← u16).toNat

/-- Zero stands for nothing, any other index for what `lookup` finds. -/
def optional (lookup : UInt16 → Except ClassFileError α) : Parser (Option α) := do
  let index ← u16
  if index = 0 then return none else return some (← lookup index)

/-- What the parser makes of these bytes, all of which it has to take. -/
def exactly (parser : Parser α) (bytes : List UInt8) : Except ClassFileError α :=
  match parser bytes with
  | .ok (value, []) => .ok value
  | .ok (_, rest) => .error (.trailingBytes rest.length)
  | .error e => .error e

end Parser

end Rebuild
