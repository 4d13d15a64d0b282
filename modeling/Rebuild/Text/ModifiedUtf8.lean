import Rebuild.Text.Utf16

/-!
# Modified UTF-8

The text of class files: UTF-16 units in groups of one to three bytes. The null character takes two
bytes, so no byte of a text is zero, and a character above U+FFFF is written as its two surrogates.
A unit may be written in a longer group than it needs.
-/

namespace Rebuild.ModifiedUtf8

/-- Bytes behind the first of a group look like `10xxxxxx`. -/
def isFollower (byte : UInt8) : Bool := byte &&& 0xC0 == 0x80

def payload (byte : UInt8) : UInt16 := (byte &&& 0x3F).toUInt16

/-- The units that the groups hold, if the bytes split into groups. -/
def units? : List UInt8 → Option (List UInt16)
  | [] => some []
  | a :: rest =>
    if a &&& 0x80 == 0 then
      if a == 0 then none else (units? rest).map (a.toUInt16 :: ·)
    else if a &&& 0xE0 == 0xC0 then
      match rest with
      | b :: rest =>
        if isFollower b then
          (units? rest).map (((a &&& 0x1F).toUInt16 <<< 6 ||| payload b) :: ·)
        else none
      | [] => none
    else if a &&& 0xF0 == 0xE0 then
      match rest with
      | b :: c :: rest =>
        if isFollower b && isFollower c then
          (units? rest).map
            (((a &&& 0x0F).toUInt16 <<< 12 ||| payload b <<< 6 ||| payload c) :: ·)
        else none
      | _ => none
    else none

/-- The text of bytes that are all plain ASCII. -/
def plain? (bytes : List UInt8) : Option (List Char) :=
  if bytes.all fun byte => byte != 0 && byte < 0x80 then some (bytes.map Char.ofUInt8) else none

/-- The text of any bytes: groups first, then surrogates in pairs. -/
def general? (bytes : List UInt8) : Option (List Char) := (units? bytes).bind Utf16.decode?

def decode? (bytes : List UInt8) : Option String :=
  (plain? bytes <|> general? bytes).map String.ofList

/-- A byte behind the first of a group. -/
def follower (bits : UInt16) : UInt8 := (bits &&& 0x3F).toUInt8 ||| 0x80

/-- The shortest group of a unit, with two bytes for zero. -/
def ofUnit (unit : UInt16) : List UInt8 :=
  if unit != 0 && unit < 0x80 then [unit.toUInt8]
  else if unit < 0x800 then [(unit >>> 6).toUInt8 ||| 0xC0, follower unit]
  else [(unit >>> 12).toUInt8 ||| 0xE0, follower (unit >>> 6), follower unit]

def encode (text : String) : List UInt8 := (Utf16.encode text.toList).flatMap ofUnit

end Rebuild.ModifiedUtf8
