import Rebuild.Text.Split

/-! # Numbers in text -/

namespace Rebuild

/-- The digits of the number, filled with zeros in front to at least `width` of them. -/
def padded (base width n : Nat) : String :=
  let digits := Nat.toDigits base n
  String.ofList (List.replicate (width - digits.length) '0' ++ digits)

def isHexDigit (c : Char) : Bool := c.isDigit || ('a' ≤ c && c ≤ 'f') || ('A' ≤ c && c ≤ 'F')

/-- The value of a hexadecimal digit. -/
def hexValue (c : Char) : Nat :=
  if c.isDigit then c.toNat - '0'.toNat
  else if 'a' ≤ c then c.toNat - 'a'.toNat + 10
  else c.toNat - 'A'.toNat + 10

/-- The number that digits write in a base. -/
def valueInBase (base : Nat) (digits : List Char) : Nat :=
  digits.foldl (fun value digit => value * base + hexValue digit) 0

/-- The number in lower-case hexadecimal. -/
def hexadecimal (width n : Nat) : String := padded 16 width n

def decimal (width n : Nat) : String := padded 10 width n

/-- The number that decimal digits make, if there are only digits and at least one. -/
def digitsValue? (text : List Char) : Option Nat :=
  if text.isEmpty || !text.all Char.isDigit then none
  else some (valueInBase 10 text)

/-- A sign in front, if there is one: whether it is a minus, and what follows. -/
def signed (text : List Char) : Bool × List Char :=
  match text with
  | '-' :: rest => (true, rest)
  | '+' :: rest => (false, rest)
  | _ => (false, text)

/-- A number below a bound: digits, with at most one plus sign in front. -/
def numberBelow? (bound : Nat) (text : List Char) : Option Nat :=
  (digitsValue? ((dropFront? ['+'] text).getD text)).filter (· < bound)

end Rebuild
