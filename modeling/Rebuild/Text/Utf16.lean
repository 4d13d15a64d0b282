/-!
# UTF-16

The code units of a text, and the text that a run of units stands for. A surrogate stands for
nothing on its own: a high one and the low one behind it are one character.
-/

namespace Rebuild.Utf16

/-- The character of a code point; surrogates and numbers beyond U+10FFFF have none. -/
def char? (point : Nat) : Option Char :=
  if valid : point.isValidChar then some (Char.ofNatAux point valid) else none

def isHigh (unit : UInt16) : Bool := 0xD800 ≤ unit && unit ≤ 0xDBFF

def isLow (unit : UInt16) : Bool := 0xDC00 ≤ unit && unit ≤ 0xDFFF

/-- The code point that a high and a low surrogate share: ten bits each, above U+FFFF. -/
def pairPoint (high low : UInt16) : Nat :=
  0x10000 + (high.toNat - 0xD800) * 0x400 + (low.toNat - 0xDC00)

def ofChar (c : Char) : List UInt16 :=
  if c.toNat < 0x10000 then [c.toNat.toUInt16]
  else
    let above := c.toNat - 0x10000
    [(0xD800 + above / 0x400).toUInt16, (0xDC00 + above % 0x400).toUInt16]

def encode (text : List Char) : List UInt16 := text.flatMap ofChar

/-- Refuses a surrogate without its partner. -/
def decode? : List UInt16 → Option (List Char)
  | [] => some []
  | [unit] => (char? unit.toNat).map fun c => [c]
  | unit :: next :: rest =>
    if isHigh unit && isLow next then do
      let c ← char? (pairPoint unit next)
      let text ← decode? rest
      return c :: text
    else do
      let c ← char? unit.toNat
      let text ← decode? (next :: rest)
      return c :: text

end Rebuild.Utf16
