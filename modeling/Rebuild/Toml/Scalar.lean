import Rebuild.Text.Split
import Rebuild.Toml.Text
import Rebuild.Toml.Value

/-!
# Numbers, booleans and dates of TOML

A scalar that is no string is a run of letters, digits and a few signs. It is read as a whole.
-/

namespace Rebuild.Toml

/-- Digits in groups with single underscores between them, without the underscores. -/
def ungrouped? (isDigit : Char → Bool) (text : List Char) : Option (List Char) :=
  let groups := cut '_' text
  if groups.all fun group => !group.isEmpty && group.all isDigit then some groups.flatten else none

def decimalValue (digits : List Char) : Nat :=
  digits.foldl (fun value digit => value * 10 + (digit.toNat - '0'.toNat)) 0

/-- Decimal digits that do not start with a superfluous zero. -/
def wholeDigits? (text : List Char) : Option (List Char) :=
  match text with
  | '0' :: _ :: _ => none
  | _ => ungrouped? Char.isDigit text

/-- The value of digits below the base. -/
def inBase? (base : Nat) (text : List Char) : Option Nat :=
  (ungrouped? (fun c => isHexDigit c && hexValue c < base) text).map
    (valueInBase base)

/-- Integers have 64 bits; the other bases have no sign. -/
def integer? (text : List Char) : Option Int := do
  let value : Int ← match text with
    | '0' :: 'x' :: digits => (inBase? 16 digits).map Int.ofNat
    | '0' :: 'o' :: digits => (inBase? 8 digits).map Int.ofNat
    | '0' :: 'b' :: digits => (inBase? 2 digits).map Int.ofNat
    | _ =>
      let (negative, digits) := signed text
      (wholeDigits? digits).map fun digits =>
        if negative then -(decimalValue digits : Int) else decimalValue digits
  if Int64.minValue.toInt ≤ value && value ≤ Int64.maxValue.toInt then some value else none

/-- A whole part, then a fraction or an exponent or both. A positive number too large for the
format is refused. -/
def decimal? (negative : Bool) (text : List Char) : Option Binary64 := do
  let isMark (c : Char) : Bool := c = '.' || c = 'e' || c = 'E'
  let whole ← wholeDigits? (text.takeWhile fun c => !isMark c)
  let marked := text.dropWhile fun c => !isMark c
  let (fraction, rest) ← match marked with
    | '.' :: rest =>
      let digits := rest.takeWhile fun c => !isMark c
      (ungrouped? Char.isDigit digits).map fun digits => (digits, rest.dropWhile fun c => !isMark c)
    | _ => some ([], marked)
  let exponent : Int ← match rest with
    | [] => if marked.isEmpty then none else some 0
    | mark :: rest =>
      if mark = '.' then none
      else
        let (negative, digits) := signed rest
        (ungrouped? Char.isDigit digits).map fun digits =>
          if negative then -(decimalValue digits : Int) else decimalValue digits
  let value := Binary64.ofDecimal negative (decimalValue (whole ++ fraction))
    (exponent - fraction.length)
  if value = .infinite false then none else some value

def float? (text : List Char) : Option Binary64 :=
  let (negative, unsigned) := signed text
  if unsigned = ['i', 'n', 'f'] then some (.infinite negative)
  else if unsigned = ['n', 'a', 'n'] then some .notANumber
  else decimal? negative unsigned

/-! ## Dates and times -/

/-- The number that exactly these digits write. -/
def digits? (text : List Char) (width : Nat) : Option Nat :=
  if text.length = width && text.all Char.isDigit then some (decimalValue text) else none

def daysIn (year month : Nat) : Nat :=
  if month = 2 then
    if year % 4 = 0 && (year % 100 ≠ 0 || year % 400 = 0) then 29 else 28
  else if month = 4 || month = 6 || month = 9 || month = 11 then 30
  else 31

def isDate (text : List Char) : Bool :=
  match cut '-' text with
  | [year, month, day] =>
    match digits? year 4, digits? month 2, digits? day 2 with
    | some year, some month, some day =>
      1 ≤ month && month ≤ 12 && 1 ≤ day && day ≤ daysIn year month
    | _, _, _ => false
  | _ => false

/-- Hours and minutes. -/
def isClock (hour minute : List Char) : Bool :=
  match digits? hour 2, digits? minute 2 with
  | some hour, some minute => hour < 24 && minute < 60
  | _, _ => false

/-- A second may be a leap second and may have a fraction. -/
def isSecond (text : List Char) : Bool :=
  let whole := text.takeWhile (· != '.')
  (match digits? whole 2 with
    | some second => second ≤ 60
    | none => false) &&
  match text.dropWhile (· != '.') with
  | [] => true
  | _ :: fraction => !fraction.isEmpty && fraction.all Char.isDigit

def isTime (text : List Char) : Bool :=
  match cut ':' text with
  | [hour, minute, second] => isClock hour minute && isSecond second
  | _ => false

def isOffset (text : List Char) : Bool :=
  match text with
  | ['Z'] | ['z'] => true
  | sign :: clock =>
    (sign = '+' || sign = '-') &&
    match cut ':' clock with
    | [hour, minute] => isClock hour minute
    | _ => false
  | [] => false

/-- A time with an offset from universal time or without one. -/
def isOffsetTime (text : List Char) : Bool :=
  let isMark (c : Char) : Bool := c = 'Z' || c = 'z' || c = '+' || c = '-'
  let offset := text.dropWhile fun c => !isMark c
  isTime (text.takeWhile fun c => !isMark c) && (offset.isEmpty || isOffset offset)

def isDateTime (text : List Char) : Bool :=
  isTime text || isDate text ||
  (isDate (text.take 10) &&
    match text.drop 10 with
    | delimiter :: time =>
      (delimiter = 'T' || delimiter = 't' || delimiter = ' ') && isOffsetTime time
    | [] => false)

/-! ## Scalars -/

def scalar? (text : List Char) : Option Value :=
  if text = "true".toList then some (.boolean true)
  else if text = "false".toList then some (.boolean false)
  else if isDateTime text then some .dateTime
  else match integer? text with
    | some value => some (.integer value)
    | none => (float? text).map .float

def isScalarChar (c : Char) : Bool :=
  Scan.isBare c || c = '+' || c = '.' || c = ':'

open Rebuild.Scan in
/-- A scalar that is no string. A date may be followed by a blank and a time. -/
def Scan.scalar : Scan Value := do
  let token ← run isScalarChar
  let timed ← fun text => match text with
    | ' ' :: c :: _ => some (isDate token && c.isDigit, text)
    | _ => some (false, text)
  let token ← if timed then do
      char ' '
      let time ← run isScalarChar
      pure (token ++ ' ' :: time)
    else pure token
  match scalar? token with
  | some value => return value
  | none => failure

end Rebuild.Toml
