import Rebuild.Pattern.Reader
import Rebuild.Text.Binary64
import Rebuild.Text.Number
import Rebuild.Text.Split

/-!
# Fields in log directives

A directive may ask for a field, and for a value of the field: a truth value, a number, or anything
that a regular expression describes.
-/

namespace Rebuild

inductive WantedValue
  | boolean (value : Bool)
  | natural (value : Nat)
  | integer (value : Int)
  | float (value : Binary64)
  | pattern (text : String)
deriving DecidableEq, Repr

namespace WantedValue

/-- A number that a signed word of 64 bits holds. -/
def integer? (text : List Char) : Option Int := do
  let (negative, digits) := signed text
  let value ← digitsValue? digits
  let value : Int := if negative then -value else value
  guard (Int64.minValue.toInt ≤ value && value ≤ Int64.maxValue.toInt)
  return value

/-- A decimal number with a point, an exponent, both or neither; some digit stands in front of the
exponent. -/
def decimal? (negative : Bool) (text : List Char) : Option Binary64 := do
  let mantissa := text.takeWhile fun c => c.isDigit || c = '.'
  let exponent ← match text.drop mantissa.length with
    | [] => some 0
    | mark :: rest =>
      let (below, digits) := signed rest
      if mark = 'e' || mark = 'E' then
        (digitsValue? digits).map fun value => if below then -(value : Int) else value
      else none
  let (whole, fraction) := (cutFirst? '.' mantissa).getD (mantissa, [])
  let value ← digitsValue? (whole ++ fraction)
  return Binary64.ofDecimal negative value (exponent - fraction.length)

def float? (text : List Char) : Option Binary64 :=
  let (negative, rest) := signed text
  let word := String.ofList (rest.map Char.toLower)
  if word = "inf" || word = "infinity" then some (.infinite negative)
  else if word = "nan" then some .notANumber
  else decimal? negative rest

/-- Text is taken for the first kind of value that it fits. -/
def parse? (text : String) : Option WantedValue :=
  let letters := text.toList
  if text = "true" then some (boolean true)
  else if text = "false" then some (boolean false)
  else
    (numberBelow? UInt64.size letters).map natural <|> (integer? letters).map integer <|>
      (float? letters).map float <|> (if isPattern text then some (pattern text) else none)

def print : WantedValue → String
  | boolean value => toString value
  | natural value => toString value
  | integer value => toString value
  | float value =>
    let text := value.print.toList
    String.ofList ((dropBack? ['.', '0'] text).getD text)
  | pattern text => text

/-- Whether the same values are wanted. -/
def isSame : WantedValue → WantedValue → Bool
  | float a, float b => a.isSame b
  | a, b => a == b

end WantedValue

structure WantedField where
  name : String
  value : Option WantedValue
deriving DecidableEq, Repr

namespace WantedField

/-- A name, or a name and a value with an equals sign between; what stands behind a second one is
not looked at. -/
def parse? (text : String) : Option WantedField :=
  match cut '=' text.toList with
  | name :: value :: _ =>
    (WantedValue.parse? (String.ofList value)).map fun value => ⟨String.ofList name, some value⟩
  | _ => some ⟨text, none⟩

def print (field : WantedField) : String :=
  match field.value with
  | some value => field.name ++ "=" ++ value.print
  | none => field.name

/-- Whether the same is wanted of the same field. -/
def isSame (a b : WantedField) : Bool :=
  a.name == b.name && match a.value, b.value with
    | some a, some b => a.isSame b
    | none, none => true
    | _, _ => false

end WantedField

end Rebuild
