/-!
# Binary floating point in 64 bits

Values are a significand times a power of two. A decimal number becomes the value nearest to it, and
a value is written with the fewest digits that read back as itself.
-/

namespace Rebuild

inductive Binary64
  | notANumber
  | infinite (negative : Bool)
  /-- The significand times two to the exponent. -/
  | finite (negative : Bool) (significand : Nat) (exponent : Int)
deriving DecidableEq, Repr

namespace Binary64

def isZero : Binary64 → Bool
  | finite _ significand _ => significand = 0
  | _ => false

/-- Whether two values are the same: zero is, whatever its sign. -/
def isSame (a b : Binary64) : Bool := a == b || (a.isZero && b.isZero)

/-- A ratio of naturals; the denominator is not zero. -/
structure Ratio where
  numerator : Nat
  denominator : Nat

namespace Ratio

/-- A natural times a power of the base. -/
def scaled (base value : Nat) (exponent : Int) : Ratio :=
  match exponent with
  | .ofNat n => ⟨value * base.pow n, 1⟩
  | .negSucc n => ⟨value, base.pow (n + 1)⟩

def compare (a b : Ratio) : Ordering :=
  Ord.compare (a.numerator * b.denominator) (b.numerator * a.denominator)

def div (a b : Ratio) : Ratio := ⟨a.numerator * b.denominator, a.denominator * b.numerator⟩

/-- The distance between two ratios. -/
def distance (a b : Ratio) : Ratio :=
  let x := a.numerator * b.denominator
  let y := b.numerator * a.denominator
  ⟨(x - y) + (y - x), a.denominator * b.denominator⟩

def floor (a : Ratio) : Nat := a.numerator / a.denominator

/-- The nearest natural; of two that are equally near, the even one. -/
def round (a : Ratio) : Nat :=
  let quotient := a.numerator / a.denominator
  let twice := 2 * (a.numerator % a.denominator)
  if twice > a.denominator || (twice == a.denominator && quotient % 2 == 1) then quotient + 1
  else quotient

end Ratio

/-- Significands below this one have fewer digits than the format holds. -/
def leastNormal : Nat := 0x10000000000000

def leastExponent : Int := -1074

def greatestExponent : Int := 971

/-- The exponent at which a positive ratio fills the digits of the format. -/
def exponentOf (value : Ratio) : Int :=
  let guess : Int := (value.numerator.log2 : Int) - value.denominator.log2 - 52
  let fits (exponent : Int) : Bool :=
    (value.div (.scaled 2 1 exponent)).floor ≥ leastNormal
  max leastExponent (if fits guess then guess else guess - 1)

/-- The value nearest to a ratio; too large a ratio is infinite. -/
def ofRatio (negative : Bool) (value : Ratio) : Binary64 :=
  if value.numerator = 0 then finite negative 0 0
  else
    let exponent := exponentOf value
    let rounded := (value.div (.scaled 2 1 exponent)).round
    let (significand, exponent) :=
      if rounded = 2 * leastNormal then (leastNormal, exponent + 1) else (rounded, exponent)
    if exponent > greatestExponent then infinite negative
    else finite negative significand exponent

/-- The value nearest to a decimal number. Beyond these exponents the result is known without
computing large powers. -/
def ofDecimal (negative : Bool) (digits : Nat) (exponent : Int) : Binary64 :=
  let magnitude : Int := (Nat.toDigits 10 digits).length + exponent
  if digits = 0 || magnitude < -400 then finite negative 0 0
  else if magnitude > 400 then infinite negative
  else ofRatio negative (.scaled 10 digits exponent)

/-- Whether a decimal ratio lies between the midpoints to the neighbours of the value. The midpoints
themselves belong to the even significand. -/
def readsBack (significand : Nat) (exponent : Int) (decimal : Ratio) : Bool :=
  let quarter := exponent - 2
  let below := if significand = leastNormal && exponent > leastExponent then 1 else 2
  let low := decimal.compare (.scaled 2 (4 * significand - below) quarter)
  let high := decimal.compare (.scaled 2 (4 * significand + 2) quarter)
  let even := significand % 2 == 0
  (low == .gt || (even && low == .eq)) && (high == .lt || (even && high == .eq))

/-- The number of decimal digits before the point; zero or less for small values. -/
def decimalMagnitude (value : Ratio) : Int :=
  let guess : Int :=
    (Nat.toDigits 10 value.numerator).length - (Nat.toDigits 10 value.denominator).length
  let reaches (exponent : Int) : Bool := value.compare (.scaled 10 1 exponent) != .lt
  if reaches guess then guess + 1 else guess

/-- The decimal with this many digits that reads back, if there is one: of two the nearer, and of
two that are equally near the greater. -/
def withDigits? (significand : Nat) (exponent : Int) (count : Nat) : Option (Nat × Int) :=
  let value := Ratio.scaled 2 significand exponent
  let place := decimalMagnitude value - count
  let lower := (value.div (.scaled 10 1 place)).floor
  let candidate (digits : Nat) : Option Ratio :=
    let decimal := Ratio.scaled 10 digits place
    if readsBack significand exponent decimal then some decimal else none
  match candidate lower, candidate (lower + 1) with
  | some a, some b =>
    if (a.distance value).compare (b.distance value) == .lt then some (lower, place)
    else some (lower + 1, place)
  | some _, none => some (lower, place)
  | none, some _ => some (lower + 1, place)
  | none, none => none

/-- The fewest digits that read back, and their place. Seventeen always do. -/
def shortest (significand : Nat) (exponent : Int) : Nat × Int :=
  if significand = 0 then (0, 0)
  else (((List.range 17).map (· + 1)).findSome? (withDigits? significand exponent)).getD (0, 0)

/-- Digits in positional notation, with at least one digit on either side of the point. -/
def positional (digits : Nat) (place : Int) : String :=
  let text := Nat.toDigits 10 digits
  match place with
  | .ofNat n => String.ofList (text ++ List.replicate (if digits = 0 then 0 else n) '0') ++ ".0"
  | .negSucc n =>
    let places := n + 1
    let padded := List.replicate (places + 1 - text.length) '0' ++ text
    let whole := padded.take (padded.length - places)
    let fraction := padded.drop (padded.length - places)
    let fraction := (fraction.reverse.dropWhile (· == '0')).reverse
    String.ofList whole ++ "." ++ (if fraction.isEmpty then "0" else String.ofList fraction)

def print : Binary64 → String
  | notANumber => "NaN"
  | infinite negative => if negative then "-inf" else "inf"
  | finite negative significand exponent =>
    let (digits, place) := shortest significand exponent
    (if negative then "-" else "") ++ positional digits place

end Binary64

end Rebuild
