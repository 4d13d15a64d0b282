import Rebuild.Text.Number

/-! # Times of log lines -/

namespace Rebuild

/-- A date of the Gregorian calendar. -/
structure Date where
  year : Nat
  month : Nat
  day : Nat
deriving DecidableEq, Repr

/-- The date so many days after the start of 1970. Years are taken to start in March, so that a leap
day ends its year, and are counted in eras of 400. -/
def Date.ofDays (days : Nat) : Date :=
  let shifted := days + 719468
  let era := shifted / 146097
  let dayOfEra := shifted % 146097
  let yearOfEra := (dayOfEra - dayOfEra / 1460 + dayOfEra / 36524 - dayOfEra / 146096) / 365
  let dayOfYear := dayOfEra - (365 * yearOfEra + yearOfEra / 4 - yearOfEra / 100)
  let monthOfYear := (5 * dayOfYear + 2) / 153
  let month := if monthOfYear < 10 then monthOfYear + 3 else monthOfYear - 9
  { year := 400 * era + yearOfEra + if month ≤ 2 then 1 else 0
    month
    day := dayOfYear - (153 * monthOfYear + 2) / 5 + 1 }

/-- The time so many microseconds after the start of 1970, in universal time. -/
def timestamp (microseconds : Nat) : String :=
  let seconds := microseconds / 1000000
  let date := Date.ofDays (seconds / 86400)
  decimal 4 date.year ++ "-" ++ decimal 2 date.month ++ "-" ++ decimal 2 date.day ++ "T" ++
    decimal 2 (seconds / 3600 % 24) ++ ":" ++ decimal 2 (seconds / 60 % 60) ++ ":" ++
    decimal 2 (seconds % 60) ++ "." ++ decimal 6 (microseconds % 1000000) ++ "Z"

end Rebuild
