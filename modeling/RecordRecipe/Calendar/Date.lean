import RecordRecipe.Text.Blank

/-!
# Calendar dates

Dates of the Gregorian calendar carried back before its introduction, with a year zero. A date is
in range when its year lies between `minYear` and `maxYear`. Day numbers count from 1 March of the
year zero, so that the leap day closes a year; `ofDayNumber?` inverts `dayNumber`.
-/

namespace RecordRecipe.Calendar

/-- The first year of the range. -/
def minYear : Int := -262143

/-- The last year of the range. -/
def maxYear : Int := 262142

/-- A leap year: every fourth year, except centuries that four hundred does not divide. -/
def isLeap (year : Int) : Bool :=
  year % 4 = 0 && (year % 100 ≠ 0 || year % 400 = 0)

/-- How many days a month has. -/
def monthLength (year : Int) (month : Nat) : Nat :=
  match month with
  | 2 => if isLeap year then 29 else 28
  | 4 | 6 | 9 | 11 => 30
  | _ => 31

/-- Year, month and day form a date in range. -/
def isDate (year : Int) (month day : Nat) : Bool :=
  minYear ≤ year && year ≤ maxYear && 1 ≤ month && month ≤ 12 && 1 ≤ day &&
    day ≤ monthLength year month

/-- A calendar date in range. -/
structure Date where
  year : Int
  month : Nat
  day : Nat
  valid : isDate year month day = true
deriving DecidableEq

/-- The date of a year, a month and a day, if there is one. -/
def Date.of? (year : Int) (month day : Nat) : Option Date :=
  if valid : isDate year month day = true then some ⟨year, month, day, valid⟩ else none

/-- The first day of 1970. -/
def Date.epoch : Date := ⟨1970, 1, 1, by decide⟩

instance : Inhabited Date := ⟨Date.epoch⟩

/-- The days from 1 March of the year zero to a date; earlier dates have negative numbers. -/
def Date.dayNumber (date : Date) : Int :=
  let shifted := (date.month + 9) % 12
  let year := if date.month ≤ 2 then date.year - 1 else date.year
  365 * year + year / 4 - year / 100 + year / 400 + ((153 * shifted + 2) / 5 + date.day - 1 : Nat)

/-- The date with a day number, if it is in range. -/
def Date.ofDayNumber? (n : Int) : Option Date :=
  let era := n / 146097
  let dayOfEra := (n % 146097).toNat
  let yearOfEra := (dayOfEra - dayOfEra / 1460 + dayOfEra / 36524 - dayOfEra / 146096) / 365
  let dayOfYear := dayOfEra - (365 * yearOfEra + yearOfEra / 4 - yearOfEra / 100)
  let shifted := (5 * dayOfYear + 2) / 153
  let day := dayOfYear - (153 * shifted + 2) / 5 + 1
  let month := if shifted < 10 then shifted + 3 else shifted - 9
  Date.of? (400 * era + yearOfEra + if month ≤ 2 then 1 else 0) month day

/-- The date a number of days later, if it is in range. -/
def Date.addDays? (date : Date) (days : Int) : Option Date :=
  Date.ofDayNumber? (date.dayNumber + days)

/-- How many days one date lies after another. -/
def Date.daysSince (date other : Date) : Int :=
  date.dayNumber - other.dayNumber

/-- A year has four digits; one outside `0..9999` has a sign and at least four. -/
def yearText (year : Int) : String :=
  if 0 ≤ year ∧ year ≤ 9999 then Text.padded 4 year.toNat
  else (if year < 0 then "-" else "+") ++ Text.padded 4 year.natAbs

/-- Year, month and day between hyphens. -/
def Date.text (date : Date) : String :=
  yearText date.year ++ "-" ++ Text.padded 2 date.month ++ "-" ++ Text.padded 2 date.day

end RecordRecipe.Calendar
