import RecordRecipe.Calendar.Date

/-!
# Moments

A moment is a date with a time of day to the second. The sixtieth second of a minute is read from
text as a leap second: it is written as `60`, while as a number the second counts as `59`.
-/

namespace RecordRecipe.Calendar

/-- Hour, minute and second form a time of day. A leap second is a second that follows the last
one of its minute. -/
def isTime (hour minute second : Nat) (leap : Bool) : Bool :=
  hour < 24 && minute < 60 && second < 60 && (!leap || second = 59)

/-- A date and a time of day. -/
structure Moment where
  date : Date
  hour : Nat
  minute : Nat
  second : Nat
  leap : Bool := false
  valid : isTime hour minute second leap = true
deriving DecidableEq

/-- The moment of a date, an hour, a minute and a second, if there is one. -/
def Moment.of? (date : Date) (hour minute second : Nat) : Option Moment :=
  if valid : isTime hour minute second false = true then
    some ⟨date, hour, minute, second, false, valid⟩
  else none

/-- The leap second of a minute, if there is such a minute. -/
def Moment.leapSecond? (date : Date) (hour minute : Nat) : Option Moment :=
  if valid : isTime hour minute 59 true = true then some ⟨date, hour, minute, 59, true, valid⟩
  else none

/-- The first moment of a date. -/
def Date.midnight (date : Date) : Moment :=
  ⟨date, 0, 0, 0, false, by decide⟩

/-- The second as it is written. -/
def Moment.writtenSecond (moment : Moment) : Nat :=
  if moment.leap then moment.second + 1 else moment.second

/-- The date, a space, and hour, minute and second between colons. -/
def Moment.text (moment : Moment) : String :=
  moment.date.text ++ " " ++ Text.padded 2 moment.hour ++ ":" ++ Text.padded 2 moment.minute ++
    ":" ++ Text.padded 2 moment.writtenSecond

end RecordRecipe.Calendar
