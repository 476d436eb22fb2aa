import RecordRecipe.Calendar.Reading
import RecordRecipe.Function.Fault
import RecordRecipe.Numeral
import RecordRecipe.Value

/-!
# Reading arguments

How template functions read integers, dates and weights out of field values. Dates may be given
relative to today, by a sign, a number and a unit of days, weeks, months or years; months count
thirty days and years 365.
-/

namespace RecordRecipe

open Calendar (Date Moment)

/-- Cut a floating-point number down to an integer of 64 signed bits. -/
def truncateToInt64 (x : Float) : Int :=
  Decimal.clampedTrunc (-(Nat.pow 2 63)) (Nat.pow 2 63 - 1) x

/-- Read an integer of 64 signed bits out of a text; a decimal number is cut down to one. -/
def readInteger? (content : List Char) : Option Int :=
  match Numeral.readInt64? content with
  | some n => some n.toInt
  | none => (Numeral.readFloat? content).map truncateToInt64

namespace FieldValue

/-- The value as an integer of 64 signed bits. -/
def asInteger (function : String) : FieldValue → Except CallFault Int
  | int n => .ok n.toInt
  | float x => .ok (truncateToInt64 x)
  | bool flag => .ok (if flag then 1 else 0)
  | text content =>
      let trimmed := Text.trim content
      match readInteger? trimmed.toList with
      | some n => .ok n
      | none => .error (.unreadableInteger function trimmed)
  | other => .error (.noInteger function other.typeName)

end FieldValue

/-- The days that a unit letter stands for. -/
def unitDays? : Char → Option Nat
  | 'd' => some 1
  | 'w' => some 7
  | 'm' => some 30
  | 'y' => some 365
  | _ => none

/-- The date a number of days after or before another. A number that 31 bits cannot hold leads
out of the range of dates. -/
def shiftDate? (today : Date) (forward : Bool) (days : Nat) : Option Date :=
  if Nat.pow 2 31 ≤ days then none
  else today.addDays? (if forward then days else -(days : Int))

/-- A date relative to today. Numbers of days are reduced to 64 bits. -/
def relativeDate? (today : Date) (content : List Char) : Option Date :=
  match content with
  | 't' :: 'o' :: 'd' :: 'a' :: 'y' :: [] => some today
  | sign :: offset =>
      if sign = '+' || sign = '-' then do
        let unit ← offset.getLast?
        let amount ← Numeral.readNat? 64 offset.dropLast
        let days ← unitDays? unit
        shiftDate? today (sign = '+') (amount * days % UInt64.size)
      else none
  | [] => none

/-- A date in a text: in figures, or relative to today. -/
def readDateText? (today : Date) (content : String) : Option Date :=
  let trimmed := Text.trimChars content.toList
  match Calendar.readDate? trimmed with
  | some date => some date
  | none => relativeDate? today trimmed

namespace FieldValue

/-- The value as a date. -/
def asDate (function : String) (today : Date) (value : FieldValue) : Except CallFault Date :=
  let found := match value with
    | .date day => some day
    | .moment time => some time.date
    | .text content => readDateText? today content
    | _ => none
  match found with
  | some day => .ok day
  | none => .error (.noDate function value.display)

/-- The number that a weight is, as a value or as a text with or without a percent sign. -/
def weightNumber? : FieldValue → Option Float
  | .text content =>
      let trimmed := Text.trimChars content.toList
      let number := if trimmed.getLast? = some '%' then trimmed.dropLast else trimmed
      Numeral.readFloat? (Text.trimChars number)
  | other => other.float?

/-- The value as a weight: a finite number that is not negative. -/
def asWeight (value : FieldValue) : Except CallFault Float :=
  match value.weightNumber? with
  | some x => if x.isFinite && 0 ≤ x then .ok x else .error (.badWeight value.display)
  | none => .error (.badWeight value.display)

end FieldValue

end RecordRecipe
