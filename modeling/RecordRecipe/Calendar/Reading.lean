import RecordRecipe.Calendar.Moment
import RecordRecipe.Numeral

/-!
# Reading dates and moments

Dates are read as year, month and day between hyphens, moments as a date, a space or a `T`, and
hour, minute and second between colons. Blanks may stand in front of every number. A year without
a sign has at most four digits; every other number has at most two.
-/

namespace RecordRecipe.Calendar

open Text (isBlank)

/-- A reader takes something off the front of a text. -/
abbrev Reader (α : Type) := List Char → Option (α × List Char)

/-- Take between one and `width` digits, after any blanks. The number fits 64 signed bits. -/
def takeNumber (width : Nat) : Reader Nat := fun text =>
  let text := Text.trimStart isBlank text
  let digits := (text.take width).takeWhile Char.isDigit
  match Numeral.digitsValue? digits with
  | some n => if n < Nat.pow 2 63 then some (n, text.drop digits.length) else none
  | none => none

/-- Take a number of any width. -/
def takeLongNumber : Reader Nat := fun text =>
  let digits := text.takeWhile Char.isDigit
  match Numeral.digitsValue? digits with
  | some n => if n < Nat.pow 2 63 then some (n, text.drop digits.length) else none
  | none => none

/-- Take a year, after any blanks. -/
def takeYear : Reader Int := fun text =>
  match Text.trimStart isBlank text with
  | '-' :: rest => (takeLongNumber rest).map fun taken => (-(taken.1 : Int), taken.2)
  | '+' :: rest => (takeLongNumber rest).map fun taken => ((taken.1 : Int), taken.2)
  | text => (takeNumber 4 text).map fun taken => ((taken.1 : Int), taken.2)

/-- Take one given character. -/
def takeMark (mark : Char) : Reader Unit
  | [] => none
  | c :: rest => if c = mark then some ((), rest) else none

/-- Take year, month and day. -/
def takeDate : Reader Date := fun text => do
  let (year, text) ← takeYear text
  let (_, text) ← takeMark '-' text
  let (month, text) ← takeNumber 2 text
  let (_, text) ← takeMark '-' text
  let (day, text) ← takeNumber 2 text
  let date ← Date.of? year month day
  pure (date, text)

/-- Take hour, minute and second; the sixtieth second is a leap second. -/
def takeTime (date : Date) : Reader Moment := fun text => do
  let (hour, text) ← takeNumber 2 text
  let (_, text) ← takeMark ':' text
  let (minute, text) ← takeNumber 2 text
  let (_, text) ← takeMark ':' text
  let (second, text) ← takeNumber 2 text
  let moment ←
    if second = 60 then Moment.leapSecond? date hour minute
    else Moment.of? date hour minute second
  pure (moment, text)

/-- Take the space between a date and a time: any blanks, or none. -/
def takeGap : Reader Unit := fun text => some ((), Text.trimStart isBlank text)

/-- Read a whole text. -/
def readAll {α : Type} (reader : Reader α) (text : List Char) : Option α :=
  match reader text with
  | some (value, []) => some value
  | _ => none

/-- Read a date that fills the text. -/
def readDate? (text : List Char) : Option Date :=
  readAll takeDate text

/-- Read a moment that fills the text, with blanks or a `T` between date and time. -/
def readMoment? (text : List Char) : Option Moment :=
  let spaced : Reader Moment := fun text => do
    let (date, text) ← takeDate text
    let (_, text) ← takeGap text
    takeTime date text
  let marked : Reader Moment := fun text => do
    let (date, text) ← takeDate text
    let (_, text) ← takeMark 'T' text
    takeTime date text
  readAll spaced text <|> readAll marked text

end RecordRecipe.Calendar
