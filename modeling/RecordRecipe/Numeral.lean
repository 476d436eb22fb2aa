import RecordRecipe.Text.Blank
import RecordRecipe.Decimal.Nearest

/-!
# Reading numbers

Texts of integers and of decimal numbers. An integer is an optional sign and at least one digit.
A decimal number is an optional sign, digits with at most one point and at least one digit, and an
optional exponent; the words for infinity and not-a-number are read too.
-/

namespace RecordRecipe.Numeral

/-- The value of a run of decimal digits; nothing else is a run. -/
def digitsValue? (digits : List Char) : Option Nat :=
  if digits ≠ [] ∧ digits.all Char.isDigit then
    some (digits.foldl (fun n c => 10 * n + (c.toNat - '0'.toNat)) 0)
  else none

/-- The value of a run of decimal digits that may be empty. -/
def digitsValue (digits : List Char) : Nat :=
  digits.foldl (fun n c => 10 * n + (c.toNat - '0'.toNat)) 0

/-- The value of a hexadecimal digit. -/
def hexDigit? (c : Char) : Option Nat :=
  if c.isDigit then some (c.toNat - 48)
  else if 'a' ≤ c ∧ c ≤ 'f' then some (c.toNat - 87)
  else if 'A' ≤ c ∧ c ≤ 'F' then some (c.toNat - 55)
  else none

/-- The number that digits of a base stand for; the base is 16 at most. -/
def radixValue? (base : Nat) (digits : List Char) : Option Nat :=
  if digits.isEmpty then none
  else digits.foldl (fun total c => do
    let digit ← hexDigit? c
    if digit < base then return (← total) * base + digit else none) (some 0)

/-- An optional sign and what follows it; the flag tells a minus. -/
def splitSign : List Char → Bool × List Char
  | '+' :: rest => (false, rest)
  | '-' :: rest => (true, rest)
  | text => (false, text)

/-- Read an integer of any size. -/
def readInt? (text : List Char) : Option Int :=
  let (negative, digits) := splitSign text
  (digitsValue? digits).map fun n => if negative then -(n : Int) else n

/-- Does an integer fit 64 signed bits? -/
def fitsInt64 (n : Int) : Bool :=
  -(Nat.pow 2 63) ≤ n && n < Nat.pow 2 63

/-- Read an integer of 64 signed bits. -/
def readInt64? (text : List Char) : Option Int64 :=
  match readInt? text with
  | some n => if fitsInt64 n then some (Int64.ofInt n) else none
  | none => none

/-- Read a natural number below `2 ^ bits`; a plus sign may stand in front. -/
def readNat? (bits : Nat) (text : List Char) : Option Nat :=
  let digits := match text with
    | '+' :: rest => rest
    | other => other
  match digitsValue? digits with
  | some n => if n < Nat.pow 2 bits then some n else none
  | none => none

/-- A decimal number: its sign, its digits as one number, and the power of ten that scales them. -/
structure Scientific where
  negative : Bool
  digits : Nat
  exponent : Int
deriving DecidableEq, Repr

/-- The exponent part: nothing, or `e` or `E`, an optional sign and at least one digit. -/
def readExponent? : List Char → Option Int
  | [] => some 0
  | c :: rest => if c = 'e' ∨ c = 'E' then readInt? rest else none

/-- Read a decimal number exactly. -/
def readScientific? (text : List Char) : Option Scientific :=
  let (negative, body) := splitSign text
  let whole := body.takeWhile Char.isDigit
  let rest := body.dropWhile Char.isDigit
  let (fraction, tail) := match rest with
    | '.' :: more => (more.takeWhile Char.isDigit, more.dropWhile Char.isDigit)
    | other => ([], other)
  if whole = [] ∧ fraction = [] then none
  else (readExponent? tail).map fun exponent =>
    ⟨negative, digitsValue (whole ++ fraction), exponent - fraction.length⟩

/-- The floating-point number nearest to a decimal number. -/
def Scientific.toFloat (s : Scientific) : Float :=
  Decimal.nearestDecimal s.negative s.digits s.exponent

/-- The words for infinity. -/
def infinityWords : List (List Char) := ["inf".toList, "infinity".toList]

/-- Read a floating-point number: a decimal number or, in any case, a word for infinity or
not-a-number behind an optional sign. -/
def readFloat? (text : List Char) : Option Float :=
  match readScientific? text with
  | some s => some s.toFloat
  | none =>
      let (negative, body) := splitSign text
      let word := body.map Char.toLower
      if infinityWords.contains word then
        some (Float.ofBits (if negative then 0xFFF0000000000000 else 0x7FF0000000000000))
      else if word = "nan".toList then some (Float.ofBits 0x7FF8000000000000)
      else none

end RecordRecipe.Numeral
