import RecordRecipe.Decimal.Layout
import RecordRecipe.Numeral

/-!
# Numbers of expressions

An integer is held in one of four widths. What is written in a template is unsigned and what is
calculated is signed, and both take the narrower width that they fit. Calculations are exact within
128 signed bits and have no result beyond them. Two unsigned integers of 128 bits are calculated
with and compared as the signed integers of the same bits.

Floating-point numbers are calculated with as such. Not-a-number has a sign: it stands below or
above all other numbers, and what has no result is a negative one.
-/

namespace RecordRecipe.Expr

/-- The range in which an integer is held. -/
inductive Width where
  | unsigned64
  | signed64
  | unsigned128
  | signed128
deriving DecidableEq, Repr

/-- The least integer of a width. -/
def Width.least : Width → Int
  | unsigned64 | unsigned128 => 0
  | signed64 => -(Nat.pow 2 63)
  | signed128 => -(Nat.pow 2 127)

/-- The greatest integer of a width. -/
def Width.greatest : Width → Int
  | unsigned64 => Nat.pow 2 64 - 1
  | signed64 => Nat.pow 2 63 - 1
  | unsigned128 => Nat.pow 2 128 - 1
  | signed128 => Nat.pow 2 127 - 1

/-- Does an integer fit 128 signed bits? -/
def fitsInt128 (n : Int) : Bool := -(Nat.pow 2 127) ≤ n && n < Nat.pow 2 127

/-- The signed integer with the bits of an unsigned one of 128 bits. -/
def signedBits (n : Int) : Int := Int.bmod n (Nat.pow 2 128)

/-- Compare an integer with a finite or infinite floating-point number, both taken exactly. -/
def compareExactly (n : Int) (x : Float) : Ordering :=
  match Decimal.toDyadic? x with
  | some v =>
      let significand : Int := if v.negative then -(v.significand : Int) else v.significand
      if 0 ≤ v.exponent then compare n (significand * Nat.pow 2 v.exponent.toNat)
      else compare (n * Nat.pow 2 (-v.exponent).toNat) significand
  | none => if x < 0 then .gt else .lt

/-- Compare floating-point numbers. The two zeros are equal. -/
def compareFloats (x y : Float) : Ordering :=
  if x < y then .lt else if x > y then .gt else .eq

/-- The remainder of two floating-point numbers, exact and with the sign of the first. -/
def floatRemainder (x y : Float) : Float :=
  match Decimal.toDyadic? x, Decimal.toDyadic? y with
  | some a, some b =>
      if b.significand = 0 then 0.0 / 0.0
      else
        let e := min a.exponent b.exponent
        let r := (a.significand * Nat.pow 2 (a.exponent - e).toNat) %
          (b.significand * Nat.pow 2 (b.exponent - e).toNat)
        let scaled := Decimal.scaleRatio r 1 (-e)
        Decimal.nearest a.negative scaled.1 scaled.2
  | some _, none => if y.isNaN then y else x
  | none, _ => 0.0 / 0.0

/-- The quotient of two floating-point numbers rounded so that the remainder is not negative. -/
def floatQuotient (x y : Float) : Float :=
  let quotient := x / y
  let whole := if quotient < 0 then quotient.ceil else quotient.floor
  if floatRemainder x y < 0 then (if y > 0 then whole - 1 else whole + 1) else whole

/-- The power of integers; the exponent is not negative and below `2 ^ 32`. -/
def intPower (m n : Int) : Option Int :=
  if n < 0 || UInt32.size ≤ n then none
  else if m.natAbs ≤ 1 then some (if n % 2 = 0 then Int.pow m (2 * min n.toNat 1) else m)
  else if 127 < n then none
  else some (Int.pow m n.toNat)

/-- The floating-point number as an integer of 64 signed bits, if that loses nothing. The largest
integer stands for the power of two behind it. -/
def wholeNumber? (x : Float) : Option Int :=
  let n := Decimal.clampedTrunc (-(Nat.pow 2 63)) (Nat.pow 2 63 - 1) x
  if Decimal.ofInt n == x then some n else none

/-- A power by repeated squaring, times a number; the exponent has at most as many binary digits as
the fuel. -/
def squaredPower : Nat → Float → Nat → Float → Float
  | 0, _, _, product => product
  | fuel + 1, base, exponent, product =>
      let product := if exponent % 2 = 1 then product * base else product
      if exponent / 2 = 0 then product
      else squaredPower fuel (base * base) (exponent / 2) product

/-- The power of ten that shifts a number by some decimal places. -/
def decimalShift (places : Int) : Float :=
  let power := squaredPower 64 10.0 places.natAbs 1.0
  if places < 0 then 1.0 / power else power

/-- A number. -/
inductive Number where
  | int (n : Int) (width : Width)
  /-- A floating-point number other than not-a-number. -/
  | float (x : Float)
  | notANumber (negative : Bool)

/-- Two numbers brought to a common form. -/
inductive Operands where
  | ints (a b : Int)
  | floats (a b : Number)

namespace Number

/-- An integer that has been calculated. -/
def ofInt (n : Int) : Number :=
  int n (if Numeral.fitsInt64 n then .signed64 else .signed128)

/-- An integer that has been written down or counted. -/
def ofNat (n : Nat) : Number :=
  int n (if n < Nat.pow 2 64 then .unsigned64 else .unsigned128)

/-- A floating-point number that is given. -/
def ofFloat (x : Float) : Number :=
  if x.isNaN then notANumber false else float x

/-- The result of a calculation with floating-point numbers. -/
def ofResult (x : Float) : Number :=
  if x.isNaN then notANumber true else float x

/-- Cut a floating-point number down to an integer of 128 signed bits. -/
def truncated : Number → Number
  | int n width => int n width
  | float x =>
      int (Decimal.clampedTrunc Width.signed128.least Width.signed128.greatest x) .signed128
  | notANumber _ => int 0 .signed128

/-- The floating-point number that a text is. -/
def readFloat? (text : List Char) : Option Number :=
  (Numeral.readFloat? text).map fun x =>
    if x.isNaN then notANumber (Numeral.splitSign text).1 else float x

/-- The number as the nearest floating-point number. -/
def toFloat : Number → Float
  | int n _ => Decimal.ofInt n
  | float x => x
  | notANumber _ => 0.0 / 0.0

/-- The number as an integer, if it is one in some guise. -/
def int? : Number → Option Int
  | int n _ => some n
  | float x => wholeNumber? x
  | notANumber _ => none

/-- How the number is written, floating-point ones in the given layout. -/
def display (layout : Decimal.Layout) : Number → String
  | int n _ => toString n
  | number => layout.format number.toFloat

/-- Is the number zero? -/
def isZero : Number → Bool
  | int n _ => n == 0
  | float x => x == 0
  | notANumber _ => false

/-- The floating-point number that an integer converts to and that converts back to it. Converting
back stops at the ends of the integer's width. -/
def exactFloat? (n : Int) (width : Width) : Option Float :=
  let x := Decimal.ofInt n
  if Decimal.clampedTrunc width.least width.greatest x = n then some x else none

/-- Compare an integer of a width with a floating-point number. -/
def compareWithFloat (n : Int) (width : Width) (x : Float) : Ordering :=
  match exactFloat? n width with
  | some y => compareFloats y x
  | none => compareExactly n x

/-- The order of numbers. -/
def order : Number → Number → Ordering
  | notANumber p, notANumber q => compare q p
  | notANumber negative, _ => if negative then .lt else .gt
  | _, notANumber negative => if negative then .gt else .lt
  | int m .unsigned128, int n .unsigned128 => compare (signedBits m) (signedBits n)
  | int m _, int n _ => compare m n
  | int m width, float y => compareWithFloat m width y
  | float x, int n width => (compareWithFloat n width x).swap
  | float x, float y => compareFloats x y

/-- Are two numbers equal? Not-a-number differs from itself. -/
def equal (a b : Number) : Bool :=
  match a with
  | notANumber _ => false
  | _ => order a b = .eq

/-- The number as an integer of 128 bits. -/
def int128? (number : Number) : Option Int :=
  number.int?.bind fun n => if fitsInt128 n then some n else none

/-- Bring two numbers to a common form: floating-point numbers as soon as one of them is one,
integers otherwise. -/
def operands? (a b : Number) : Option Operands :=
  match a, b with
  | int m .unsigned128, int n .unsigned128 => some (.ints (signedBits m) (signedBits n))
  | int _ _, int _ _ => do return .ints (← a.int128?) (← b.int128?)
  | _, _ => some (.floats a b)

/-- Calculate with floating-point numbers. Whatever is calculated from not-a-number is that same
not-a-number. -/
def floatResult (calculate : Float → Float → Float) (a b : Number) : Number :=
  match a, b with
  | notANumber negative, _ | _, notANumber negative => notANumber negative
  | _, _ => ofResult (calculate a.toFloat b.toFloat)

/-- The power of floating-point numbers. One to any power is one, and so is anything to the power
of zero. -/
def floatPower (a b : Number) : Number :=
  match a, b with
  | notANumber _, _ => if b.isZero then float 1 else a
  | _, notANumber _ => if a.toFloat == 1 then float 1 else b
  | _, _ => ofResult (Float.pow a.toFloat b.toFloat)

/-- The number with its sign turned, if there is one within 128 bits. The power of two just beyond
the signed range stays as it is. -/
def negate? : Number → Option Number
  | float x => some (float (-x))
  | notANumber negative => some (notANumber !negative)
  | int n width =>
      if n = Nat.pow 2 127 then some (int n width)
      else if fitsInt128 (-n) then some (ofInt (-n)) else none

/-- The absolute value, if there is one. -/
def abs? : Number → Option Number
  | float x => some (float x.abs)
  | notANumber _ => some (notANumber false)
  | int n width =>
      if n.natAbs ≤ width.greatest then some (int n.natAbs width)
      else if width = .signed64 then some (int n.natAbs .signed128)
      else none

/-- Round to a number of decimal places, a half away from zero. -/
def round (places : Int) : Number → Number
  | float x =>
      let scale := decimalShift places
      ofResult ((scale * x).round / scale)
  | number => number

end Number

end RecordRecipe.Expr
