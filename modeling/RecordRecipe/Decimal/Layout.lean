import RecordRecipe.Decimal.Shortest

/-!
# Laying out floating-point numbers

The ways in which this library writes the shortest digits of a number: as a field's text, in
expression text, inside a list of it, and in a JSON document.
-/

namespace RecordRecipe.Decimal

/-- The format decisions of one way of writing floating-point numbers. -/
structure Layout where
  /-- Is an integral value written with `.0`? -/
  pointZero : Bool
  /-- From this decimal exponent on an exponent is written. -/
  exponentFrom : Option Int
  /-- Below this decimal exponent an exponent is written. -/
  exponentBelow : Option Int
  /-- Is a plus sign written in front of an exponent that is not negative? -/
  exponentPlus : Bool
  nan : String
  infinity : String
  negativeInfinity : String

/-- Text of a field: digits without an exponent and without `.0`. -/
def Layout.field : Layout := ⟨false, none, none, true, "NaN", "inf", "-inf"⟩

/-- Text inside expressions: digits without an exponent, with `.0` on integral values. -/
def Layout.expression : Layout := ⟨true, none, none, true, "NaN", "inf", "-inf"⟩

/-- Text inside a list of expression text: an exponent from `1e16` on and below `0.0001`. -/
def Layout.nested : Layout := ⟨true, some 16, some (-4), false, "NaN", "inf", "-inf"⟩

/-- Numbers of a JSON document: an exponent from `1e+16` on and below `0.00001`. What is not
finite is `null`. -/
def Layout.json : Layout := ⟨true, some 16, some (-5), true, "null", "null", "null"⟩

/-- Digits with a point `places` digits from the left, zeros filling what is missing. -/
def positional (pointZero : Bool) (digits : List Char) (places : Int) : List Char :=
  if places ≤ 0 then '0' :: '.' :: (List.replicate (-places).toNat '0' ++ digits)
  else
    let whole := places.toNat
    if digits.length ≤ whole then
      digits ++ List.replicate (whole - digits.length) '0' ++ (if pointZero then ['.', '0'] else [])
    else digits.take whole ++ '.' :: digits.drop whole

/-- Digits with one place before the point and an exponent. -/
def scientific (plus : Bool) (digits : List Char) (exponent : Int) : List Char :=
  let mantissa := match digits with
    | [] => ['0']
    | [d] => [d]
    | d :: rest => d :: '.' :: rest
  let sign := if exponent < 0 then ['-'] else if plus then ['+'] else []
  mantissa ++ 'e' :: (sign ++ Nat.toDigits 10 exponent.natAbs)

/-- The text of a positive finite number. -/
def Layout.magnitude (layout : Layout) (s : Scaled) : List Char :=
  let digits := Nat.toDigits 10 s.digits
  let places : Int := digits.length + s.exponent
  let large := layout.exponentFrom.any (fun bound => decide (bound ≤ places - 1))
  let small := layout.exponentBelow.any (fun bound => decide (places - 1 < bound))
  if large || small then scientific layout.exponentPlus digits (places - 1)
  else positional layout.pointZero digits places

/-- The text of a floating-point number. -/
def Layout.format (layout : Layout) (x : Float) : String :=
  match toDyadic? x with
  | none =>
      if x.isNaN then layout.nan
      else if x < 0 then layout.negativeInfinity
      else layout.infinity
  | some v =>
      let body :=
        if v.significand = 0 then (if layout.pointZero then ['0', '.', '0'] else ['0'])
        else layout.magnitude (shortest v.significand v.exponent)
      String.ofList (if v.negative then '-' :: body else body)

end RecordRecipe.Decimal
