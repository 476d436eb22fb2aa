/-!
# Nearest binary floating-point values

The 64-bit floating-point number nearest to a ratio of natural numbers, a tie going to the even
significand. All arithmetic is exact.
-/

namespace RecordRecipe.Decimal

/-- Divide and round to the nearest integer, a half going to the even neighbour. -/
def roundDiv (n d : Nat) : Nat :=
  let q := n / d
  let r := n % d
  if 2 * r < d then q
  else if d < 2 * r then q + 1
  else q + q % 2

/-- The bits of positive infinity. -/
def infinityBits : Nat := 0x7FF0000000000000

/-- A ratio scaled by a power of two: `n / d = n' / d' * 2 ^ e`. -/
def scaleRatio (n d : Nat) (e : Int) : Nat × Nat :=
  if 0 ≤ e then (n, d * Nat.pow 2 e.toNat) else (n * Nat.pow 2 (-e).toNat, d)

/-- The bits of the floating-point number nearest to the ratio `n / d`. -/
def nearestBits (n d : Nat) : Nat :=
  if n = 0 ∨ d = 0 then 0
  else
    let guess : Int := max ((n.log2 : Int) - (d.log2 : Int) - 53) (-1074)
    let scaled := scaleRatio n d guess
    let e := if Nat.pow 2 53 * scaled.2 ≤ scaled.1 then guess + 1 else guess
    let scaled := scaleRatio n d e
    let m := roundDiv scaled.1 scaled.2
    let bits : Int := if m < Nat.pow 2 52 then m else (e + 1075) * Nat.pow 2 52 + (m - Nat.pow 2 52)
    min bits.toNat infinityBits

/-- The floating-point number nearest to a signed ratio. -/
def nearest (negative : Bool) (n d : Nat) : Float :=
  Float.ofBits (UInt64.ofNat (nearestBits n d + if negative then Nat.pow 2 63 else 0))

/-- The floating-point number nearest to an integer. -/
def ofInt (n : Int) : Float :=
  nearest (n < 0) n.natAbs 1

/-- The floating-point number nearest to `digits * 10 ^ exponent`. The bounds on the order of
magnitude keep the exact arithmetic small; beyond them the answer is infinity or zero anyway. -/
def nearestDecimal (negative : Bool) (digits : Nat) (exponent : Int) : Float :=
  let magnitude : Int := (Nat.toDigits 10 digits).length + exponent
  if digits = 0 then nearest negative 0 1
  else if 400 < magnitude then
    Float.ofBits (UInt64.ofNat (infinityBits + if negative then Nat.pow 2 63 else 0))
  else if magnitude < -400 then nearest negative 0 1
  else if 0 ≤ exponent then nearest negative (digits * Nat.pow 10 exponent.toNat) 1
  else nearest negative digits (Nat.pow 10 (-exponent).toNat)

/-- A finite floating-point number as a signed significand and a power of two. -/
structure Dyadic where
  negative : Bool
  significand : Nat
  exponent : Int

/-- The exact value of a finite number; the infinities and not-a-number have none. -/
def toDyadic? (x : Float) : Option Dyadic :=
  let bits := x.toBits.toNat
  let field : Nat := bits / Nat.pow 2 52 % Nat.pow 2 11
  let fraction : Nat := bits % Nat.pow 2 52
  let negative := decide (Nat.pow 2 63 ≤ bits)
  if field = 2047 then none
  else if field = 0 then some ⟨negative, fraction, -1074⟩
  else some ⟨negative, fraction + Nat.pow 2 52, (field : Int) - 1075⟩

/-- The integer part of a number, rounded toward zero and held between two bounds. An infinity
gives the bound on its side and not-a-number gives zero. -/
def clampedTrunc (lo hi : Int) (x : Float) : Int :=
  match toDyadic? x with
  | none => if x.isNaN then 0 else if x < 0 then lo else hi
  | some v =>
      let size : Nat :=
        if 0 ≤ v.exponent then v.significand * Nat.pow 2 v.exponent.toNat
        else v.significand / Nat.pow 2 (-v.exponent).toNat
      max lo (min hi (if v.negative then -(size : Int) else size))

end RecordRecipe.Decimal
