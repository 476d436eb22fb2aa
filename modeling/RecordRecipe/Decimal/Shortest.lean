import RecordRecipe.Decimal.Nearest

/-!
# Shortest decimal digits

The fewest decimal digits that read back as a given floating-point number, nearest to its value
among those. The reals that round to a number form an interval (with its ends exactly when the
significand is even). For one digit, two digits and so on, the two neighbours of the value on that
decimal grid are tested against the interval, and the first grid with a hit wins.
-/

namespace RecordRecipe.Decimal

/-- The number `digits * 10 ^ exponent`. -/
structure Scaled where
  digits : Nat
  exponent : Int
deriving DecidableEq, Repr

/-- The reals `lo / den` to `hi / den` that round to the number `value / den`. -/
structure Interval where
  value : Nat
  lo : Nat
  hi : Nat
  den : Nat
  closed : Bool

/-- The rounding interval of a positive significand and exponent. Below a power of two the
neighbours lie half as far apart. -/
def Interval.ofDyadic (significand : Nat) (exponent : Int) : Interval :=
  let below := if significand = Nat.pow 2 52 ∧ -1074 < exponent then 1 else 2
  let e := exponent - 2
  let up := if 0 ≤ e then Nat.pow 2 e.toNat else 1
  { value := 4 * significand * up
    lo := (4 * significand - below) * up
    hi := (4 * significand + 2) * up
    den := if 0 ≤ e then 1 else Nat.pow 2 (-e).toNat
    closed := significand % 2 = 0 }

/-- Compare `c * 10 ^ g` with `bound / den`. -/
def compareGrid (c : Nat) (g : Int) (bound den : Nat) : Ordering :=
  if 0 ≤ g then compare (c * Nat.pow 10 g.toNat * den) bound
  else compare (c * den) (bound * Nat.pow 10 (-g).toNat)

/-- Does the point `c * 10 ^ g` of a decimal grid lie in the interval? -/
def Interval.holds (i : Interval) (c : Nat) (g : Int) : Bool :=
  match compareGrid c g i.lo i.den, compareGrid c g i.hi i.den with
  | .gt, .lt => true
  | .eq, _ => i.closed
  | _, .eq => i.closed
  | _, _ => false

/-- The grid point at or below the value. -/
def Interval.below (i : Interval) (g : Int) : Nat :=
  if 0 ≤ g then i.value / (i.den * Nat.pow 10 g.toNat) else i.value * Nat.pow 10 (-g).toNat / i.den

/-- Is the lower of two neighbouring grid points at least as near to the value as the upper? -/
def Interval.lowerIsNearer (i : Interval) (c : Nat) (g : Int) : Bool :=
  if 0 ≤ g then 2 * i.value ≤ (2 * c + 1) * Nat.pow 10 g.toNat * i.den
  else 2 * i.value * Nat.pow 10 (-g).toNat ≤ (2 * c + 1) * i.den

/-- The better neighbour of the value on one grid, if one lies in the interval. -/
def Interval.hit? (i : Interval) (g : Int) : Option Nat :=
  let c := i.below g
  match i.holds c g && c != 0, i.holds (c + 1) g with
  | true, true => some (if i.lowerIsNearer c g then c else c + 1)
  | true, false => some c
  | false, true => some (c + 1)
  | false, false => none

/-- How many of the next powers of ten are needed to lift a ratio to one, counted by fuel. -/
def leadingZeros (value den : Nat) : Nat → Nat
  | 0 => 0
  | fuel + 1 => if den ≤ value then 0 else 1 + leadingZeros (value * 10) den fuel

/-- The least `p` for which the value is below `10 ^ p`. -/
def Interval.magnitude (i : Interval) : Int :=
  if i.den ≤ i.value then ((Nat.toDigits 10 (i.value / i.den)).length : Int)
  else 1 - (leadingZeros i.value i.den 400 : Int)

/-- The first hit on the grids of `count`, `count + 1`, … digits. -/
def Interval.search (i : Interval) (p : Int) (count : Nat) : Nat → Scaled
  | 0 => ⟨i.below (p - count), p - count⟩
  | fuel + 1 =>
      match i.hit? (p - count) with
      | some c => ⟨c, p - count⟩
      | none => i.search p (count + 1) fuel

/-- Move the zeros at the end of the digits into the exponent. -/
def Scaled.strip (s : Scaled) : Nat → Scaled
  | 0 => s
  | fuel + 1 =>
      if s.digits % 10 = 0 ∧ s.digits ≠ 0 then Scaled.strip ⟨s.digits / 10, s.exponent + 1⟩ fuel
      else s

/-- The shortest digits of a positive significand and exponent. -/
def shortest (significand : Nat) (exponent : Int) : Scaled :=
  let i := Interval.ofDyadic significand exponent
  (i.search i.magnitude 1 17).strip 20

end RecordRecipe.Decimal
