import RecordRecipe.Random.Stream

/-!
# Drawing numbers

Uniform integers, weighted choices and fair coins from the random stream. A uniform draw multiplies
the drawn word by the number of outcomes and takes the high half; words whose low half falls in the
incomplete last stretch are drawn again, so every outcome is equally likely. A draw is made even
when there is only one outcome.
-/

namespace RecordRecipe.Random

/-- How often a word is drawn again before it is taken as it is. More than half of all words are
good, so this many refusals in a row have a chance below `2 ^ -1000`. -/
def patience : Nat := 1000

/-- A source of words of a fixed number of bits. -/
structure Source where
  bits : Nat
  draw : Generator → Nat × Generator

/-- Words of 32 bits. -/
def Source.narrow : Source := ⟨32, fun g => let d := g.draw32; (d.1.toNat, d.2)⟩

/-- Words of 64 bits. -/
def Source.wide : Source := ⟨64, fun g => let d := g.draw64; (d.1.toNat, d.2)⟩

/-- The largest low half that is taken, for `n` outcomes: one less than `n` shifted up to the top
bit of a word. -/
def zone (bits n : Nat) : Nat :=
  n * Nat.pow 2 (bits - 1 - n.log2) - 1

/-- Draw an outcome below `n`, redrawing while the low half lies beyond the zone. -/
def Source.below (source : Source) (n : Nat) : Nat → Generator → Nat × Generator
  | 0, g =>
      let (v, g) := source.draw g
      (v * n / Nat.pow 2 source.bits, g)
  | fuel + 1, g =>
      let (v, g) := source.draw g
      if v * n % Nat.pow 2 source.bits ≤ zone source.bits n then (v * n / Nat.pow 2 source.bits, g)
      else source.below n fuel g

/-- Draw an integer between two bounds, both included. When every word is an outcome the word is
taken directly, wrapping around beyond the signed range. -/
def Source.between (source : Source) (lo hi : Int) (g : Generator) : Int × Generator :=
  let n := (hi - lo + 1).toNat
  if n = Nat.pow 2 source.bits then
    let (v, g) := source.draw g
    (Int.bmod v (Nat.pow 2 source.bits), g)
  else
    let (v, g) := source.below n patience g
    (lo + v, g)

/-- Draw a 64-bit integer between two bounds. -/
def between64 (lo hi : Int) (g : Generator) : Int × Generator :=
  Source.wide.between lo hi g

/-- Draw a 32-bit integer between two bounds. -/
def between32 (lo hi : Int) (g : Generator) : Int × Generator :=
  Source.narrow.between lo hi g

/-- Draw a position below `count` with 64-bit words. -/
def index (count : Nat) (g : Generator) : Nat × Generator :=
  Source.wide.below count patience g

/-- Draw an item of a list with 32-bit words; an empty list gives the fallback and draws nothing. -/
def pick {α : Type} (items : List α) (fallback : α) (g : Generator) : α × Generator :=
  if items.isEmpty then (fallback, g)
  else
    let (i, g) := Source.narrow.below items.length patience g
    (items.getD i fallback, g)

/-- A fair coin. -/
def coin (g : Generator) : Bool × Generator :=
  let (v, g) := g.draw64
  (v.toNat < Nat.pow 2 63, g)

/-- The width of the range that numbers below a positive total are scaled to. Where the largest
fraction of the total would round up to the total itself, as it does for the smallest numbers, it is
the next smaller number. -/
def scaleBelow (total : Float) : Float :=
  let largest := 4503599627370495.0 / 4503599627370496.0
  if total * largest < total then total else Float.ofBits (total.toBits - 1)

/-- A number in `[0, total)` with 52 random bits. -/
def fraction (total : Float) (g : Generator) : Float × Generator :=
  let (v, g) := g.draw64
  (((v >>> 12).toFloat / 4503599627370496.0) * scaleBelow total, g)

/-- The running totals of weights, the first weight first. -/
def runningTotals (sum : Float) : List Float → List Float
  | [] => []
  | weight :: rest => (sum + weight) :: runningTotals (sum + weight) rest

/-- The sum of weights, added from left to right. -/
def totalWeight : List Float → Float
  | [] => 0
  | first :: rest => rest.foldl (· + ·) first

/-- The running totals of weights without the last. -/
def innerTotals : List Float → List Float
  | [] => []
  | first :: rest => (first :: runningTotals first rest).dropLast

/-- Draw a position with the given weights: the number of running totals, the last one apart, that
the drawn number has reached. -/
def weighted (weights : List Float) (g : Generator) : Nat × Generator :=
  let (x, g) := fraction (totalWeight weights) g
  (((innerTotals weights).takeWhile (· ≤ x)).length, g)

end RecordRecipe.Random
