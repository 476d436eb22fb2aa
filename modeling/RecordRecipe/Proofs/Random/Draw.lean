import Mathlib.Algebra.Ring.Int.Defs
import Mathlib.Algebra.Ring.Nat
import RecordRecipe.Random.Draw

/-!
# Drawn numbers stay between their bounds

A word is scaled down to one of the outcomes, whether it is the first word that is drawn, a later
one, or the last one that patience allows. `Source.between_mem` says that a number drawn between two
signed bounds lies between them, also where there are as many outcomes as words and a word is taken
as it is.
-/

namespace RecordRecipe.Random

variable {source : Source} {n bits : Nat} {lo hi : Int}

/-- No word of a source has more bits than the source says. -/
def Source.Bounded (source : Source) : Prop :=
  ∀ g, (source.draw g).1 < 2 ^ source.bits

theorem Source.wide_bounded : Source.wide.Bounded :=
  fun g => g.draw64.1.toNat_lt

/-- A word that is scaled down to a number of outcomes is one of them. -/
theorem scaled_lt {v : Nat} (hv : v < 2 ^ bits) (hn : 0 < n) : v * n / Nat.pow 2 bits < n := by
  have hmul : v * n < Nat.pow 2 bits * n := Nat.mul_lt_mul_of_pos_right hv hn
  exact Nat.div_lt_of_lt_mul hmul

/-- An outcome is drawn, however often the word is drawn again. -/
theorem Source.below_lt (h : source.Bounded) (hn : 0 < n) (fuel : Nat) (g : Generator) :
    (source.below n fuel g).1 < n := by
  induction fuel generalizing g with
  | zero => exact scaled_lt (h g) hn
  | succ fuel ih =>
      unfold below
      dsimp only
      split
      · exact scaled_lt (h g) hn
      · exact ih _

/-- A number drawn between two bounds lies between them, for bounds that are signed words. -/
theorem Source.between_mem (h : source.Bounded) (hbits : source.bits = bits + 1)
    (hlo : -2 ^ bits ≤ lo) (hle : lo ≤ hi) (hhi : hi < 2 ^ bits) (g : Generator) :
    lo ≤ (source.between lo hi g).1 ∧ (source.between lo hi g).1 ≤ hi := by
  have hsize : ((Nat.pow 2 source.bits : Nat) : Int) = 2 * 2 ^ bits := by
    rw [hbits, Nat.pow_eq, Nat.pow_succ']
    push_cast
    rfl
  have hpos : 0 < Nat.pow 2 source.bits := Nat.two_pow_pos source.bits
  unfold between
  dsimp only
  split
  next hall =>
    -- Every word is an outcome, so that the bounds are the least and the greatest signed word.
    have hleast := Int.le_bmod (x := (source.draw g).1) hpos
    have hmost := Int.bmod_lt (x := (source.draw g).1) hpos
    change lo ≤ Int.bmod (source.draw g).1 _ ∧ Int.bmod (source.draw g).1 _ ≤ hi
    omega
  next =>
    have hdrawn := below_lt h (n := (hi - lo + 1).toNat) (by omega) patience g
    omega

/-- A 64-bit integer drawn between two bounds lies between them. -/
theorem between64_mem (hlo : -2 ^ 63 ≤ lo) (hle : lo ≤ hi) (hhi : hi < 2 ^ 63) (g : Generator) :
    lo ≤ (between64 lo hi g).1 ∧ (between64 lo hi g).1 ≤ hi :=
  Source.wide.between_mem Source.wide_bounded rfl hlo hle hhi g

end RecordRecipe.Random
