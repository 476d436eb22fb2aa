/-!
# Ranges of characters

Properties of characters over all scripts are given by ranges of character codes.
-/

namespace RecordRecipe.Text

/-- The first and the last code of a run of characters. -/
abbrev CodeRange := Nat × Nat

/-- Does a character lie in one of some ranges? -/
def inRanges (ranges : List CodeRange) (c : Char) : Bool :=
  ranges.any fun range => range.1 ≤ c.toNat && c.toNat ≤ range.2

end RecordRecipe.Text
