import RecordRecipe.Expr.Value
import RecordRecipe.Proofs.Decimal.Rounded
import RecordRecipe.Proofs.Numeral

/-!
# Values between fields and expressions

A field's value becomes a value of expressions and comes back. A number comes back as an integer
wherever it is equal to one of 64 signed bits; the greatest of them is taken for equal to the power
of two behind it. So a float changes its kind if and only if its exact value is such an integer, and
every other value comes back as it was: `Value.toField_ofField_iff`.
-/

namespace RecordRecipe

/-- The exact value of a float is an integer of 64 signed bits, or the power of two behind them. -/
structure IsWhole (x : Float) (n : Int) : Prop where
  value : Decimal.value? x = some (n : ℚ)
  range : -2 ^ 63 ≤ n ∧ n ≤ 2 ^ 63

namespace Expr

variable {x : Float} {n : Int}

/-- A whole float is taken for its value, as far as that fits 64 signed bits. -/
theorem wholeNumber?_of_isWhole (h : IsWhole x n) :
    wholeNumber? x = some (min n (2 ^ 63 - 1)) := by
  obtain ⟨hvalue, hlower, hupper⟩ := h
  have htrunc : Decimal.clampedTrunc (-(Nat.pow 2 63)) (Nat.pow 2 63 - 1) x =
      min n (2 ^ 63 - 1) := by
    rw [Decimal.clampedTrunc_of_value? hvalue]
    change max (-2 ^ 63) (min (2 ^ 63 - 1) n) = _
    omega
  have hsame : (Decimal.ofInt (min n (2 ^ 63 - 1)) == x) = true := by
    rw [Decimal.ofInt_beq_iff (by omega)]
    obtain hless | rfl := hupper.lt_or_eq
    · have hmin : min n (2 ^ 63 - 1) = n := by omega
      rw [hmin, Decimal.rounded_of_value? hvalue, Int.sign_mul_natAbs]
      exact hvalue
    · -- The greatest integer is rounded up.
      have hrounded : (min (2 ^ 63) (2 ^ 63 - 1) : Int).sign *
          Decimal.rounded (min (2 ^ 63) (2 ^ 63 - 1) : Int).natAbs = 2 ^ 63 := by
        decide
      rw [hrounded]
      exact hvalue
  unfold wholeNumber?
  dsimp only
  rw [htrunc, if_pos hsame]

/-- A float that is taken for an integer is whole. -/
theorem isWhole_of_wholeNumber? {found : Int} (h : wholeNumber? x = some found) :
    ∃ n, IsWhole x n := by
  unfold wholeNumber? at h
  dsimp only at h
  split_ifs at h with hsame
  have hlo : -(Nat.pow 2 63 : Int) ≤ 0 := by decide
  have hhi : (0 : Int) ≤ Nat.pow 2 63 - 1 := by decide
  obtain ⟨hlower, hupper⟩ := Decimal.clampedTrunc_mem hlo hhi x
  generalize Decimal.clampedTrunc _ _ x = k at hsame hlower hupper
  have hk : k.natAbs ≤ 2 ^ 63 := by
    change -2 ^ 63 ≤ k at hlower
    change k ≤ 2 ^ 63 - 1 at hupper
    omega
  have hround := Decimal.rounded_le hk
  rw [Decimal.ofInt_beq_iff hk] at hsame
  refine ⟨_, hsame, ?_⟩
  obtain hneg | rfl | hpos := lt_trichotomy k 0
  · rw [Int.sign_eq_neg_one_of_neg hneg]
    omega
  · decide
  · rw [Int.sign_eq_one_of_pos hpos]
    omega

namespace Value

/-- A float that is not whole comes back from expressions. -/
theorem toField_ofField_float (h : ∀ n, ¬ IsWhole x n) :
    (ofField (.float x)).toField = .ok (.float x) := by
  have hwhole : wholeNumber? x = none := by
    cases hfound : wholeNumber? x with
    | none => rfl
    | some found =>
        obtain ⟨n, hn⟩ := isWhole_of_wholeNumber? hfound
        exact absurd hn (h n)
  change (number (Number.ofFloat x)).toField = _
  unfold Number.ofFloat
  split_ifs with hnan
  · have hquotient : (0.0 / 0.0 : Float).isNaN = true := by decide
    rw [Float.isNaN_eq_decide_eq_nan, decide_eq_true_eq] at hnan hquotient
    rw [hnan, ← hquotient]
    rfl
  · unfold toField Number.int?
    dsimp only
    rw [hwhole]
    rfl

/-- A whole float comes back as an integer. -/
theorem toField_ofField_whole (h : IsWhole x n) :
    (ofField (.float x)).toField = .ok (.ofInt (min n (2 ^ 63 - 1))) := by
  obtain ⟨v, hv, -⟩ := Option.map_eq_some_iff.mp h.value
  have hnan : x.isNaN = false := by
    rw [Float.isNaN_eq_decide_eq_nan, decide_eq_false (Decimal.ne_nan_of_toDyadic? hv)]
  have hfits : Numeral.fitsInt64 (min n (2 ^ 63 - 1)) = true :=
    Numeral.fitsInt64_iff.mpr (by have := h.range; omega)
  change (number (Number.ofFloat x)).toField = _
  unfold Number.ofFloat
  rw [if_neg (by rw [hnan]; exact Bool.false_ne_true)]
  unfold toField Number.int?
  dsimp only
  rw [wholeNumber?_of_isWhole h]
  dsimp only
  rw [if_pos hfits]

/-- A value comes back from expressions if and only if it is no whole float. -/
theorem toField_ofField_iff (value : FieldValue) :
    (ofField value).toField = .ok value ↔ ∀ x, value = .float x → ∀ n, ¬ IsWhole x n := by
  cases value with
  | null | bool | text | date | moment | row => exact ⟨fun _ => nofun, fun _ => rfl⟩
  | int n =>
      refine ⟨fun _ => nofun, fun _ => ?_⟩
      have hfits : Numeral.fitsInt64 n.toInt = true :=
        Numeral.fitsInt64_iff.mpr ⟨n.le_toInt, n.toInt_lt⟩
      change Except.ok (if Numeral.fitsInt64 n.toInt then FieldValue.ofInt n.toInt else _) = _
      rw [if_pos hfits, FieldValue.ofInt, Int64.ofInt_toInt]
  | float x =>
      constructor
      · rintro hback _ ⟨⟩ n hn
        rw [toField_ofField_whole hn] at hback
        cases hback
      · exact fun h => toField_ofField_float (h x rfl)

end Value

end Expr

end RecordRecipe
