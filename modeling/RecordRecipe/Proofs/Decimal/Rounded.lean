import RecordRecipe.Proofs.Decimal.Exact
import Mathlib.Tactic.Ring

/-!
# The numbers nearest to integers

The number nearest to an integer of 64 bits is the integer rounded to 53 binary digits, which is an
integer again. An integer that some number has as its value is not rounded. The integer part of such
a number is that integer: `clampedTrunc_of_value?`.
-/

namespace RecordRecipe.Decimal

/-! ## Rounding -/

theorem roundDiv_mul (n : Nat) {d : Nat} (h : 0 < d) : roundDiv (n * d) d = n := by
  have hrest : n * d % d = 0 := Nat.mul_mod_left n d
  unfold roundDiv
  dsimp only
  rw [hrest, if_pos (by omega), Nat.mul_div_cancel n h]

theorem roundDiv_one (n : Nat) : roundDiv n 1 = n := by
  have h := roundDiv_mul n Nat.one_pos
  rwa [Nat.mul_one] at h

theorem div_le_roundDiv (n d : Nat) : n / d ≤ roundDiv n d := by
  unfold roundDiv
  dsimp only
  split_ifs <;> omega

theorem roundDiv_le_succ (n d : Nat) : roundDiv n d ≤ n / d + 1 := by
  unfold roundDiv
  dsimp only
  split_ifs <;> omega

/-- An integer rounded to 53 binary digits. -/
def rounded (n : Nat) : Nat :=
  roundDiv n (2 ^ (n.log2 - 52)) * 2 ^ (n.log2 - 52)

theorem log2_mul_two_pow {m : Nat} (h : 0 < m) (k : Nat) : (m * 2 ^ k).log2 = m.log2 + k := by
  have hlow := Nat.log2_self_le (Nat.ne_of_gt h)
  have hhigh : m < 2 ^ (m.log2 + 1) := Nat.lt_log2_self
  refine (Nat.log2_eq_iff (Nat.mul_ne_zero (by omega) (by positivity))).mpr ⟨?_, ?_⟩
  · rw [Nat.pow_add]
    exact Nat.mul_le_mul_right _ hlow
  · rw [Nat.add_right_comm, Nat.pow_add]
    exact Nat.mul_lt_mul_of_pos_right hhigh (Nat.two_pow_pos k)

/-- An integer that has 53 binary digits at most, but for zeros behind them, is not rounded. -/
theorem rounded_of_short {m k : Nat} (h : m < 2 ^ 53) : rounded (m * 2 ^ k) = m * 2 ^ k := by
  obtain rfl | hm := Nat.eq_zero_or_pos m
  · simp [rounded, roundDiv]
  · have hlog := log2_mul_two_pow hm k
    have hshort : m.log2 < 53 := (Nat.log2_lt (by omega)).mpr h
    have hsplit : 2 ^ k = 2 ^ (k - ((m.log2 + k) - 52)) * 2 ^ ((m.log2 + k) - 52) := by
      rw [← Nat.pow_add]
      congr 1
      omega
    unfold rounded
    rw [hlog, hsplit, ← Nat.mul_assoc, roundDiv_mul _ (Nat.two_pow_pos _)]

/-- The significand of the number nearest to an integer; one with a digit too much stands for the power
of two. -/
def nearestSignificand (n : Nat) : Nat :=
  if n.log2 < 52 then n * 2 ^ (52 - n.log2) else roundDiv n (2 ^ (n.log2 - 52))

theorem nearestSignificand_bounds {n : Nat} (h : 0 < n) :
    2 ^ 52 ≤ nearestSignificand n ∧ nearestSignificand n ≤ 2 ^ 53 := by
  have hlow := Nat.log2_self_le (Nat.ne_of_gt h)
  have hhigh : n < 2 ^ (n.log2 + 1) := Nat.lt_log2_self
  unfold nearestSignificand
  split_ifs with hshort
  · have hfull : 2 ^ 52 = 2 ^ n.log2 * 2 ^ (52 - n.log2) := by
      rw [← Nat.pow_add]
      congr 1
      omega
    have hover : 2 ^ 53 = 2 ^ (n.log2 + 1) * 2 ^ (52 - n.log2) := by
      rw [← Nat.pow_add]
      congr 1
      omega
    rw [hfull, hover]
    exact ⟨Nat.mul_le_mul_right _ hlow, Nat.mul_le_mul_right _ hhigh.le⟩
  · have hfull : 2 ^ 52 * 2 ^ (n.log2 - 52) = 2 ^ n.log2 := by
      rw [← Nat.pow_add]
      congr 1
      omega
    have hover : 2 ^ 53 * 2 ^ (n.log2 - 52) = 2 ^ (n.log2 + 1) := by
      rw [← Nat.pow_add]
      congr 1
      omega
    have hle : 2 ^ 52 ≤ n / 2 ^ (n.log2 - 52) :=
      (Nat.le_div_iff_mul_le (Nat.two_pow_pos _)).mpr (hfull ▸ hlow)
    have hlt : n / 2 ^ (n.log2 - 52) < 2 ^ 53 :=
      (Nat.div_lt_iff_lt_mul (Nat.two_pow_pos _)).mpr (hover ▸ hhigh)
    have hdown := div_le_roundDiv n (2 ^ (n.log2 - 52))
    have hup := roundDiv_le_succ n (2 ^ (n.log2 - 52))
    omega

/-- The exponent that is tried first for an integer leaves it a digit too much. -/
theorem two_pow_mul_scaleRatio_le {n : Nat} (h : 0 < n) :
    Nat.pow 2 53 * (scaleRatio n 1 ((n.log2 : Int) - 53)).2 ≤
      (scaleRatio n 1 ((n.log2 : Int) - 53)).1 := by
  have hlow := Nat.log2_self_le (Nat.ne_of_gt h)
  unfold scaleRatio
  split_ifs with hsign
  · have hpower : Nat.pow 2 53 * (1 * Nat.pow 2 ((n.log2 : Int) - 53).toNat) = 2 ^ n.log2 := by
      change 2 ^ 53 * (1 * 2 ^ _) = _
      rw [Nat.one_mul, ← Nat.pow_add]
      congr 1
      omega
    exact hpower ▸ hlow
  · have hpower : Nat.pow 2 53 * 1 = 2 ^ n.log2 * 2 ^ (-((n.log2 : Int) - 53)).toNat := by
      rw [← Nat.pow_add, Nat.mul_one]
      change 2 ^ 53 = _
      congr 1
      omega
    exact hpower ▸ Nat.mul_le_mul_right _ hlow

/-- With the exponent behind it, the integer is rounded to its significand. -/
theorem roundDiv_scaleRatio (n : Nat) :
    roundDiv (scaleRatio n 1 ((n.log2 : Int) - 52)).1 (scaleRatio n 1 ((n.log2 : Int) - 52)).2 =
      nearestSignificand n := by
  unfold scaleRatio nearestSignificand
  split_ifs
  · omega
  · have hplaces : ((n.log2 : Int) - 52).toNat = n.log2 - 52 := by omega
    dsimp only
    rw [Nat.one_mul, hplaces]
    rfl
  · have hplaces : (-((n.log2 : Int) - 52)).toNat = 52 - n.log2 := by omega
    dsimp only
    rw [hplaces, roundDiv_one]
    rfl
  · omega

/-- The bits of the number nearest to an integer, by the length of the integer. -/
theorem nearestBits_one {n : Nat} (hpos : 0 < n) (hle : n ≤ 2 ^ 63) :
    nearestBits n 1 = (n.log2 + 1022) * 2 ^ 52 + nearestSignificand n := by
  have hlog : n.log2 < 64 := (Nat.log2_lt (by omega)).mpr (by omega)
  have hone : Nat.log2 1 = 0 := by decide
  have hguess : max ((n.log2 : Int) - ((0 : Nat) : Int) - 53) (-1074) = n.log2 - 53 := by omega
  have hexponent : (n.log2 : Int) - 53 + 1 = n.log2 - 52 := by omega
  have hpower : Nat.pow 2 52 = 2 ^ 52 := rfl
  obtain ⟨hlong, hshort⟩ := nearestSignificand_bounds hpos
  unfold nearestBits
  rw [if_neg (by omega)]
  dsimp only
  rw [hone, hguess, if_pos (two_pow_mul_scaleRatio_le hpos), hexponent, roundDiv_scaleRatio,
    hpower, if_neg (by omega)]
  unfold infinityBits
  omega

/-- The value of a number that has the most digits, by the fields of its bits. -/
theorem value_of_fields {field fraction : Nat} (negative : Bool) (hpos : 0 < field)
    (hfield : field < 2047) (hfraction : fraction < 2 ^ 52) :
    (dyadicOfBits? (field * 2 ^ 52 + fraction + if negative then 2 ^ 63 else 0)).map Dyadic.value =
      some ((if negative then -1 else 1) *
        (((fraction + 2 ^ 52 : Nat) : ℚ) * 2 ^ ((field : Int) - 1075))) := by
  have hsign : 2 ^ 63 ≤ (field * 2 ^ 52 + fraction + if negative then 2 ^ 63 else 0) ↔
      negative = true := by
    cases negative with
    | true => simp
    | false => simp only [Bool.false_eq_true, if_false, iff_false]; omega
  have hexponent : (field * 2 ^ 52 + fraction + if negative then 2 ^ 63 else 0) / 2 ^ 52 % 2 ^ 11 =
      field := by
    cases negative <;> simp only [Bool.false_eq_true, if_false, if_true] <;> omega
  have hrest : (field * 2 ^ 52 + fraction + if negative then 2 ^ 63 else 0) % 2 ^ 52 = fraction := by
    cases negative <;> simp only [Bool.false_eq_true, if_false, if_true] <;> omega
  unfold dyadicOfBits?
  rw [hexponent, hrest, if_neg (by omega), if_neg (by omega)]
  simp only [Option.map_some, Dyadic.value, hsign, decide_eq_true_eq]

/-- A significand with a digit too much carries into the exponent. -/
theorem value_of_bits (field : Nat) {m : Nat} (negative : Bool) (hlong : 2 ^ 52 ≤ m)
    (hshort : m ≤ 2 ^ 53) (hfield : field + 1 < 2046) :
    (dyadicOfBits? (field * 2 ^ 52 + m + if negative then 2 ^ 63 else 0)).map Dyadic.value =
      some ((if negative then -1 else 1) * (m * 2 ^ ((field : Int) - 1074)) : ℚ) := by
  obtain hm | rfl := hshort.lt_or_eq
  · have hbits : field * 2 ^ 52 + m = (field + 1) * 2 ^ 52 + (m - 2 ^ 52) := by omega
    have hexponent : ((field + 1 : Nat) : Int) - 1075 = field - 1074 := by omega
    rw [hbits, value_of_fields negative (by omega) (by omega) (by omega), Nat.sub_add_cancel hlong,
      hexponent]
  · have hbits : field * 2 ^ 52 + 2 ^ 53 = (field + 2) * 2 ^ 52 + 0 := by omega
    have hexponent : ((field + 2 : Nat) : Int) - 1075 = 1 + (field - 1074) := by omega
    rw [hbits, value_of_fields negative (by omega) (by omega) (by omega), hexponent,
      zpow_one_add₀ (by norm_num)]
    congr 2
    push_cast
    ring

/-- The significand and the exponent of the number nearest to an integer are the rounded integer. -/
theorem nearestSignificand_mul (n : Nat) :
    (nearestSignificand n : ℚ) * 2 ^ ((n.log2 : Int) - 52) = rounded n := by
  unfold nearestSignificand rounded
  split_ifs with hshort
  · have hplaces : n.log2 - 52 = 0 := by omega
    have hcancel : (2 : ℚ) ^ (52 - n.log2) * 2 ^ ((n.log2 : Int) - 52) = 1 := by
      rw [← zpow_natCast, ← zpow_add₀ (by norm_num), Nat.cast_sub hshort.le]
      simp
    rw [hplaces, pow_zero, roundDiv_one, Nat.mul_one]
    push_cast
    rw [mul_assoc, hcancel, mul_one]
  · have hplaces : (n.log2 : Int) - 52 = ((n.log2 - 52 : Nat) : Int) := by omega
    rw [hplaces, zpow_natCast]
    push_cast
    rfl

/-- The number nearest to an integer has the rounded integer as its value. -/
theorem value?_ofInt {n : Int} (h : n.natAbs ≤ 2 ^ 63) :
    value? (ofInt n) = some ((n.sign * rounded n.natAbs : Int) : ℚ) := by
  obtain rfl | hne := eq_or_ne n 0
  · have hzero : toDyadic? (ofInt 0) = some ⟨false, 0, -1074⟩ := toDyadic?_ofBits rfl
    simp [value?, hzero, Dyadic.value]
  · have hpos : 0 < n.natAbs := Int.natAbs_pos.mpr hne
    have hlog : n.natAbs.log2 < 64 := (Nat.log2_lt (by omega)).mpr (by omega)
    obtain ⟨hlong, hshort⟩ := nearestSignificand_bounds hpos
    have hvalue := value_of_bits (n.natAbs.log2 + 1022) (decide (n < 0)) hlong hshort (by omega)
    have hbits : (UInt64.ofNat (nearestBits n.natAbs 1 +
        if decide (n < 0) = true then Nat.pow 2 63 else 0)).toNat =
          (n.natAbs.log2 + 1022) * 2 ^ 52 + nearestSignificand n.natAbs +
            if decide (n < 0) = true then 2 ^ 63 else 0 := by
      rw [nearestBits_one hpos h, UInt64.toNat_ofNat']
      refine Nat.mod_eq_of_lt ?_
      have hsign : Nat.pow 2 63 = 2 ^ 63 := rfl
      rw [hsign]
      split_ifs <;> omega
    have hexponent : ((n.natAbs.log2 + 1022 : Nat) : Int) - 1074 = (n.natAbs.log2 : Int) - 52 := by
      omega
    rw [hexponent, nearestSignificand_mul] at hvalue
    obtain ⟨v, hv, hvalue⟩ := Option.map_eq_some_iff.mp hvalue
    have hfound : toDyadic? (ofInt n) = some v := toDyadic?_ofBits (by rw [hbits]; exact hv)
    rw [value?, hfound, Option.map_some, hvalue]
    obtain hneg | hpos := lt_or_gt_of_ne hne
    · simp [hneg, Int.sign_eq_neg_one_of_neg hneg]
    · simp [Int.sign_eq_one_of_pos hpos, not_lt.mpr hpos.le]

/-- An integer is rounded to the number nearest to it, and that one is an integer as well. -/
theorem rounded_le {n : Nat} (h : n ≤ 2 ^ 63) : rounded n ≤ 2 ^ 63 := by
  obtain rfl | hpos := Nat.eq_zero_or_pos n
  · decide
  · obtain rfl | hlt := h.eq_or_lt
    · exact (congrArg rounded (Nat.one_mul _).symm).trans_le (rounded_of_short (by omega)).le
    · have hlog : n.log2 < 63 := (Nat.log2_lt (by omega)).mpr hlt
      have hsignificand := (nearestSignificand_bounds hpos).2
      unfold nearestSignificand at hsignificand
      unfold rounded
      split_ifs at hsignificand with hshort
      · have hplaces : n.log2 - 52 = 0 := by omega
        rw [hplaces, pow_zero, roundDiv_one, Nat.mul_one]
        exact h
      · have hpower : 2 ^ (n.log2 - 52) ≤ 2 ^ 10 := Nat.pow_le_pow_right (by omega) (by omega)
        exact (Nat.mul_le_mul hsignificand hpower).trans (by decide)

/-- The exact value of a number as an integer is not rounded. -/
theorem rounded_of_value? {x : Float} {n : Int} (h : value? x = some (n : ℚ)) :
    rounded n.natAbs = n.natAbs := by
  obtain ⟨v, hv, hvalue⟩ := Option.map_eq_some_iff.mp h
  have hshort := (isCanonical_of_toDyadic? hv).significand_lt
  have hmagnitude : (v.significand : ℚ) * 2 ^ v.exponent = n.natAbs * 2 ^ (0 : Int) := by
    rw [← v.abs_value, hvalue, zpow_zero, mul_one, Nat.cast_natAbs, Int.cast_abs]
  obtain hle | hle := le_total v.exponent 0
  · -- The significand is the integer with zeros behind it.
    have hproduct := significand_eq_of_le hle hmagnitude
    have hle : n.natAbs ≤ v.significand := hproduct ▸ Nat.le_mul_of_pos_right _ (Nat.two_pow_pos _)
    have hround := rounded_of_short (m := n.natAbs) (k := 0) (by omega)
    rwa [pow_zero, Nat.mul_one] at hround
  · rw [significand_eq_of_le hle hmagnitude.symm]
    exact rounded_of_short hshort

/-- An integer is equal to a number if the number has the rounded integer as its value. -/
theorem ofInt_beq_iff {x : Float} {n : Int} (h : n.natAbs ≤ 2 ^ 63) :
    (ofInt n == x) = true ↔ value? x = some ((n.sign * rounded n.natAbs : Int) : ℚ) := by
  obtain ⟨v, hv, hvalue⟩ := Option.map_eq_some_iff.mp (value?_ofInt h)
  rw [beq_iff_value hv, hvalue]

/-- The integer part of an integer is that integer, held between the bounds. -/
theorem clampedTrunc_of_value? {lo hi : Int} {x : Float} {n : Int} (h : value? x = some (n : ℚ)) :
    clampedTrunc lo hi x = max lo (min hi n) := by
  obtain ⟨v, hv, hvalue⟩ := Option.map_eq_some_iff.mp h
  have hmagnitude : (v.significand : ℚ) * 2 ^ v.exponent = n.natAbs * 2 ^ (0 : Int) := by
    rw [← v.abs_value, hvalue, zpow_zero, mul_one, Nat.cast_natAbs, Int.cast_abs]
  have hsize : (if 0 ≤ v.exponent then v.significand * Nat.pow 2 v.exponent.toNat
      else v.significand / Nat.pow 2 (-v.exponent).toNat) = n.natAbs := by
    split_ifs with hsign
    · have hproduct := significand_eq_of_le hsign hmagnitude.symm
      rw [Int.sub_zero] at hproduct
      exact hproduct.symm
    · have hproduct := significand_eq_of_le (by omega) hmagnitude
      rw [Int.zero_sub] at hproduct
      rw [hproduct]
      exact Nat.mul_div_cancel _ (Nat.two_pow_pos _)
  have hsigned : (if v.negative then -(n.natAbs : Int) else n.natAbs) = n := by
    have hnonneg : (0 : ℚ) ≤ v.significand * 2 ^ v.exponent := by positivity
    unfold Dyadic.value at hvalue
    split_ifs at hvalue ⊢
    · have hn : (n : ℚ) ≤ 0 := by linarith
      have hn : n ≤ 0 := by exact_mod_cast hn
      omega
    · have hn : (0 : ℚ) ≤ n := by linarith
      have hn : 0 ≤ n := by exact_mod_cast hn
      omega
  unfold clampedTrunc
  rw [hv]
  dsimp only
  rw [hsize, hsigned]

/-- An integer that is held between two bounds lies between them. -/
theorem clampedTrunc_mem {lo hi : Int} (hlo : lo ≤ 0) (hhi : 0 ≤ hi) (x : Float) :
    lo ≤ clampedTrunc lo hi x ∧ clampedTrunc lo hi x ≤ hi := by
  unfold clampedTrunc
  split
  · split_ifs <;> omega
  · dsimp only
    omega

end RecordRecipe.Decimal
