import Mathlib
import RecordRecipe.Decimal.Nearest

/-!
# Exact values of floating-point numbers

A finite number is a signed significand times a power of two, which is a rational number. Its bits
are determined by the three parts, and the parts by the value, unless it is zero, since a
significand other than zero is as long as it can be. So two numbers are equal if and only if they
have the same value: `beq_iff_value`.
-/

namespace RecordRecipe.Decimal

open Float.Model (Format UnpackedFloat)

/-! ## Bits -/

/-- The exact value of the number with some bits. -/
def dyadicOfBits? (bits : Nat) : Option Dyadic :=
  if bits / 2 ^ 52 % 2 ^ 11 = 2047 then none
  else if bits / 2 ^ 52 % 2 ^ 11 = 0 then some ⟨decide (2 ^ 63 ≤ bits), bits % 2 ^ 52, -1074⟩
  else some ⟨decide (2 ^ 63 ≤ bits), bits % 2 ^ 52 + 2 ^ 52, (bits / 2 ^ 52 % 2 ^ 11 : Nat) - 1075⟩

theorem toDyadic?_eq (x : Float) : toDyadic? x = dyadicOfBits? x.toBits.toNat := rfl

/-- There is one word of bits for an exact value with a sign. -/
theorem eq_of_dyadicOfBits? {bits other : Nat} {v : Dyadic} (hbits : bits < 2 ^ 64)
    (hother : other < 2 ^ 64) (h : dyadicOfBits? bits = some v)
    (hsame : dyadicOfBits? other = some v) : bits = other := by
  unfold dyadicOfBits? at h hsame
  split_ifs at h hsame <;> obtain rfl := Option.some.inj h <;>
    simp only [Option.some.injEq, Dyadic.mk.injEq, decide_eq_decide] at hsame <;> omega

/-- Bits with an exact value are none of a not-a-number. -/
theorem isNaNBits_eq_false {bits : BitVec Format.binary64.numBits} {v : Dyadic}
    (h : dyadicOfBits? bits.toNat = some v) : UnpackedFloat.isNaNBits bits = false := by
  have hfield : (UnpackedFloat.unpackExponent bits).toNat = bits.toNat / 2 ^ 52 % 2 ^ 11 := by
    rw [UnpackedFloat.unpackExponent_def, BitVec.extractLsb'_toNat, Nat.shiftRight_eq_div_pow]
  have hfinite : UnpackedFloat.unpackExponent bits ≠ -1#_ := by
    intro hones
    have hall : bits.toNat / 2 ^ 52 % 2 ^ 11 = 2047 := hfield.symm.trans (congrArg _ hones)
    rw [dyadicOfBits?, if_pos hall] at h
    cases h
  exact decide_eq_false fun hnan => hfinite hnan.1

/-- Bits with an exact value are those of the number that they make. -/
theorem toDyadic?_ofBits {bits : UInt64} {v : Dyadic} (h : dyadicOfBits? bits.toNat = some v) :
    toDyadic? (Float.ofBits bits) = some v := by
  have hword : dyadicOfBits? bits.toBitVec.toNat = some v := h
  have hpack := @UnpackedFloat.pack_unpack .binary64 bits.toBitVec (by decide)
  rw [isNaNBits_eq_false hword] at hpack
  have hbits : (Float.ofBits bits).toBits = bits := UInt64.toBitVec_inj.mp hpack
  rw [toDyadic?_eq, hbits, h]

/-- The significand has 53 binary digits, unless the exponent is the least one. -/
structure Dyadic.IsCanonical (v : Dyadic) : Prop where
  significand_lt : v.significand < 2 ^ 53
  least_le : -1074 ≤ v.exponent
  full : v.exponent = -1074 ∨ 2 ^ 52 ≤ v.significand

variable {x y : Float} {v w : Dyadic}

/-- A number is determined by its exact value and its sign. -/
theorem eq_of_toDyadic? (hx : toDyadic? x = some v) (hy : toDyadic? y = some v) : x = y :=
  Float.toBits_inj.mp (UInt64.toNat_inj.mp
    (eq_of_dyadicOfBits? x.toBits.toNat_lt y.toBits.toNat_lt hx hy))

theorem ne_nan_of_toDyadic? (h : toDyadic? x = some v) : x ≠ Float.nan := by
  rintro rfl
  cases h

theorem isCanonical_of_toDyadic? (h : toDyadic? x = some v) : v.IsCanonical := by
  rw [toDyadic?_eq, dyadicOfBits?] at h
  split_ifs at h with hnone hsmall
  · obtain rfl := Option.some.inj h
    exact ⟨by dsimp only; omega, le_refl _, .inl rfl⟩
  · obtain rfl := Option.some.inj h
    exact ⟨by dsimp only; omega, by dsimp only; omega, .inr (by dsimp only; omega)⟩

/-! ## Exact values -/

/-- The value of a signed significand and a power of two. -/
def Dyadic.value (v : Dyadic) : ℚ :=
  (if v.negative then -1 else 1) * (v.significand * 2 ^ v.exponent)

/-- The exact value of a number; the infinities and not-a-number have none. -/
def value? (x : Float) : Option ℚ := (toDyadic? x).map Dyadic.value

theorem Dyadic.value_eq_zero_iff : v.value = 0 ↔ v.significand = 0 := by
  unfold value
  have hpower : (2 : ℚ) ^ v.exponent ≠ 0 := zpow_ne_zero _ (by norm_num)
  split_ifs <;> simp [hpower]

theorem Dyadic.abs_value (v : Dyadic) : |v.value| = v.significand * 2 ^ v.exponent := by
  unfold value
  have hnonneg : (0 : ℚ) ≤ v.significand * 2 ^ v.exponent := by positivity
  split_ifs
  · rw [neg_one_mul, abs_neg, abs_of_nonneg hnonneg]
  · rw [one_mul, abs_of_nonneg hnonneg]

/-- The same product with a smaller exponent. -/
theorem significand_eq_of_le {m n : Nat} {e f : Int} (hle : e ≤ f)
    (h : (m : ℚ) * 2 ^ e = n * 2 ^ f) : m = n * 2 ^ (f - e).toNat := by
  have hsplit : (2 : ℚ) ^ f = 2 ^ (f - e).toNat * 2 ^ e := by
    rw [← zpow_natCast, ← zpow_add₀ (by norm_num)]
    congr 1
    omega
  rw [hsplit, ← mul_assoc] at h
  have hpower : (2 : ℚ) ^ e ≠ 0 := zpow_ne_zero _ (by norm_num)
  exact_mod_cast mul_right_cancel₀ hpower h

/-- A canonical form is determined by the magnitude of its value. -/
theorem Dyadic.IsCanonical.eq_of_le (hv : v.IsCanonical) (hw : w.IsCanonical)
    (hle : v.exponent ≤ w.exponent)
    (h : (v.significand : ℚ) * 2 ^ v.exponent = w.significand * 2 ^ w.exponent) :
    v.significand = w.significand ∧ v.exponent = w.exponent := by
  have hproduct := significand_eq_of_le hle h
  obtain hsame | hless := hle.eq_or_lt
  · rw [hsame, Int.sub_self, Int.toNat_zero, pow_zero, mul_one] at hproduct
    exact ⟨hproduct, hsame⟩
  · -- The significand of the greater exponent is full, and the other one is at least its double.
    have hfull : 2 ^ 52 ≤ w.significand := hw.full.resolve_left (by have := hv.least_le; omega)
    have hdouble : 2 ^ 1 ≤ 2 ^ (w.exponent - v.exponent).toNat :=
      Nat.pow_le_pow_right (by omega) (by omega)
    have hlong : 2 ^ 52 * 2 ^ 1 ≤ v.significand := hproduct ▸ Nat.mul_le_mul hfull hdouble
    exact absurd hv.significand_lt (by omega)

/-- A canonical form of a value other than zero is determined by the value. -/
theorem Dyadic.IsCanonical.eq_iff (hv : v.IsCanonical) (hw : w.IsCanonical)
    (hne : v.significand ≠ 0) : v.value = w.value ↔ v = w := by
  refine ⟨fun h => ?_, congrArg _⟩
  have habs : (v.significand : ℚ) * 2 ^ v.exponent = w.significand * 2 ^ w.exponent := by
    rw [← v.abs_value, ← w.abs_value, h]
  obtain ⟨hsignificand, hexponent⟩ :
      v.significand = w.significand ∧ v.exponent = w.exponent := by
    obtain hle | hle := le_total v.exponent w.exponent
    · exact hv.eq_of_le hw hle habs
    · obtain ⟨hs, he⟩ := hw.eq_of_le hv hle habs.symm
      exact ⟨hs.symm, he.symm⟩
  have hpos : (0 : ℚ) < w.significand * 2 ^ w.exponent := by
    have : 0 < w.significand := by omega
    positivity
  have hnegative : v.negative = w.negative := by
    unfold value at h
    rw [habs] at h
    cases hvn : v.negative <;> cases hwn : w.negative <;> simp only [hvn, hwn] at h ⊢
    · norm_num at h; linarith
    · norm_num at h; linarith
  cases v
  cases w
  simp_all

theorem toDyadic?_zero : toDyadic? 0 = some ⟨false, 0, -1074⟩ := rfl

theorem toDyadic?_neg_zero : toDyadic? (-0) = some ⟨true, 0, -1074⟩ := rfl

/-- A number is zero, of either sign, if and only if its value is. -/
theorem eq_zero_iff (h : toDyadic? x = some v) : x = 0 ∨ x = -0 ↔ v.value = 0 := by
  rw [Dyadic.value_eq_zero_iff]
  constructor
  · rintro (rfl | rfl)
    · rw [toDyadic?_zero] at h
      obtain rfl := Option.some.inj h
      rfl
    · rw [toDyadic?_neg_zero] at h
      obtain rfl := Option.some.inj h
      rfl
  · intro hzero
    have hexponent : v.exponent = -1074 :=
      (isCanonical_of_toDyadic? h).full.resolve_right (by omega)
    obtain ⟨negative, significand, exponent⟩ := v
    subst hzero hexponent
    cases negative with
    | false => exact .inl (eq_of_toDyadic? h toDyadic?_zero)
    | true => exact .inr (eq_of_toDyadic? h toDyadic?_neg_zero)

/-- Two numbers are equal if and only if they have the same exact value. -/
theorem beq_iff_value (hx : toDyadic? x = some v) : (x == y) = true ↔ value? y = some v.value := by
  rw [Float.beq_iff_ne_nan_and_eq, value?]
  constructor
  · rintro ⟨-, -, rfl | ⟨rfl, rfl⟩ | ⟨rfl, rfl⟩⟩
    · rw [hx, Option.map_some]
    · rw [toDyadic?_neg_zero, Option.map_some, (eq_zero_iff hx).mp (.inl rfl),
        (eq_zero_iff toDyadic?_neg_zero).mp (.inr rfl)]
    · rw [toDyadic?_zero, Option.map_some, (eq_zero_iff hx).mp (.inr rfl),
        (eq_zero_iff toDyadic?_zero).mp (.inl rfl)]
  · intro hvalue
    obtain ⟨w, hy, hsame⟩ := Option.map_eq_some_iff.mp hvalue
    refine ⟨ne_nan_of_toDyadic? hx, ne_nan_of_toDyadic? hy, ?_⟩
    by_cases hzero : v.significand = 0
    · -- There are two zeros, and they are equal.
      have hvzero : v.value = 0 := Dyadic.value_eq_zero_iff.mpr hzero
      obtain rfl | rfl := (eq_zero_iff hx).mpr hvzero <;>
        obtain rfl | rfl := (eq_zero_iff hy).mpr (hsame.trans hvzero)
      · exact .inl rfl
      · exact .inr (.inl ⟨rfl, rfl⟩)
      · exact .inr (.inr ⟨rfl, rfl⟩)
      · exact .inl rfl
    · obtain rfl := ((isCanonical_of_toDyadic? hx).eq_iff (isCanonical_of_toDyadic? hy) hzero).mp
        hsame.symm
      exact .inl (eq_of_toDyadic? hx hy)

end RecordRecipe.Decimal
