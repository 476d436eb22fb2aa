import RecordRecipe.Decimal.Layout
import RecordRecipe.Proofs.Text.Json
import Mathlib.Algebra.Order.Ring.Nat

/-!
# Numbers of JSON documents

Integers and finite floating-point numbers are laid out as numerals of a JSON document:
`isNumeral_toString` and `Layout.isNumeral_format`. A zero stands in front of other digits nowhere,
since the digits of a positive number either begin with another one or all stand behind the point.
-/

namespace RecordRecipe

open JsonValue (isNumeral isWhole isDigits isFraction isExponent)

/-! ## Digits -/

namespace JsonValue

theorem exists_toDigits (n : Nat) : ∃ first more, Nat.toDigits 10 n = first :: more ∧
    first.isDigit = true ∧ ∀ c ∈ more, c.isDigit = true := by
  obtain ⟨first, more, hfirst⟩ := List.exists_cons_of_ne_nil (Nat.toDigits_ne_nil (n := n) (b := 10))
  have hdigits : ∀ c ∈ first :: more, c.isDigit = true := fun c h =>
    Nat.isDigit_of_mem_toDigits (b := 10) (n := n) (by omega) (by omega) (by rwa [hfirst])
  exact ⟨first, more, hfirst, List.forall_mem_cons.mp hdigits⟩

theorem isDigits_toDigits (n : Nat) : isDigits (Nat.toDigits 10 n) = true := by
  obtain ⟨first, more, hfirst, hdigit, hmore⟩ := exists_toDigits n
  simpa [isDigits, hfirst, hdigit] using hmore

/-- The digits of a positive number do not begin with a zero. -/
theorem head?_toDigits {n : Nat} (h : 0 < n) : (Nat.toDigits 10 n).head? ≠ some '0' := by
  induction n using Nat.strongRecOn with
  | ind n ih =>
      by_cases hsmall : n < 10
      · rw [Nat.toDigits_of_lt_base hsmall]
        have hall : ∀ d : Fin 10, 0 < d.val → [d.val.digitChar].head? ≠ some '0' := by decide
        exact hall ⟨n, hsmall⟩ h
      · have hless := ih (n / 10) (by omega) (by omega)
        obtain ⟨first, more, hdigits, -⟩ := exists_toDigits (n / 10)
        rw [Nat.toDigits_of_base_le (by omega) (by omega), hdigits, List.cons_append]
        rwa [hdigits] at hless

theorem isWhole_toDigits (n : Nat) : isWhole (Nat.toDigits 10 n) = true := by
  rw [isWhole, isDigits_toDigits, Bool.true_and, Bool.or_eq_true]
  obtain rfl | hpos := Nat.eq_zero_or_pos n
  · exact .inr rfl
  · exact .inl (by simpa using head?_toDigits hpos)

/-- A numeral, with and without a minus in front of it. -/
def IsMagnitude (text : List Char) : Prop :=
  isNumeral text = true ∧ isNumeral ('-' :: text) = true

/-- Digits and what may stand behind them are a numeral. -/
theorem isMagnitude_append {whole tail : List Char} (hwhole : isWhole whole = true)
    (htail : isFraction tail = true) (hhead : tail.head?.all (fun c => !c.isDigit) = true) :
    IsMagnitude (whole ++ tail) := by
  have hparts : isDigits whole = true := (Bool.and_eq_true _ _ ▸ hwhole).1
  obtain ⟨first, more, rfl⟩ : ∃ first more, whole = first :: more := by
    refine List.exists_cons_of_ne_nil ?_
    rintro rfl
    cases hparts
  have hdigits : ∀ c ∈ first :: more, c.isDigit = true :=
    List.all_eq_true.mp (Bool.and_eq_true _ _ ▸ hparts).2
  have hminus : first ≠ '-' := by
    rintro rfl
    cases hdigits '-' List.mem_cons_self
  have htake : (first :: more ++ tail).takeWhile Char.isDigit = first :: more := by
    rw [List.takeWhile_append_of_pos hdigits]
    cases tail <;> simp_all
  have hdrop : (first :: more ++ tail).dropWhile Char.isDigit = tail := by
    rw [List.dropWhile_append_of_pos hdigits]
    cases tail <;> simp_all
  have hbody : (isWhole ((first :: more ++ tail).takeWhile Char.isDigit) &&
      isFraction ((first :: more ++ tail).dropWhile Char.isDigit)) = true := by
    rw [htake, hdrop, hwhole, htail, Bool.true_and]
  refine ⟨?_, ?_⟩
  · rw [isNumeral, if_neg (by simpa using hminus)]
    exact hbody
  · rw [isNumeral, List.head?_cons, if_pos rfl]
    exact hbody

theorem isMagnitude_toDigits (n : Nat) : IsMagnitude (Nat.toDigits 10 n) := by
  have hempty : isFraction [] = true := rfl
  simpa using isMagnitude_append (isWhole_toDigits n) hempty rfl

theorem isFraction_point {digits tail : List Char} (hdigits : isDigits digits = true)
    (htail : isExponent tail = true) : isFraction ('.' :: (digits ++ tail)) = true := by
  have hall : ∀ c ∈ digits, c.isDigit = true :=
    List.all_eq_true.mp (Bool.and_eq_true _ _ ▸ hdigits).2
  have hstop : tail.takeWhile Char.isDigit = [] ∧ tail.dropWhile Char.isDigit = tail := by
    cases tail with
    | nil => simp
    | cons mark more =>
        have hmark : mark.isDigit = false := by
          simp only [isExponent, Bool.and_eq_true, Bool.or_eq_true, decide_eq_true_eq] at htail
          obtain rfl | rfl := htail.1 <;> rfl
        simp [hmark]
  rw [isFraction, List.head?_cons, if_pos rfl, List.tail_cons, List.takeWhile_append_of_pos hall,
    List.dropWhile_append_of_pos hall, hstop.1, hstop.2, List.append_nil, hdigits, htail]
  rfl

theorem isFraction_digits {digits : List Char} (h : isDigits digits = true) :
    isFraction ('.' :: digits) = true := by
  have hempty : isExponent [] = true := rfl
  simpa using isFraction_point h hempty

theorem isExponent_toDigits {sign : List Char} (hsign : sign ∈ [[], ['-'], ['+']]) (n : Nat) :
    isExponent ('e' :: (sign ++ Nat.toDigits 10 n)) = true := by
  have hdigits := isDigits_toDigits n
  obtain ⟨first, more, hfirst, hdigit, -⟩ := exists_toDigits n
  have hplain : ¬(first = '+' ∨ first = '-') := by
    rintro (rfl | rfl) <;> cases hdigit
  simp only [List.mem_cons, List.not_mem_nil, or_false] at hsign
  obtain rfl | rfl | rfl := hsign
  · simpa [isExponent, hfirst, hplain] using hfirst ▸ hdigits
  · simpa [isExponent] using hdigits
  · simpa [isExponent] using hdigits

end JsonValue

namespace Numeral

theorem digitsValue?_toDigits (n : Nat) : digitsValue? (Nat.toDigits 10 n) = some n := by
  have hdigits := JsonValue.isDigits_toDigits n
  rw [isDigits, Bool.and_eq_true] at hdigits
  have hvalue : (Nat.toDigits 10 n).foldl (fun n c => 10 * n + (c.toNat - '0'.toNat)) 0 = n := by
    rw [← Nat.ofDigitChars_eq_foldl, Nat.ofDigitChars_ten_toDigits]
  rw [digitsValue?, if_pos ⟨Nat.toDigits_ne_nil, hdigits.2⟩, hvalue]

end Numeral

/-! ## Integers -/

theorem toList_toString_ofNat (n : Nat) : (toString (n : Int)).toList = Nat.toDigits 10 n := by
  show (Nat.repr n).toList = _
  rw [Nat.repr_eq_ofList_toDigits, String.toList_ofList]

theorem toList_toString_negSucc (n : Nat) :
    (toString (Int.negSucc n)).toList = '-' :: Nat.toDigits 10 (n + 1) := by
  show ("-" ++ Nat.repr (n + 1)).toList = _
  simp [Nat.repr_eq_ofList_toDigits]

/-- An integer is written as a numeral. -/
theorem JsonValue.isNumeral_toString (n : Int) : isNumeral (toString n).toList = true := by
  cases n with
  | ofNat n =>
      rw [Int.ofNat_eq_natCast, toList_toString_ofNat]
      exact (isMagnitude_toDigits n).1
  | negSucc n =>
      rw [toList_toString_negSucc]
      exact (isMagnitude_toDigits (n + 1)).2

/-- An integer is read back from its text. -/
theorem Numeral.readInt?_toString (n : Int) : readInt? (toString n).toList = some n := by
  cases n with
  | ofNat n =>
      obtain ⟨first, more, hfirst, hdigit, -⟩ := JsonValue.exists_toDigits n
      have hsign : splitSign (first :: more) = (false, first :: more) := by
        unfold splitSign
        split <;> simp_all
      rw [Int.ofNat_eq_natCast, toList_toString_ofNat, readInt?, hfirst, hsign, ← hfirst]
      dsimp only
      rw [digitsValue?_toDigits]
      rfl
  | negSucc n =>
      rw [toList_toString_negSucc, readInt?, splitSign]
      dsimp only
      rw [digitsValue?_toDigits]
      rfl

namespace Decimal

/-! ## Shortest digits -/

/-- Digits that are all zero only stand behind the point. -/
def Scaled.Grounded (s : Scaled) : Prop :=
  s.digits = 0 → s.exponent < 0

theorem Interval.hit?_ne_zero {i : Interval} {g : Int} {c : Nat} (h : i.hit? g = some c) :
    c ≠ 0 := by
  rintro rfl
  rw [hit?] at h
  split at h
  next hlower _ =>
    rw [Bool.and_eq_true] at hlower
    rw [Option.some.injEq] at h
    split_ifs at h with hnearer
    rw [h] at hlower
    cases hlower.2
  next hlower _ =>
    rw [Bool.and_eq_true] at hlower
    rw [Option.some.injEq] at h
    rw [h] at hlower
    cases hlower.2
  next => cases h
  next => cases h

/-- On a grid of at least one digit, a value that is at least one lies at or above a point that is
not zero. -/
theorem Interval.below_ne_zero {i : Interval} (hden : 0 < i.den) (hle : i.den ≤ i.value)
    {count : Nat} (hcount : 0 < count) : i.below (i.magnitude - count) ≠ 0 := by
  have hquotient : 0 < i.value / i.den := Nat.div_pos hle hden
  rw [magnitude, if_pos hle]
  generalize hdigits : (Nat.toDigits 10 (i.value / i.den)).length = places
  rw [below]
  split_ifs with hwhole
  · have hpower : 10 ^ (places - count) ≤ i.value / i.den := by
      obtain hzero | hpos := Nat.eq_zero_or_pos (places - count)
      · rwa [hzero, pow_zero]
      · by_contra hlt
        have hlength := (Nat.length_toDigits_le_iff (by omega) hpos).mpr (not_le.mp hlt)
        omega
    have hexponent : ((places : Int) - count).toNat = places - count := by omega
    rw [hexponent, ← Nat.div_div_eq_div_mul]
    exact (Nat.div_pos hpower (Nat.pow_pos (by omega))).ne'
  · refine (Nat.div_pos ?_ hden).ne'
    exact hle.trans (Nat.le_mul_of_pos_right _ (Nat.pow_pos (by omega)))

/-- The digits that the search finds are not all zero unless they stand behind the point. -/
theorem Interval.search_grounded {i : Interval} (hden : 0 < i.den) {count : Nat}
    (hcount : 0 < count) (fuel : Nat) : (i.search i.magnitude count fuel).Grounded := by
  induction fuel generalizing count with
  | zero =>
      intro hzero
      by_cases hle : i.den ≤ i.value
      · exact absurd hzero (below_ne_zero hden hle hcount)
      · have hmagnitude : i.magnitude ≤ 0 := by
          rw [magnitude, if_neg hle, leadingZeros, if_neg hle]
          omega
        show i.magnitude - count < 0
        omega
  | succ fuel ih =>
      rw [search]
      split
      next c hhit => exact fun hzero => absurd hzero (hit?_ne_zero hhit)
      next => exact ih (by omega)

theorem Scaled.strip_grounded {s : Scaled} (h : s.Grounded) (fuel : Nat) :
    (s.strip fuel).Grounded := by
  induction fuel generalizing s with
  | zero => exact h
  | succ fuel ih =>
      rw [strip]
      split_ifs with hlast
      · exact ih fun hzero => absurd (show s.digits / 10 = 0 from hzero) (by omega)
      · exact h

theorem Interval.den_ofDyadic_pos (significand : Nat) (exponent : Int) :
    0 < (Interval.ofDyadic significand exponent).den := by
  unfold ofDyadic
  dsimp only
  split_ifs
  · omega
  · exact Nat.pow_pos (by omega)

theorem shortest_grounded (significand : Nat) (exponent : Int) :
    (shortest significand exponent).Grounded :=
  Scaled.strip_grounded
    (Interval.search_grounded (Interval.den_ofDyadic_pos _ _) (by omega) _) _

/-! ## Layouts -/

open JsonValue

/-- Digits with an exponent are a numeral. -/
theorem isMagnitude_scientific (plus : Bool) (n : Nat) (exponent : Int) :
    IsMagnitude (scientific plus (Nat.toDigits 10 n) exponent) := by
  have hsign : (if exponent < 0 then ['-'] else if plus then ['+'] else []) ∈
      [[], ['-'], ['+']] := by
    split_ifs <;> simp
  have hexponent := isExponent_toDigits hsign exponent.natAbs
  obtain ⟨first, more, hfirst, hdigit, hmore⟩ := exists_toDigits n
  have hwhole : isWhole [first] = true := by simp [isWhole, isDigits, hdigit]
  rw [hfirst]
  cases more with
  | nil => exact isMagnitude_append hwhole (by simpa [isFraction] using hexponent) rfl
  | cons second more =>
      have hmore : isDigits (second :: more) = true := by simpa [isDigits] using hmore
      have hmagnitude := isMagnitude_append hwhole (isFraction_point hmore hexponent) rfl
      rwa [List.singleton_append, ← List.cons_append, ← List.cons_append] at hmagnitude

/-- Digits around a point are a numeral, provided that no zero comes first in front of it. -/
theorem isMagnitude_positional {digits : List Char} {places : Int}
    (hdigits : isDigits digits = true) (hhead : 0 < places → digits.head? ≠ some '0') :
    IsMagnitude (positional true digits places) := by
  have hall : ∀ c ∈ digits, c.isDigit = true :=
    List.all_eq_true.mp (Bool.and_eq_true _ _ ▸ hdigits).2
  obtain ⟨first, more, rfl⟩ : ∃ first more, digits = first :: more := by
    refine List.exists_cons_of_ne_nil ?_
    rintro rfl
    cases hdigits
  by_cases hplaces : places ≤ 0
  · have hzeros : isDigits (List.replicate (-places).toNat '0' ++ first :: more) = true := by
      simp_all [isDigits]
    have hzero : isWhole ['0'] = true := rfl
    rw [positional, if_pos hplaces]
    exact isMagnitude_append hzero (isFraction_digits hzeros) rfl
  · have hfirst := hhead (by omega)
    rw [positional, if_neg hplaces, if_pos rfl]
    dsimp only
    split_ifs with hlength
    · have hpoint : isFraction ['.', '0'] = true := rfl
      refine isMagnitude_append ?_ hpoint rfl
      simp_all [isWhole, isDigits]
    · obtain ⟨whole, hwhole⟩ : ∃ whole, places.toNat = whole + 1 := ⟨places.toNat - 1, by omega⟩
      have htail : isDigits ((first :: more).drop places.toNat) = true := by
        have hne : (first :: more).drop places.toNat ≠ [] := by
          rw [Ne, List.drop_eq_nil_iff]
          exact hlength
        rw [isDigits, List.all_eq_true.mpr fun c h => hall c (List.mem_of_mem_drop h)]
        simpa using hne
      have hbefore : isWhole ((first :: more).take places.toNat) = true := by
        rw [hwhole, List.take_succ_cons, isWhole, isDigits]
        rw [← List.take_succ_cons (i := whole),
          List.all_eq_true.mpr fun c h => hall c (List.mem_of_mem_take h)]
        simpa using Or.inl (by simpa using hfirst)
      exact isMagnitude_append hbefore (isFraction_digits htail) rfl

/-! ## Finite numbers -/

/-- A finite number has an exact value. -/
theorem toDyadic?_of_isFinite {x : Float} (h : x.isFinite = true) :
    ∃ v, toDyadic? x = some v := by
  have hfield : x.toBits.toNat / Nat.pow 2 52 % Nat.pow 2 11 ≠ 2047 := by
    intro hfield
    have hexponent : @Float.Model.UnpackedFloat.unpackExponent .binary64
        x.toModel.toBits.toBitVec = -1#11 := by
      apply BitVec.eq_of_toNat_eq
      rw [Float.Model.UnpackedFloat.unpackExponent, BitVec.toNat_cast, BitVec.extractLsb_toNat,
        Nat.shiftRight_eq_div_pow]
      exact hfield
    change (Float.Model.UnpackedFloat.unpack .binary64 x.toModel.toBits.toBitVec).isFinite = true
      at h
    delta Float.Model.UnpackedFloat.unpack at h
    dsimp only at h
    rw [if_pos hexponent] at h
    split at h <;> cases h
  rw [toDyadic?, if_neg hfield]
  split_ifs
  · exact ⟨_, rfl⟩
  · exact ⟨_, rfl⟩

/-- A finite number is written as a numeral. -/
theorem Layout.isNumeral_format {x : Float} (h : x.isFinite = true) :
    isNumeral (Layout.json.format x).toList = true := by
  obtain ⟨v, hv⟩ := toDyadic?_of_isFinite h
  obtain ⟨body, hformat, hbody⟩ : ∃ body,
      Layout.json.format x = String.ofList (if v.negative then '-' :: body else body) ∧
        IsMagnitude body := by
    rw [format, hv]
    refine ⟨_, rfl, ?_⟩
    split_ifs with hzero hpoint
    · exact ⟨rfl, rfl⟩
    · exact absurd rfl hpoint
    · rw [magnitude]
      split_ifs
      · exact isMagnitude_scientific _ _ _
      · refine isMagnitude_positional (isDigits_toDigits _) fun hplaces => ?_
        refine head?_toDigits (Nat.pos_of_ne_zero fun hdigits => ?_)
        have hexponent := shortest_grounded v.significand v.exponent hdigits
        rw [hdigits] at hplaces
        simp at hplaces
        omega
  rw [hformat, String.toList_ofList]
  split_ifs
  · exact hbody.2
  · exact hbody.1

end Decimal

end RecordRecipe
