import RecordRecipe.Function.Reading
import RecordRecipe.Proofs.Calendar.DayNumber
import RecordRecipe.Proofs.Numeral

/-!
# Dates relative to another one

A sign, digits and a unit name the date so many days later or earlier. `Relative` is this rule with
the number of days taken as it is. `relativeDate?` keeps to it but for two kinds of texts, which
`Stray` describes: the digits may have a second sign in front of them, and a number of days that 64
bits cannot hold comes round to a smaller one. `relativeDate?_reads` says that it reads these and no
others besides.
-/

namespace RecordRecipe

open Calendar (Date)

/-- The units of days with their letters. -/
def dayUnits : List (Char × Nat) := [('d', 1), ('w', 7), ('m', 30), ('y', 365)]

/-- A date lies a number of days after another one or before it, as the sign says. -/
def Calendar.Date.Away (today : Date) (sign : Char) (days : Nat) (date : Date) : Prop :=
  sign = '+' ∧ today.after? days = some date ∨ sign = '-' ∧ date.after? days = some today

/-- The date that a text names relative to another one. -/
inductive Relative (today : Date) : List Char → Date → Prop
  | today : Relative today "today".toList today
  | offset {sign unit : Char} {digits : List Char} {n days : Nat} {date : Date}
      (hdigits : Numeral.IsDecimal digits n) (hunit : (unit, days) ∈ dayUnits)
      (haway : today.Away sign (n * days) date) :
      Relative today (sign :: (digits ++ [unit])) date

/-- The date that is read out of a text that names none: there is a second sign, or else the number
of days goes beyond 64 bits. -/
inductive Stray (today : Date) : List Char → Date → Prop
  | offset {sign unit : Char} {plus digits : List Char} {n days : Nat} {date : Date}
      (hplus : plus = [] ∨ plus = ['+']) (hdigits : Numeral.IsDecimal digits n)
      (hn : n < 2 ^ 64) (hunit : (unit, days) ∈ dayUnits)
      (hstray : plus = ['+'] ∨ 2 ^ 64 ≤ n * days)
      (haway : today.Away sign (n * days % 2 ^ 64) date) :
      Stray today (sign :: (plus ++ digits ++ [unit])) date

/-! ## Offsets -/

variable {today date : Date} {content : List Char} {sign unit : Char} {days : Nat}

theorem unitDays?_eq_some_iff : unitDays? unit = some days ↔ (unit, days) ∈ dayUnits := by
  unfold unitDays? dayUnits
  split <;> simp_all [eq_comm]

theorem Calendar.Date.Away.isSign (h : today.Away sign days date) : sign = '+' ∨ sign = '-' := by
  obtain ⟨rfl, -⟩ | ⟨rfl, -⟩ := h <;> simp

theorem Calendar.Date.Away.lt (h : today.Away sign days date) : days < 2 ^ 31 := by
  obtain ⟨-, h⟩ | ⟨-, h⟩ := h <;> exact Date.after?_lt h

/-- A number of days leads to the date so many days away, if there is one. -/
theorem shiftDate?_eq_some_iff (hsign : sign = '+' ∨ sign = '-') :
    shiftDate? today (sign = '+') days = some date ↔ today.Away sign days date := by
  unfold shiftDate?
  split
  next hdays => exact ⟨nofun, fun haway => absurd haway.lt (Nat.not_lt.mpr hdays)⟩
  next =>
    unfold Date.Away
    obtain rfl | rfl := hsign
    · simp [Date.addDays?_natCast]
    · simp [Date.addDays?_neg_eq_some_iff]

/-- What is read behind a sign: a number that fits 64 bits and a unit, with the number of days
reduced to 64 bits. -/
theorem readOffset_eq_some_iff {offset : List Char} (hsign : sign = '+' ∨ sign = '-') :
    (do
      let unit ← offset.getLast?
      let amount ← Numeral.readNat? 64 offset.dropLast
      let days ← unitDays? unit
      shiftDate? today (sign = '+') (amount * days % UInt64.size)) = some date ↔
      ∃ plus digits unit n days, offset = plus ++ digits ++ [unit] ∧
        (plus = [] ∨ plus = ['+']) ∧ Numeral.IsDecimal digits n ∧ n < 2 ^ 64 ∧
        (unit, days) ∈ dayUnits ∧ today.Away sign (n * days % 2 ^ 64) date := by
  simp only [Option.bind_eq_bind, Option.bind_eq_some_iff, Numeral.readNat?_eq_some_iff,
    unitDays?_eq_some_iff, shiftDate?_eq_some_iff hsign]
  constructor
  · rintro ⟨unit, hlast, n, ⟨plus, digits, hinit, hplus, hdigits, hn⟩, days, hunit, haway⟩
    obtain ⟨init, rfl⟩ := List.getLast?_eq_some_iff.mp hlast
    rw [List.dropLast_concat] at hinit
    exact ⟨plus, digits, unit, n, days, by rw [hinit], hplus, hdigits, hn, hunit, haway⟩
  · rintro ⟨plus, digits, unit, n, days, rfl, hplus, hdigits, hn, hunit, haway⟩
    refine ⟨unit, by simp, n, ⟨plus, digits, by simp, hplus, hdigits, hn⟩, days, hunit, haway⟩

/-- What is read: today, or a sign and what is read behind it. -/
theorem relativeDate?_eq_some_iff : relativeDate? today content = some date ↔
    content = "today".toList ∧ date = today ∨
      ∃ sign plus digits unit n days, content = sign :: (plus ++ digits ++ [unit]) ∧
        (plus = [] ∨ plus = ['+']) ∧ Numeral.IsDecimal digits n ∧ n < 2 ^ 64 ∧
        (unit, days) ∈ dayUnits ∧ today.Away sign (n * days % 2 ^ 64) date := by
  constructor
  · intro h
    unfold relativeDate? at h
    split at h
    next => exact .inl ⟨rfl, (Option.some.inj h).symm⟩
    next sign offset _ =>
      split at h
      next hsign =>
        rw [Bool.or_eq_true, decide_eq_true_eq, decide_eq_true_eq] at hsign
        obtain ⟨plus, digits, unit, n, days, rfl, hrest⟩ := (readOffset_eq_some_iff hsign).mp h
        exact .inr ⟨sign, plus, digits, unit, n, days, rfl, hrest⟩
      next => cases h
    next => cases h
  · rintro (⟨rfl, rfl⟩ | ⟨sign, plus, digits, unit, n, days, rfl, hplus, hdigits, hn, hunit, haway⟩)
    · rfl
    · have hsign := haway.isSign
      unfold relativeDate?
      split
      next heq =>
        obtain ⟨rfl, -⟩ := List.cons.inj heq
        simp at hsign
      next heq =>
        obtain ⟨rfl, rfl⟩ := List.cons.inj heq
        rw [if_pos (by simpa using hsign)]
        exact (readOffset_eq_some_iff hsign).mpr
          ⟨plus, digits, unit, n, days, rfl, hplus, hdigits, hn, hunit, haway⟩
      next heq => cases heq

/-! ## Named and stray dates -/

/-- A text that names a date is read so. The number of days is small then, and no sign stands in
front of the digits. -/
theorem Relative.read (h : Relative today content date) :
    relativeDate? today content = some date := by
  rw [relativeDate?_eq_some_iff]
  cases h with
  | today => exact .inl ⟨rfl, rfl⟩
  | @offset sign unit digits n days _ hdigits hunit haway =>
      have hsmall := haway.lt
      have hdays : 1 ≤ days := by
        simp only [dayUnits, List.mem_cons, Prod.mk.injEq, List.not_mem_nil, or_false] at hunit
        omega
      have hn : n ≤ n * days := Nat.le_mul_of_pos_right n hdays
      refine .inr ⟨sign, [], digits, unit, n, days, rfl, .inl rfl, hdigits, by omega, hunit, ?_⟩
      rwa [Nat.mod_eq_of_lt (by omega)]

/-- A stray date is read. -/
theorem Stray.read (h : Stray today content date) : relativeDate? today content = some date := by
  rw [relativeDate?_eq_some_iff]
  cases h with
  | @offset sign unit plus digits n days _ hplus hdigits hn hunit _ haway =>
      exact .inr ⟨sign, plus, digits, unit, n, days, rfl, hplus, hdigits, hn, hunit, haway⟩

end RecordRecipe
