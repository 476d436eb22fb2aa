import Mathlib.Data.Prod.Lex
import RecordRecipe.Proofs.Calendar.DayNumber

/-!
# Dates in order

Dates are ordered by year, month and day. `Date.dayNumber_le_iff` says that their numbers stand in
the same order, and `Date.exists_addDays?` that a number of days that does not lead beyond a later
date leads to a date on the way to it.
-/

namespace RecordRecipe.Calendar.Date

variable {date other start stop : Date} {days rest : Nat}

/-- Year, month and day, compared in this order. -/
def key (date : Date) : ℤ ×ₗ ℕ ×ₗ ℕ := toLex (date.year, toLex (date.month, date.day))

theorem key_injective : Function.Injective key := by
  rintro ⟨year, month, day, _⟩ ⟨_, _, _, _⟩ h
  cases h
  rfl

instance : LinearOrder Date := LinearOrder.lift' key key_injective

theorem lt_iff : date < other ↔ date.year < other.year ∨ date.year = other.year ∧
    (date.month < other.month ∨ date.month = other.month ∧ date.day < other.day) := by
  change date.key < other.key ↔ _
  rw [key, key, Prod.Lex.toLex_lt_toLex, Prod.Lex.toLex_lt_toLex]

/-- The day after a date is later. -/
theorem lt_of_next? (h : date.next? = some other) : date < other := by
  rw [lt_iff]
  simp only [next?, Option.orElse_eq_some, of?_eq_some_iff] at h
  obtain ⟨hyear, hmonth, hday⟩ | ⟨-, ⟨hyear, hmonth, -⟩ | ⟨-, hyear, -⟩⟩ := h <;> omega

/-- What is reached from a date in one day or more is later. -/
theorem lt_of_after? (h : date.after? (days + 1) = some other) : date < other := by
  induction days generalizing date with
  | zero =>
      obtain ⟨next, hnext, hafter⟩ := Option.bind_eq_some_iff.mp h
      obtain rfl : next = other := Option.some.inj hafter
      exact lt_of_next? hnext
  | succ days ih =>
      obtain ⟨next, hnext, hafter⟩ := Option.bind_eq_some_iff.mp h
      exact (lt_of_next? hnext).trans (ih hafter)

theorem lt_of_dayNumber_lt (h : date.dayNumber < other.dayNumber) : date < other := by
  obtain ⟨days, hdays⟩ := Int.exists_add_of_le (Int.add_one_le_of_lt h)
  have hafter : date.after? (days + 1) = some other := after?_eq_some_iff.mpr (by omega)
  exact lt_of_after? hafter

/-- Dates stand in the order of their numbers. -/
theorem dayNumber_le_iff : date.dayNumber ≤ other.dayNumber ↔ date ≤ other := by
  constructor
  · intro h
    obtain heq | hlt := h.eq_or_lt
    · exact (dayNumber_injective heq).le
    · exact (lt_of_dayNumber_lt hlt).le
  · intro h
    by_contra hnot
    exact h.not_gt (lt_of_dayNumber_lt (Int.not_le.mp hnot))

/-- What is reached in some days and some more is reached from what is reached in some. -/
theorem after?_add (days rest : Nat) (date : Date) :
    date.after? (days + rest) = (date.after? days).bind (after? rest) := by
  induction days generalizing date with
  | zero => rw [Nat.zero_add]; rfl
  | succ days ih =>
      rw [Nat.add_right_comm, after?, after?, Option.bind_assoc]
      exact Option.bind_congr fun next _ => ih next

/-- The first date of the range. -/
def first : Date := ⟨minYear, 1, 1, by decide⟩

/-- A later date lies some days after another one, less than 2 ^ 31. -/
theorem daysSince_mem (h : start ≤ stop) :
    0 ≤ stop.daysSince start ∧ stop.daysSince start < 2 ^ 31 := by
  obtain ⟨days, hdays⟩ := Int.exists_add_of_le (dayNumber_le_iff.mpr h)
  have hlt := after?_lt (after?_eq_some_iff.mpr hdays)
  unfold daysSince
  omega

/-- Days that do not lead beyond a later date lead to a date on the way to it. -/
theorem exists_addDays? {offset : Int} (hoffset : 0 ≤ offset)
    (h : offset ≤ stop.daysSince start) :
    ∃ date, start.addDays? offset = some date ∧ start ≤ date ∧ date ≤ stop := by
  obtain ⟨days, rfl⟩ := Int.eq_ofNat_of_zero_le hoffset
  obtain ⟨rest, hrest⟩ := Int.exists_add_of_le h
  have hstop : start.after? (days + rest) = some stop := by
    rw [after?_eq_some_iff]
    unfold daysSince at hrest
    omega
  rw [after?_add, Option.bind_eq_some_iff] at hstop
  obtain ⟨date, hdate, hstop⟩ := hstop
  refine ⟨date, (addDays?_natCast start days).trans hdate, ?_, ?_⟩
  · rw [← dayNumber_le_iff, after?_eq_some_iff.mp hdate]
    omega
  · rw [← dayNumber_le_iff, after?_eq_some_iff.mp hstop]
    omega

end RecordRecipe.Calendar.Date
