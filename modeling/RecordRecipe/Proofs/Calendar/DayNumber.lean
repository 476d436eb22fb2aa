import Mathlib.Tactic.IntervalCases
import RecordRecipe.Calendar.Date

/-!
# Day numbers of dates

Years that begin with March have their leap day at the end, so that the months have fixed places in
them, and four hundred of them make up an era. A day number is taken apart along such years:
`ofDayNumber?_eq_some_iff` says that this gives the date with that number, and
`Date.after?_eq_some_iff` that numbers of dates lie as far apart as the dates do when one counts
through the calendar day by day.
-/

namespace RecordRecipe.Calendar

variable {year era n : Int} {p q r k : Nat}

/-! ## Years that begin with March -/

/-- The days in front of 1 March of a year, counted from 1 March of the year zero. -/
def daysBefore (year : Int) : Int :=
  365 * year + year / 4 - year / 100 + year / 400

/-- How many days lie between 1 March of a year and 1 March of the next. -/
def yearLength (year : Int) : Nat :=
  if isLeap (year + 1) then 366 else 365

/-- The month of the day that lies a number of days behind 1 March. -/
def monthOfDay (k : Nat) : Nat :=
  if (5 * k + 2) / 153 < 10 then (5 * k + 2) / 153 + 3 else (5 * k + 2) / 153 - 9

/-- The day in its month, of the day that lies a number of days behind 1 March. -/
def dayOfMonth (k : Nat) : Nat :=
  k - (153 * ((5 * k + 2) / 153) + 2) / 5 + 1

/-- Counted from March, the months have the numbers from 0 to 11. -/
theorem monthOfDay_add_nine (hk : k ≤ 365) : (monthOfDay k + 9) % 12 = (5 * k + 2) / 153 := by
  unfold monthOfDay
  split <;> omega

theorem isLeap_iff : isLeap year = true ↔ year % 4 = 0 ∧ (year % 100 ≠ 0 ∨ year % 400 = 0) := by
  simp [isLeap]

/-- A year by its era, and within it by century, by group of four years and by place in that. -/
structure InEra (year era : Int) (p q r : Nat) : Prop where
  century : p ≤ 3
  group : q ≤ 24
  place : r ≤ 3
  eq : year = 400 * era + (100 * p + 4 * q + r : Nat)

theorem exists_inEra (year : Int) : ∃ era p q r, InEra year era p q r :=
  ⟨year / 400, (year % 400).toNat / 100, (year % 400).toNat % 100 / 4, (year % 400).toNat % 4,
    by omega, by omega, by omega, by omega⟩

/-- An era has 146097 days, a century 36524 and a group of four years 1461, but for the leap days
that close some of them. -/
theorem InEra.daysBefore (h : InEra year era p q r) :
    daysBefore year = 146097 * era + (36524 * p + 1461 * q + 365 * r : Nat) := by
  obtain ⟨hp, hq, hr, rfl⟩ := h
  have hfours : (400 * era + (100 * p + 4 * q + r : Nat)) / 4 = 100 * era + (25 * p + q : Nat) := by
    omega
  have hcenturies : (400 * era + (100 * p + 4 * q + r : Nat)) / 100 = 4 * era + (p : Nat) := by
    omega
  have heras : (400 * era + (100 * p + 4 * q + r : Nat)) / 400 = era := by omega
  rw [Calendar.daysBefore, hfours, hcenturies, heras]
  omega

/-- A leap day closes every group of four years, except the last one of a century that does not
close an era. -/
theorem InEra.isLeap_succ_iff (h : InEra year era p q r) :
    isLeap (year + 1) = true ↔ r = 3 ∧ (q = 24 → p = 3) := by
  obtain ⟨hp, hq, hr, rfl⟩ := h
  rw [isLeap_iff]
  omega

theorem InEra.lt_yearLength_iff (h : InEra year era p q r) :
    k < yearLength year ↔ k ≤ 365 ∧ (k = 365 → r = 3 ∧ (q = 24 → p = 3)) := by
  rw [← h.isLeap_succ_iff]
  unfold yearLength
  split
  next hleap => exact ⟨fun hk => ⟨by omega, fun _ => hleap⟩, fun hk => by omega⟩
  next hleap => exact ⟨fun hk => ⟨by omega, by omega⟩, fun hk => by
    have : k ≠ 365 := fun heq => hleap (hk.2 heq)
    omega⟩

/-- The year in its era, of a day in the era: one day is taken off for every group of four years
before it, one is put back for every century and one taken off for the era. -/
theorem yearOfEra_eq (hp : p ≤ 3) (hq : q ≤ 24) (hr : r ≤ 3)
    (hk : k ≤ 365 ∧ (k = 365 → r = 3 ∧ (q = 24 → p = 3))) {day : Nat}
    (hday : day = 36524 * p + 1461 * q + 365 * r + k) :
    (day - day / 1460 + day / 36524 - day / 146096) / 365 = 100 * p + 4 * q + r := by
  obtain ⟨hk, hlast⟩ := hk
  by_cases hend : day = 146096
  · subst hend
    obtain ⟨rfl, rfl, rfl⟩ : p = 3 ∧ q = 24 ∧ r = 3 := by omega
    rfl
  · have hcentury : day / 36524 = p := Nat.div_eq_of_lt_le (by omega) (by omega)
    have hera : day / 146096 = 0 := Nat.div_eq_of_lt (by omega)
    rw [hcentury, hera]
    -- Near the end of a group the days taken off run ahead by one, but not on the first day of a
    -- year, and before that there is no leap day.
    obtain hearly | hlate := Nat.lt_or_ge (24 * p + q + 365 * r + k) 1460
    · have hgroup : day / 1460 = 25 * p + q := Nat.div_eq_of_lt_le (by omega) (by omega)
      have hk : k ≤ 364 := by omega
      rw [hgroup]
      exact Nat.div_eq_of_lt_le (by omega) (by omega)
    · have hgroup : day / 1460 = 25 * p + q + 1 := Nat.div_eq_of_lt_le (by omega) (by omega)
      have hk : 1 ≤ k := by omega
      rw [hgroup]
      exact Nat.div_eq_of_lt_le (by omega) (by omega)

/-- A day number gives the date of its day in its year. -/
theorem ofDayNumber?_eq (hk : k < yearLength year) :
    Date.ofDayNumber? (daysBefore year + k) =
      Date.of? (year + if monthOfDay k ≤ 2 then 1 else 0) (monthOfDay k) (dayOfMonth k) := by
  obtain ⟨era, p, q, r, h⟩ := exists_inEra year
  have hbound := h.lt_yearLength_iff.mp hk
  obtain ⟨hp, hq, hr, hyear⟩ := id h
  have hera : (daysBefore year + k) / 146097 = era := by
    rw [h.daysBefore]
    omega
  have hday : ((daysBefore year + k) % 146097).toNat = 36524 * p + 1461 * q + 365 * r + k := by
    rw [h.daysBefore]
    omega
  have hstart : 365 * (100 * p + 4 * q + r) + (100 * p + 4 * q + r) / 4 -
      (100 * p + 4 * q + r) / 100 = 36524 * p + 1461 * q + 365 * r := by omega
  unfold Date.ofDayNumber?
  simp only [hera, hday, yearOfEra_eq hp hq hr hbound rfl, hstart, Nat.add_sub_cancel_left]
  rw [hyear]
  rfl

/-- Every number is that of a day in a year. -/
theorem exists_day (n : Int) : ∃ year : Int, ∃ k < yearLength year, n = daysBefore year + k := by
  have hday : (n % 146097).toNat < 146097 := by omega
  generalize hrest : (n % 146097).toNat = day at hday
  -- The last day of an era, of a century and of a group belongs to their last year.
  obtain ⟨p, hp, hcentury⟩ : ∃ p ≤ 3, 36524 * p ≤ day ∧
      (day < 36524 * p + 36524 ∨ p = 3 ∧ day = 36524 * p + 36524) :=
    ⟨min (day / 36524) 3, by omega, by omega, by omega⟩
  obtain ⟨q, hq, hgroup⟩ : ∃ q ≤ 24, 36524 * p + 1461 * q ≤ day ∧
      day < 36524 * p + 1461 * q + 1461 :=
    ⟨(day - 36524 * p) / 1461, by omega, by omega, by omega⟩
  obtain ⟨r, hr, hplace⟩ : ∃ r ≤ 3, 36524 * p + 1461 * q + 365 * r ≤ day ∧
      (day < 36524 * p + 1461 * q + 365 * r + 365 ∨
        r = 3 ∧ day = 36524 * p + 1461 * q + 365 * r + 365) :=
    ⟨min ((day - 36524 * p - 1461 * q) / 365) 3, by omega, by omega, by omega⟩
  have h : InEra (400 * (n / 146097) + (100 * p + 4 * q + r : Nat)) (n / 146097) p q r :=
    ⟨hp, hq, hr, rfl⟩
  refine ⟨_, day - (36524 * p + 1461 * q + 365 * r), h.lt_yearLength_iff.mpr ⟨?_, ?_⟩, ?_⟩
  · omega
  · omega
  · rw [h.daysBefore]
    omega

/-! ## Dates in years that begin with March -/

theorem isDate_iff {month day : Nat} :
    isDate year month day = true ↔ (minYear ≤ year ∧ year ≤ maxYear) ∧ (1 ≤ month ∧ month ≤ 12) ∧
      1 ≤ day ∧ day ≤ monthLength year month := by
  simp [isDate, and_assoc]

namespace Date

variable {date other : Date}

/-- A date from a year, a month and a day has these. -/
theorem of?_eq_some_iff {month day : Nat} :
    of? year month day = some date ↔ date.year = year ∧ date.month = month ∧ date.day = day := by
  unfold of?
  split
  next valid =>
    constructor
    · rintro ⟨⟩
      exact ⟨rfl, rfl, rfl⟩
    · rintro ⟨rfl, rfl, rfl⟩
      rfl
  next invalid =>
    refine ⟨nofun, ?_⟩
    rintro ⟨rfl, rfl, rfl⟩
    exact absurd date.valid invalid

/-- The year of a date when years begin with March. -/
def marchYear (date : Date) : Int :=
  if date.month ≤ 2 then date.year - 1 else date.year

/-- How many days a date lies behind 1 March. -/
def marchDay (date : Date) : Nat :=
  (153 * ((date.month + 9) % 12) + 2) / 5 + date.day - 1

theorem dayNumber_eq (date : Date) : date.dayNumber = daysBefore date.marchYear + date.marchDay :=
  rfl

theorem bounds (date : Date) : (minYear ≤ date.year ∧ date.year ≤ maxYear) ∧
    (1 ≤ date.month ∧ date.month ≤ 12) ∧ 1 ≤ date.day ∧
      date.day ≤ monthLength date.year date.month :=
  isDate_iff.mp date.valid

/-- In years that begin with March every month but the last ends where the next one begins. -/
theorem add_monthLength (year : Int) {month : Nat} (hleast : 1 ≤ month) (hmost : month ≤ 12)
    (hmonth : month ≠ 2) : (153 * ((month + 9) % 12) + 2) / 5 + monthLength year month =
      (153 * ((month + 9) % 12 + 1) + 2) / 5 := by
  interval_cases month
  case _ => rfl
  case _ => exact absurd rfl hmonth
  all_goals rfl

theorem monthLength_february : monthLength year 2 = if isLeap year = true then 29 else 28 := rfl

/-- February has at most 29 days. -/
theorem monthLength_february_le : monthLength year 2 ≤ 29 := by
  rw [monthLength_february]
  split <;> decide

/-- The place of a date in its year gives month and day back. -/
theorem marchDay_spec (date : Date) :
    monthOfDay date.marchDay = date.month ∧ dayOfMonth date.marchDay = date.day := by
  obtain ⟨-, ⟨hleast, hmost⟩, hfirst, hlast⟩ := date.bounds
  have hend : (153 * ((date.month + 9) % 12) + 2) / 5 + date.day ≤
      (153 * ((date.month + 9) % 12 + 1) + 2) / 5 := by
    by_cases hmonth : date.month = 2
    · rw [hmonth] at hlast ⊢
      have := hlast.trans monthLength_february_le
      omega
    · rw [← add_monthLength date.year hleast hmost hmonth]
      exact Nat.add_le_add_left hlast _
  have hmonth : (5 * date.marchDay + 2) / 153 = (date.month + 9) % 12 := by
    unfold marchDay
    generalize (date.month + 9) % 12 = shifted at *
    exact Nat.div_eq_of_lt_le (by omega) (by omega)
  unfold monthOfDay dayOfMonth
  rw [hmonth]
  refine ⟨?_, ?_⟩
  · split <;> omega
  · unfold marchDay
    omega

theorem le_yearLength (year : Int) : 365 ≤ yearLength year := by
  unfold yearLength
  split <;> decide

theorem yearLength_le (year : Int) : yearLength year ≤ 366 := by
  unfold yearLength
  split <;> decide

/-- The days in front of a year and those of the year are in front of the next one. -/
theorem daysBefore_succ (year : Int) : daysBefore (year + 1) = daysBefore year + yearLength year := by
  unfold daysBefore yearLength
  split
  next hleap =>
    rw [isLeap_iff] at hleap
    omega
  next hleap =>
    rw [isLeap_iff] at hleap
    omega

theorem daysBefore_mono {year other : Int} (h : year ≤ other) : daysBefore year ≤ daysBefore other := by
  unfold daysBefore
  omega

/-- A date lies in its year: the year ends with February, which has as many days as the year has
more than 337. -/
theorem marchDay_lt (date : Date) : date.marchDay < yearLength date.marchYear := by
  obtain ⟨-, ⟨hleast, hmost⟩, hfirst, hlast⟩ := date.bounds
  by_cases hmonth : date.month = 2
  · have hyear : date.marchYear = date.year - 1 := if_pos (hmonth ▸ le_rfl)
    have hday : date.marchDay = 337 + date.day - 1 := by rw [marchDay, hmonth]
    rw [hmonth, monthLength_february] at hlast
    rw [hyear, hday, yearLength, Int.sub_add_cancel]
    split at hlast
    next hleap =>
      rw [if_pos hleap]
      omega
    next hleap =>
      rw [if_neg hleap]
      omega
  · have hlength := le_yearLength date.marchYear
    have hend := add_monthLength date.year hleast hmost hmonth
    unfold marchDay
    omega

/-! ## Day numbers and dates -/

/-- The date with the day number of a date is that date. -/
theorem ofDayNumber?_dayNumber (date : Date) : ofDayNumber? date.dayNumber = some date := by
  obtain ⟨hmonth, hday⟩ := date.marchDay_spec
  rw [dayNumber_eq, ofDayNumber?_eq date.marchDay_lt, of?_eq_some_iff, hmonth, hday]
  refine ⟨?_, rfl, rfl⟩
  unfold marchYear
  split <;> omega

/-- A day number gives the date that has this number, if there is one. -/
theorem ofDayNumber?_eq_some_iff : ofDayNumber? n = some date ↔ date.dayNumber = n := by
  refine ⟨fun h => ?_, fun h => h ▸ ofDayNumber?_dayNumber date⟩
  obtain ⟨year, k, hk, rfl⟩ := exists_day n
  rw [ofDayNumber?_eq hk, of?_eq_some_iff] at h
  obtain ⟨hyear, hmonth, hday⟩ := h
  have hmarchYear : date.marchYear = year := by
    unfold marchYear
    rw [hyear, hmonth]
    split <;> omega
  have hmarchDay : date.marchDay = k := by
    have hlength := yearLength_le year
    rw [marchDay, hmonth, hday, monthOfDay_add_nine (by omega), dayOfMonth]
    omega
  rw [dayNumber_eq, hmarchYear, hmarchDay]

/-- Two dates have different day numbers. -/
theorem dayNumber_injective (h : date.dayNumber = other.dayNumber) : date = other :=
  Option.some.inj ((ofDayNumber?_dayNumber date).symm.trans (h ▸ ofDayNumber?_dayNumber other))

/-! ## Day after day -/

/-- The day after a date: the next of its month, else the first of the next month, else the first
of the next year. -/
def next? (date : Date) : Option Date :=
  of? date.year date.month (date.day + 1) <|> of? date.year (date.month + 1) 1 <|>
    of? (date.year + 1) 1 1

/-- The date that is reached from another one in a number of days. -/
def after? : Nat → Date → Option Date
  | 0, date => some date
  | days + 1, date => date.next?.bind (after? days)

/-- The last date of the range. -/
def last : Date := ⟨maxYear, 12, 31, by decide⟩

theorem of?_eq_none_iff {month day : Nat} :
    of? year month day = none ↔ ¬ isDate year month day = true := by
  unfold of?
  split <;> simp_all

/-- A month has a first day. -/
theorem one_le_monthLength (year : Int) (month : Nat) : 1 ≤ monthLength year month := by
  unfold monthLength
  repeat' split
  all_goals decide

theorem monthLength_le (year : Int) (month : Nat) : monthLength year month ≤ 31 := by
  unfold monthLength
  repeat' split
  all_goals decide

/-- A date that has no next one in its month is the last of it. -/
theorem day_of_none (h : of? date.year date.month (date.day + 1) = none) :
    date.day = monthLength date.year date.month := by
  obtain ⟨hyear, hmonth, hfirst, hlast⟩ := date.bounds
  rw [of?_eq_none_iff, isDate_iff] at h
  by_contra hne
  exact h ⟨hyear, hmonth, by omega, by omega⟩

/-- A date whose month has no next one in the year lies in December. -/
theorem month_of_none (h : of? date.year (date.month + 1) 1 = none) : date.month = 12 := by
  obtain ⟨hyear, ⟨hleast, hmost⟩, -⟩ := date.bounds
  rw [of?_eq_none_iff, isDate_iff] at h
  by_contra hne
  exact h ⟨hyear, ⟨by omega, by omega⟩, le_rfl, one_le_monthLength _ _⟩

/-- A date whose year is not followed by another one lies in the last year of the range. -/
theorem year_of_none (h : of? (date.year + 1) 1 1 = none) : date.year = maxYear := by
  obtain ⟨⟨hfrom, huntil⟩, -⟩ := date.bounds
  rw [of?_eq_none_iff, isDate_iff] at h
  by_contra hne
  exact h ⟨⟨by omega, by omega⟩, by decide, le_rfl, one_le_monthLength _ _⟩

/-- The first of the next month has the next number. -/
theorem dayNumber_first (hday : date.day = monthLength date.year date.month)
    (h : of? date.year (date.month + 1) 1 = some other) :
    other.dayNumber = date.dayNumber + 1 := by
  obtain ⟨-, ⟨hleast, hmost⟩, hfirst, -⟩ := date.bounds
  obtain ⟨hyear, hmonth, hone⟩ := of?_eq_some_iff.mp h
  have hnext := other.bounds.2.1.2
  rw [dayNumber_eq, dayNumber_eq, marchYear, marchYear, marchDay, marchDay, hyear, hmonth, hone]
  by_cases hfebruary : date.month = 2
  · have hlength := daysBefore_succ (date.year - 1)
    rw [hfebruary, monthLength_february] at hday
    rw [Int.sub_add_cancel, yearLength, Int.sub_add_cancel] at hlength
    rw [hfebruary, if_neg (by decide), if_pos (by decide), hlength, hday]
    split <;> omega
  · have hend := add_monthLength date.year hleast hmost hfebruary
    have hshifted : (date.month + 1 + 9) % 12 = (date.month + 9) % 12 + 1 := by omega
    rw [hshifted]
    split <;> split <;> omega

/-- The next date has the next number. -/
theorem dayNumber_of_next? (h : date.next? = some other) :
    other.dayNumber = date.dayNumber + 1 := by
  have hfirst := date.bounds.2.2.1
  unfold next? at h
  cases hday : of? date.year date.month (date.day + 1) with
  | some next =>
      rw [hday] at h
      cases h
      obtain ⟨hyear, hmonth, hday⟩ := of?_eq_some_iff.mp hday
      rw [dayNumber_eq, dayNumber_eq, marchYear, marchYear, marchDay, marchDay, hyear, hmonth, hday]
      omega
  | none =>
      rw [hday] at h
      have hlast := day_of_none hday
      cases hmonth : of? date.year (date.month + 1) 1 with
      | some next =>
          rw [hmonth] at h
          cases h
          exact dayNumber_first hlast hmonth
      | none =>
          rw [hmonth] at h
          have hdecember := month_of_none hmonth
          obtain ⟨hyear, hmonth, hday⟩ := of?_eq_some_iff.mp h
          have hdays : monthLength date.year date.month = 31 := by rw [hdecember]; rfl
          rw [dayNumber_eq, dayNumber_eq, marchYear, marchYear, marchDay, marchDay, hyear, hmonth,
            hday, hlast, hdays, hdecember, if_pos (by decide), if_neg (by decide),
            Int.add_sub_cancel]
          omega

/-- No date has a greater number than the last one of the range. -/
theorem dayNumber_le_last (date : Date) : date.dayNumber ≤ last.dayNumber := by
  obtain ⟨⟨-, huntil⟩, ⟨hleast, hmost⟩, -, hday⟩ := date.bounds
  have hlength := date.marchDay_lt
  have hlast : last.dayNumber = daysBefore maxYear + 305 := rfl
  rw [dayNumber_eq, hlast]
  by_cases hyear : date.marchYear < maxYear
  · have hnext := daysBefore_succ date.marchYear
    have hmono := daysBefore_mono (show date.marchYear + 1 ≤ maxYear from hyear)
    omega
  · -- The last year of the range breaks off with December.
    have hmonth : 2 < date.month := by
      by_contra hmonth
      rw [marchYear, if_pos (by omega)] at hyear
      omega
    have hmarchYear : date.marchYear = date.year := if_neg (by omega)
    have hend := add_monthLength date.year hleast hmost (by omega)
    have hmarchDay : date.marchDay ≤ 305 := by
      unfold marchDay
      omega
    have hmono := daysBefore_mono huntil
    rw [hmarchYear]
    omega

/-- Only the last date of the range has no next one. -/
theorem eq_last_of_next? (h : date.next? = none) : date = last := by
  unfold next? at h
  cases hday : of? date.year date.month (date.day + 1) with
  | some next =>
      rw [hday] at h
      cases h
  | none =>
      rw [hday] at h
      cases hmonth : of? date.year (date.month + 1) 1 with
      | some next =>
          rw [hmonth] at h
          cases h
      | none =>
          rw [hmonth] at h
          have hyear : date.year = maxYear := year_of_none h
          have hdecember := month_of_none hmonth
          have hdays : monthLength date.year date.month = 31 := by rw [hdecember]; rfl
          have hlast := (day_of_none hday).trans hdays
          obtain ⟨year, month, day, valid⟩ := date
          obtain ⟨rfl, rfl, rfl⟩ : year = maxYear ∧ month = 12 ∧ day = 31 :=
            ⟨hyear, hdecember, hlast⟩
          rfl

theorem next?_eq_some_iff : date.next? = some other ↔ other.dayNumber = date.dayNumber + 1 := by
  refine ⟨dayNumber_of_next?, fun h => ?_⟩
  cases hnext : date.next? with
  | some next =>
      rw [dayNumber_injective (h.trans (dayNumber_of_next? hnext).symm)]
  | none =>
      have hlast := other.dayNumber_le_last
      rw [h, eq_last_of_next? hnext] at hlast
      omega

/-- A date is reached in as many days as its number is greater. -/
theorem after?_eq_some_iff {days : Nat} :
    date.after? days = some other ↔ other.dayNumber = date.dayNumber + days := by
  induction days generalizing date with
  | zero =>
      rw [after?, Option.some_inj, Nat.cast_zero, Int.add_zero]
      exact ⟨fun h => h ▸ rfl, fun h => dayNumber_injective h.symm⟩
  | succ days ih =>
      rw [after?, Option.bind_eq_some_iff]
      constructor
      · rintro ⟨next, hnext, hafter⟩
        rw [ih.mp hafter, next?_eq_some_iff.mp hnext]
        push_cast
        omega
      · intro h
        cases hnext : date.next? with
        | none =>
            have hlast := other.dayNumber_le_last
            rw [h, ← eq_last_of_next? hnext] at hlast
            omega
        | some next =>
            refine ⟨next, rfl, ih.mpr ?_⟩
            rw [next?_eq_some_iff.mp hnext, h]
            push_cast
            omega

/-! ## Numbers of days -/

/-- Adding days counts on through the calendar. -/
theorem addDays?_natCast (date : Date) (days : Nat) : date.addDays? days = date.after? days :=
  Option.ext fun _ => ofDayNumber?_eq_some_iff.trans after?_eq_some_iff.symm

/-- Taking days off counts back through the calendar. -/
theorem addDays?_neg_eq_some_iff {days : Nat} :
    date.addDays? (-(days : Int)) = some other ↔ other.after? days = some date := by
  rw [addDays?, ofDayNumber?_eq_some_iff, after?_eq_some_iff]
  omega

/-- Dates lie less than 2 ^ 31 days apart. -/
theorem after?_lt {days : Nat} (h : date.after? days = some other) : days < 2 ^ 31 := by
  rw [after?_eq_some_iff] at h
  have hleast : daysBefore (minYear - 1) ≤ date.dayNumber := by
    have hyear : minYear - 1 ≤ date.marchYear := by
      have hfrom := date.bounds.1.1
      unfold marchYear
      split <;> omega
    rw [dayNumber_eq]
    exact (daysBefore_mono hyear).trans (Int.le_add_of_nonneg_right (Int.natCast_nonneg _))
  have hspan : last.dayNumber - daysBefore (minYear - 1) < 2 ^ 31 := by decide
  have hmost := other.dayNumber_le_last
  omega

end Date

end RecordRecipe.Calendar
