import RecordRecipe.Proofs.Calendar.Order
import RecordRecipe.Proofs.Decimal.Rounded
import RecordRecipe.Proofs.Function.DateParts
import RecordRecipe.Proofs.Random.Draw

/-!
# Random numbers and dates

The functions `random_number` and `date_between` are called with two bounds. They draw a number or a
date between them, or draw nothing at all when the bounds stand the wrong way round.
`EagerFunction.random_between` says so for all bounds and every state of the generator.
-/

namespace RecordRecipe

open Calendar (Date)
open RecordRecipe.Random (Generator between64_mem)

/-! ## Integers of 64 signed bits -/

theorem truncateToInt64_mem (x : Float) :
    -2 ^ 63 ≤ truncateToInt64 x ∧ truncateToInt64 x < 2 ^ 63 := by
  have hlo : -(Nat.pow 2 63 : Int) ≤ 0 := by decide
  have hhi : (0 : Int) ≤ Nat.pow 2 63 - 1 := by decide
  have hmem := Decimal.clampedTrunc_mem hlo hhi x
  exact ⟨hmem.1, Int.lt_of_le_sub_one hmem.2⟩

theorem readInteger?_mem {content : List Char} {n : Int} (h : readInteger? content = some n) :
    -2 ^ 63 ≤ n ∧ n < 2 ^ 63 := by
  unfold readInteger? at h
  split at h
  next m _ =>
    obtain rfl : m.toInt = n := Option.some.inj h
    exact ⟨m.le_toInt, m.toInt_lt⟩
  next =>
    obtain ⟨x, -, rfl⟩ := Option.map_eq_some_iff.mp h
    exact truncateToInt64_mem x

/-- What a value reads as fits 64 signed bits. -/
theorem FieldValue.asInteger_mem {value : FieldValue} {function : String} {n : Int}
    (h : value.asInteger function = .ok n) : -2 ^ 63 ≤ n ∧ n < 2 ^ 63 := by
  cases value with
  | int m =>
      obtain rfl : m.toInt = n := Except.ok.inj h
      exact ⟨m.le_toInt, m.toInt_lt⟩
  | float x =>
      obtain rfl : truncateToInt64 x = n := Except.ok.inj h
      exact truncateToInt64_mem x
  | bool flag => cases flag <;> cases h <;> decide
  | text content =>
      unfold asInteger at h
      dsimp only at h
      split at h
      next m hm =>
        obtain rfl : m = n := Except.ok.inj h
        exact readInteger?_mem hm
      next => cases h
  | null | date | moment | row => cases h

/-! ## Bounds -/

namespace CallArguments

variable {arguments : CallArguments} {index : Nat} {name : String} {n : Int}

/-- An argument that reads as a date. -/
def HasDay (today : Date) (index : Nat) (name : String) (date : Date) (arguments : CallArguments) :
    Prop :=
  ∃ value, arguments.get? index name = some value ∧
    ∀ function, value.asDate function today = .ok date

/-- Dates read as themselves. -/
theorem HasDay.of_date {today date : Date} (h : arguments.get? index name = some (.date date)) :
    arguments.HasDay today index name date :=
  ⟨.date date, h, fun _ => rfl⟩

/-- An integer argument fits 64 signed bits. -/
theorem HasInteger.mem (h : arguments.HasInteger index name n) : -2 ^ 63 ≤ n ∧ n < 2 ^ 63 := by
  obtain ⟨value, -, hvalue⟩ := h
  exact FieldValue.asInteger_mem (hvalue name)

end CallArguments

namespace EagerFunction

variable {host : Host} {arguments : CallArguments} {generator : Generator} {min max : Int}
  {start stop : Date}

theorem numberBounds_eq (hmin : arguments.HasInteger 0 "min" min)
    (hmax : arguments.HasInteger 1 "max" max) :
    numberBounds arguments =
      if max < min then .error (.emptyRange min max) else .ok (min, max) := by
  unfold numberBounds
  rw [hmin.integer, hmax.integer]
  rfl

theorem dateBounds_eq (hstart : arguments.HasDay host.today 0 "start_date" start)
    (hstop : arguments.HasDay host.today 1 "end_date" stop) :
    dateBounds host arguments = .ok (start, stop) := by
  obtain ⟨first, hfirst, hstart⟩ := hstart
  obtain ⟨second, hsecond, hstop⟩ := hstop
  unfold dateBounds CallArguments.require
  rw [hfirst, hsecond]
  simp only [bind, Except.bind, hstart, hstop]
  rfl

/-! ## Draws -/

/-- A number is drawn between two bounds. -/
theorem randomNumber_of_le (hmin : arguments.HasInteger 0 "min" min)
    (hmax : arguments.HasInteger 1 "max" max) (h : min ≤ max) :
    ∃ n : Int64, min ≤ n.toInt ∧ n.toInt ≤ max ∧
      (randomNumber host arguments generator).1 = .ok (.int n) := by
  have hdrawn := between64_mem hmin.mem.1 h hmax.mem.2 generator
  have hread : (Int64.ofInt (Random.between64 min max generator).1).toInt =
      (Random.between64 min max generator).1 :=
    Int64.toInt_ofInt_of_le (hmin.mem.1.trans hdrawn.1) (hdrawn.2.trans_lt hmax.mem.2)
  refine ⟨.ofInt (Random.between64 min max generator).1, ?_, ?_, ?_⟩
  · exact hread.symm ▸ hdrawn.1
  · exact hread.symm ▸ hdrawn.2
  · unfold randomNumber
    rw [numberBounds_eq hmin hmax, if_neg (Int.not_lt.mpr h)]
    rfl

/-- Bounds that stand the wrong way round are a fault. -/
theorem randomNumber_of_lt (hmin : arguments.HasInteger 0 "min" min)
    (hmax : arguments.HasInteger 1 "max" max) (h : max < min) :
    randomNumber host arguments generator = (.error (.emptyRange min max), generator) := by
  unfold randomNumber
  rw [numberBounds_eq hmin hmax, if_pos h]

/-- A date is drawn between two others. -/
theorem dateBetween_of_le (hstart : arguments.HasDay host.today 0 "start_date" start)
    (hstop : arguments.HasDay host.today 1 "end_date" stop) (h : start ≤ stop) :
    ∃ date, start ≤ date ∧ date ≤ stop ∧
      (dateBetween host arguments generator).1 = .ok (.date date) := by
  obtain ⟨hspan, hmost⟩ := Date.daysSince_mem h
  have hzero : (-2 ^ 63 : Int) ≤ 0 := by decide
  have hdrawn := between64_mem hzero hspan (by omega) generator
  obtain ⟨date, hdate, hfrom, huntil⟩ := Date.exists_addDays? hdrawn.1 hdrawn.2
  refine ⟨date, hfrom, huntil, ?_⟩
  unfold dateBetween
  rw [dateBounds_eq hstart hstop]
  dsimp only
  rw [if_neg (Int.not_lt.mpr hspan)]
  dsimp only
  rw [hdate]
  rfl

/-- Between dates that stand the wrong way round there is none. -/
theorem dateBetween_of_lt (hstart : arguments.HasDay host.today 0 "start_date" start)
    (hstop : arguments.HasDay host.today 1 "end_date" stop) (h : stop < start) :
    dateBetween host arguments generator = (.ok .null, generator) := by
  have hspan : stop.daysSince start < 0 := by
    rw [← not_le, ← Date.dayNumber_le_iff] at h
    unfold Date.daysSince
    omega
  unfold dateBetween
  rw [dateBounds_eq hstart hstop]
  exact if_pos hspan

/-- Whatever the state of the generator, a number or a date that is drawn between two bounds lies
between them, and nothing is drawn when the bounds stand the wrong way round: this is a value error
for numbers and null for dates. -/
theorem random_between (host : Host) (arguments : CallArguments) (generator : Generator) :
    (∃ function, EagerFunction.ofName? "random_number" = some function ∧
      ∀ min max, arguments.HasInteger 0 "min" min → arguments.HasInteger 1 "max" max →
        (min ≤ max → ∃ n : Int64, min ≤ n.toInt ∧ n.toInt ≤ max ∧
          (function host arguments generator).1 = .ok (.int n)) ∧
        (max < min → ∃ fault, fault.kind = .value ∧
          function host arguments generator = (.error fault, generator))) ∧
    ∃ function, EagerFunction.ofName? "date_between" = some function ∧
      ∀ start stop, arguments.HasDay host.today 0 "start_date" start →
        arguments.HasDay host.today 1 "end_date" stop →
        (start ≤ stop → ∃ date, start ≤ date ∧ date ≤ stop ∧
          (function host arguments generator).1 = .ok (.date date)) ∧
        (stop < start → function host arguments generator = (.ok .null, generator)) := by
  refine ⟨⟨randomNumber, rfl, fun min max hmin hmax => ?_⟩,
    ⟨dateBetween, rfl, fun start stop hstart hstop => ?_⟩⟩
  · refine ⟨randomNumber_of_le hmin hmax, fun h => ?_⟩
    exact ⟨.emptyRange min max, rfl, randomNumber_of_lt hmin hmax h⟩
  · exact ⟨dateBetween_of_le hstart hstop, dateBetween_of_lt hstart hstop⟩

/-- Bounds of numbers by name, and bounds of dates by position. -/
def boundArguments (min max : Int64) (start stop : Date) : CallArguments :=
  ⟨[.date start, .date stop], [("min", .int min), ("max", .int max)]⟩

/-- A number is drawn out of all integers of 64 bits and a date out of all dates, and nothing is
drawn when these stand the other way round. -/
theorem random_between_widest :
    ((∃ n : Int64, -2 ^ 63 ≤ n.toInt ∧ n.toInt ≤ 2 ^ 63 - 1 ∧
        (randomNumber .blank (boundArguments .minValue .maxValue .first .last) (.ofSeed 7)).1 =
          .ok (.int n)) ∧
      ∃ date, Date.first ≤ date ∧ date ≤ Date.last ∧
        (dateBetween .blank (boundArguments .minValue .maxValue .first .last) (.ofSeed 7)).1 =
          .ok (.date date)) ∧
    (∃ fault, fault.kind = .value ∧
      randomNumber .blank (boundArguments .maxValue .minValue .last .first) (.ofSeed 7) =
        (.error fault, .ofSeed 7)) ∧
    dateBetween .blank (boundArguments .maxValue .minValue .last .first) (.ofSeed 7) =
      (.ok .null, .ofSeed 7) := by
  obtain ⟨⟨_, ⟨⟩, hnumbers⟩, ⟨_, ⟨⟩, hdates⟩⟩ := random_between .blank
    (boundArguments .minValue .maxValue .first .last) (.ofSeed 7)
  obtain ⟨⟨_, ⟨⟩, hnoNumbers⟩, ⟨_, ⟨⟩, hnoDates⟩⟩ := random_between .blank
    (boundArguments .maxValue .minValue .last .first) (.ofSeed 7)
  refine ⟨⟨?_, ?_⟩, ?_, ?_⟩
  · exact (hnumbers _ _ (.of_int rfl) (.of_int rfl)).1 (by decide)
  · exact (hdates _ _ (.of_date rfl) (.of_date rfl)).1 (Date.dayNumber_le_iff.mp (by decide))
  · exact (hnoNumbers _ _ (.of_int rfl) (.of_int rfl)).2 (by decide)
  · exact (hnoDates _ _ (.of_date rfl) (.of_date rfl)).2 (Date.lt_of_dayNumber_lt (by decide))

end EagerFunction

end RecordRecipe
