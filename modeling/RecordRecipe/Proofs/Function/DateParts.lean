import Mathlib.Data.Int.ModEq
import RecordRecipe.Function.Eager
import RecordRecipe.Proofs.Calendar.DayNumber

/-!
# Dates and moments from numbers

The functions `date` and `datetime` are called with the parts of a date and of a time of day as
numbers of 64 bits. They reduce each number to 32 bits and then look for a date that has the reduced
numbers as its parts. `EagerFunction.parts_reduced` says what they find so, and that this has the
numbers themselves as its parts only if each of them fits its 32 bits.
-/

namespace RecordRecipe

open Calendar (Date Moment)

/-- Equal but for a multiple of `2 ^ 32`. -/
def Agree (m n : Int) : Prop := m ≡ n [ZMOD 2 ^ 32]

instance (m n : Int) : Decidable (Agree m n) := inferInstanceAs (Decidable (m ≡ n [ZMOD 2 ^ 32]))

/-- The range of 32 bits. -/
def Word (n : Int) : Prop := 0 ≤ n ∧ n < 2 ^ 32

/-- The range of 32 signed bits. -/
def SignedWord (n : Int) : Prop := -2 ^ 31 ≤ n ∧ n < 2 ^ 31

/-- A date whose parts are related to numbers. -/
structure DateOf (R : Int → Int → Prop) (year month day : Int) (date : Date) : Prop where
  year : R date.year year
  month : R date.month month
  day : R date.day day

/-- A moment whose parts are related to numbers. Numbers do not lead to leap seconds. -/
structure MomentOf (R : Int → Int → Prop) (year month day hour minute second : Int)
    (moment : Moment) : Prop where
  date : DateOf R year month day moment.date
  hour : R moment.hour hour
  minute : R moment.minute minute
  second : R moment.second second
  leap : moment.leap = false

/-- A run without rows. -/
def Host.blank : Host := ⟨.epoch, fun _ => none, fun _ => 0, fun _ => none, .builtin⟩

/-- What the function of a name results in, with no random numbers drawn. -/
def Results (name : String) (host : Host) (arguments : CallArguments)
    (result : Except CallFault FieldValue) : Prop :=
  ∃ function, EagerFunction.ofName? name = some function ∧
    ∀ generator, function host arguments generator = (result, generator)

/-- The function of a name gives just what meets a condition. When nothing does, its call is a value
error. -/
structure GivesJust {α : Type} (name : String) (make : α → FieldValue) (Meets : α → Prop)
    (host : Host) (arguments : CallArguments) : Prop where
  found : ∀ value, Results name host arguments (.ok value) ↔ ∃ a, Meets a ∧ value = make a
  fault : (∀ a, ¬ Meets a) →
    ∃ fault, Results name host arguments (.error fault) ∧ fault.kind = .value

/-! ## Calls with numbers -/

namespace CallArguments

/-- An argument that reads as an integer. -/
def HasInteger (index : Nat) (name : String) (n : Int) (arguments : CallArguments) : Prop :=
  ∃ value, arguments.get? index name = some value ∧ ∀ function, value.asInteger function = .ok n

/-- An argument that reads as an integer and may be left out when this is zero. -/
def HasIntegerOrZero (index : Nat) (name : String) (n : Int) (arguments : CallArguments) : Prop :=
  arguments.HasInteger index name n ∨ arguments.get? index name = none ∧ n = 0

/-- The arguments are the parts of a date. -/
structure HasDate (year month day : Int) (arguments : CallArguments) : Prop where
  year : arguments.HasInteger 0 "year" year
  month : arguments.HasInteger 1 "month" month
  day : arguments.HasInteger 2 "day" day

/-- The arguments are the parts of a time of day. -/
structure HasTime (hour minute second : Int) (arguments : CallArguments) : Prop where
  hour : arguments.HasIntegerOrZero 3 "hour" hour
  minute : arguments.HasIntegerOrZero 4 "minute" minute
  second : arguments.HasIntegerOrZero 5 "second" second

variable {arguments : CallArguments} {index : Nat} {name : String} {n year month day : Int}

/-- Integers of 64 bits read as themselves. -/
theorem HasInteger.of_int {n : Int64} (h : arguments.get? index name = some (.int n)) :
    arguments.HasInteger index name n.toInt :=
  ⟨.int n, h, fun _ => rfl⟩

theorem HasInteger.integer {function : String} (h : arguments.HasInteger index name n) :
    arguments.integer function index name = .ok n := by
  obtain ⟨value, hvalue, hn⟩ := h
  unfold CallArguments.integer require
  rw [hvalue]
  exact hn function

theorem HasIntegerOrZero.timePart (h : arguments.HasIntegerOrZero index name n) :
    EagerFunction.timePart index name arguments = .ok (n % UInt32.size).toNat := by
  unfold EagerFunction.timePart
  obtain ⟨value, hvalue, hn⟩ | ⟨hnone, rfl⟩ := h
  · rw [hvalue]
    simp only [hn]
    rfl
  · rw [hnone]
    rfl

/-- A single argument is the first one by position, or else the one of a name. -/
theorem get?_of_count_eq_one {other : String} (hcount : arguments.count = 1)
    (hother : arguments.get? 0 other ≠ none) (hindex : index ≠ 0) (hname : name ≠ other) :
    arguments.get? index name = none := by
  obtain ⟨positional, named⟩ := arguments
  unfold get? at hother ⊢
  cases named with
  | nil =>
      have hlength : positional.length = 1 := hcount
      exact List.getElem?_eq_none (show positional.length ≤ index by omega)
  | cons entry rest =>
      obtain ⟨key, value⟩ := entry
      have hlength : positional.length + (rest.length + 1) = 1 := hcount
      obtain rfl : positional = [] := List.eq_nil_of_length_eq_zero (by omega)
      obtain rfl : rest = [] := List.eq_nil_of_length_eq_zero (by omega)
      have hkey : key = other := by
        by_contra hkey
        exact hother (by simp [Assoc.find?, hkey])
      simp [Assoc.find?, hkey, Ne.symm hname]

/-- A year and a month are more than a single argument. -/
theorem HasDate.count_ne_one (h : arguments.HasDate year month day) : arguments.count ≠ 1 := by
  obtain ⟨⟨year, hyear, -⟩, ⟨month, hmonth, -⟩, -⟩ := h
  intro hcount
  have hnone : arguments.get? 1 "month" = none :=
    get?_of_count_eq_one hcount (hyear ▸ Option.some_ne_none year) (by decide) (by decide)
  exact nomatch hmonth.symm.trans hnone

end CallArguments

/-! ## Reduced numbers -/

/-- Reducing a number to 32 bits gives the part that agrees with it. -/
theorem eq_toNat_iff_agree {part : Nat} {n : Int} (hpart : part < 2 ^ 32) :
    part = (n % UInt32.size).toNat ↔ Agree part n := by
  unfold Agree Int.ModEq
  change part = (n % 4294967296).toNat ↔ _
  omega

theorem eq_bmod_iff_agree {part n : Int} (hpart : SignedWord part) :
    part = Int.bmod n UInt32.size ↔ Agree part n := by
  obtain ⟨hleast, hmost⟩ := hpart
  unfold Agree Int.ModEq
  change part = Int.bmod n 4294967296 ↔ _
  rw [Int.bmod_def]
  split <;> omega

/-- A part that agrees with a number is this number if it lies in the range of the part. -/
theorem Agree.eq_iff_word {part : Nat} {n : Int} (h : Agree part n) (hpart : part < 2 ^ 32) :
    (part : Int) = n ↔ Word n := by
  unfold Agree Int.ModEq at h
  unfold Word
  omega

theorem Agree.eq_iff_signedWord {part n : Int} (h : Agree part n) (hpart : SignedWord part) :
    part = n ↔ SignedWord n := by
  unfold Agree Int.ModEq at h
  unfold SignedWord at hpart ⊢
  omega

namespace DateOf

variable {year month day : Int} {date : Date}

theorem words (date : Date) : SignedWord date.year ∧ date.month < 2 ^ 32 ∧ date.day < 2 ^ 32 := by
  obtain ⟨⟨hleast, hmost⟩, hmonth, hday⟩ := date.bounds
  have hlength := Date.monthLength_le date.year date.month
  unfold Calendar.minYear at hleast
  unfold Calendar.maxYear at hmost
  refine ⟨⟨?_, ?_⟩, ?_, ?_⟩ <;> omega

/-- The date that has the reduced numbers as its parts. -/
theorem of?_eq_some_iff : Date.of? (Int.bmod year UInt32.size) (month % UInt32.size).toNat
    (day % UInt32.size).toNat = some date ↔ DateOf Agree year month day date := by
  obtain ⟨hyear, hmonth, hday⟩ := words date
  rw [Date.of?_eq_some_iff, eq_bmod_iff_agree hyear, eq_toNat_iff_agree hmonth,
    eq_toNat_iff_agree hday]
  exact ⟨fun ⟨hyear, hmonth, hday⟩ => ⟨hyear, hmonth, hday⟩,
    fun ⟨hyear, hmonth, hday⟩ => ⟨hyear, hmonth, hday⟩⟩

/-- A date that agrees with numbers has them as its parts if and only if they fit. -/
theorem eq_iff_words (h : DateOf Agree year month day date) :
    DateOf Eq year month day date ↔ SignedWord year ∧ Word month ∧ Word day := by
  obtain ⟨hyear, hmonth, hday⟩ := words date
  rw [← h.year.eq_iff_signedWord hyear, ← h.month.eq_iff_word hmonth, ← h.day.eq_iff_word hday]
  exact ⟨fun ⟨hyear, hmonth, hday⟩ => ⟨hyear, hmonth, hday⟩,
    fun ⟨hyear, hmonth, hday⟩ => ⟨hyear, hmonth, hday⟩⟩

theorem agree (h : DateOf Eq year month day date) : DateOf Agree year month day date :=
  ⟨h.year ▸ rfl, h.month ▸ rfl, h.day ▸ rfl⟩

end DateOf

/-- A moment from a date, an hour, a minute and a second has these and is no leap second. -/
theorem Calendar.Moment.of?_eq_some_iff {date : Date} {hour minute second : Nat} {moment : Moment} :
    Moment.of? date hour minute second = some moment ↔ moment.date = date ∧ moment.hour = hour ∧
      moment.minute = minute ∧ moment.second = second ∧ moment.leap = false := by
  obtain ⟨_, _, _, _, leap, valid⟩ := moment
  unfold of?
  split
  next =>
    constructor
    · rintro ⟨⟩
      exact ⟨rfl, rfl, rfl, rfl, rfl⟩
    · rintro ⟨rfl, rfl, rfl, rfl, rfl⟩
      rfl
  next invalid =>
    refine ⟨nofun, ?_⟩
    rintro ⟨rfl, rfl, rfl, rfl, rfl⟩
    exact absurd valid invalid

namespace MomentOf

variable {year month day hour minute second : Int} {date : Date} {moment : Moment}

theorem words (moment : Moment) :
    moment.hour < 2 ^ 32 ∧ moment.minute < 2 ^ 32 ∧ moment.second < 2 ^ 32 := by
  have hvalid := moment.valid
  simp only [Calendar.isTime, Bool.and_eq_true, decide_eq_true_eq] at hvalid
  omega

/-- The moment that has the reduced numbers as its parts. -/
theorem of?_eq_some_iff (hdate : DateOf Agree year month day date) :
    Moment.of? date (hour % UInt32.size).toNat (minute % UInt32.size).toNat
        (second % UInt32.size).toNat = some moment ↔
      moment.date = date ∧ MomentOf Agree year month day hour minute second moment := by
  obtain ⟨hhour, hminute, hsecond⟩ := words moment
  rw [Moment.of?_eq_some_iff, eq_toNat_iff_agree hhour, eq_toNat_iff_agree hminute,
    eq_toNat_iff_agree hsecond]
  constructor
  · rintro ⟨rfl, hhour, hminute, hsecond, hleap⟩
    exact ⟨rfl, hdate, hhour, hminute, hsecond, hleap⟩
  · rintro ⟨rfl, -, hhour, hminute, hsecond, hleap⟩
    exact ⟨rfl, hhour, hminute, hsecond, hleap⟩

/-- A moment that agrees with numbers has them as its parts if and only if they fit. -/
theorem eq_iff_words (h : MomentOf Agree year month day hour minute second moment) :
    MomentOf Eq year month day hour minute second moment ↔
      (SignedWord year ∧ Word month ∧ Word day) ∧ Word hour ∧ Word minute ∧ Word second := by
  obtain ⟨hhour, hminute, hsecond⟩ := words moment
  rw [← h.date.eq_iff_words, ← h.hour.eq_iff_word hhour, ← h.minute.eq_iff_word hminute,
    ← h.second.eq_iff_word hsecond]
  exact ⟨fun ⟨hdate, hhour, hminute, hsecond, _⟩ => ⟨hdate, hhour, hminute, hsecond⟩,
    fun ⟨hdate, hhour, hminute, hsecond⟩ => ⟨hdate, hhour, hminute, hsecond, h.leap⟩⟩

theorem agree (h : MomentOf Eq year month day hour minute second moment) :
    MomentOf Agree year month day hour minute second moment :=
  ⟨h.date.agree, h.hour ▸ rfl, h.minute ▸ rfl, h.second ▸ rfl, h.leap⟩

end MomentOf

/-! ## What calls find -/

section

variable {α : Type} {name : String} {make : α → FieldValue} {Meets Exact : α → Prop} {host : Host}
  {arguments : CallArguments} {f : Host → CallArguments → Except CallFault FieldValue}
  {result : Except CallFault FieldValue}

/-- A function that draws no random numbers results in what it is. -/
theorem results_pure_iff (hname : EagerFunction.ofName? name = some (.pure f)) :
    Results name host arguments result ↔ f host arguments = result := by
  constructor
  · rintro ⟨function, hfunction, hresult⟩
    obtain rfl : EagerFunction.pure f = function := Option.some.inj (hname.symm.trans hfunction)
    exact congrArg Prod.fst (hresult (.ofSeed 0))
  · rintro rfl
    exact ⟨.pure f, hname, fun _ => rfl⟩

namespace GivesJust

/-- What meets the condition is what a call gives, and otherwise it is an error. -/
theorem of_pure (hname : EagerFunction.ofName? name = some (.pure f))
    (hok : ∀ a, Meets a → f host arguments = .ok (make a))
    (hcases : (∃ a, Meets a) ∨ ∃ fault, f host arguments = .error fault ∧ fault.kind = .value) :
    GivesJust name make Meets host arguments where
  found value := by
    rw [results_pure_iff hname]
    constructor
    · intro hvalue
      obtain ⟨a, ha⟩ | ⟨fault, hfault, -⟩ := hcases
      · exact ⟨a, ha, Except.ok.inj (hvalue.symm.trans (hok a ha))⟩
      · exact nomatch hvalue.symm.trans hfault
    · rintro ⟨a, ha, rfl⟩
      exact hok a ha
  fault hnone := by
    obtain ⟨a, ha⟩ | ⟨fault, hfault, hkind⟩ := hcases
    · exact absurd ha (hnone a)
    · exact ⟨fault, (results_pure_iff hname).mpr hfault, hkind⟩

/-- When all that meets a condition meets a stricter one if and only if some premise holds, a call
that gives the former gives the latter unless it gives something and the premise fails. -/
theorem exact_iff {premise : Prop} (h : GivesJust name make Meets host arguments)
    (hexact : ∀ a, Meets a → (Exact a ↔ premise)) (hmeets : ∀ a, Exact a → Meets a) :
    GivesJust name make Exact host arguments ↔ ((∃ a, Meets a) → premise) := by
  constructor
  · rintro hgives ⟨a, ha⟩
    have hresult := (h.found (make a)).mpr ⟨a, ha, rfl⟩
    obtain ⟨b, hb, -⟩ := (hgives.found (make a)).mp hresult
    exact (hexact b (hmeets b hb)).mp hb
  · intro hpremise
    have hiff : ∀ a, Meets a ↔ Exact a :=
      fun a => ⟨fun ha => (hexact a ha).mpr (hpremise ⟨a, ha⟩), hmeets a⟩
    obtain rfl : Meets = Exact := funext fun a => propext (hiff a)
    exact h

end GivesJust

end

namespace EagerFunction

variable {host : Host} {arguments : CallArguments} {year month day hour minute second : Int}

/-- Numbers are not taken for a date that is given as one. -/
theorem date_eq (h : arguments.HasDate year month day) :
    date host arguments = dateOfParts year month day := by
  unfold date
  rw [if_neg h.count_ne_one]
  simp only [h.year.integer, h.month.integer, h.day.integer]
  rfl

theorem datetime_eq (hdate : arguments.HasDate year month day)
    (htime : arguments.HasTime hour minute second) : datetime host arguments = (do
      let date ← dateOfParts year month day
      match Moment.of? date (hour % UInt32.size).toNat (minute % UInt32.size).toNat
        (second % UInt32.size).toNat with
      | some moment => return .moment moment
      | none => throw (.invalidTime (hour % UInt32.size).toNat (minute % UInt32.size).toNat
          (second % UInt32.size).toNat)) := by
  unfold datetime
  rw [if_neg hdate.count_ne_one]
  simp only [date_eq hdate, htime.hour.timePart, htime.minute.timePart, htime.second.timePart]
  rfl

/-- Three numbers give the date that agrees with them, or none does. -/
theorem dateOfParts_cases (year month day : Int) :
    (∃ date, DateOf Agree year month day date) ∨
      dateOfParts year month day = .error (.invalidDate year month day) := by
  unfold dateOfParts
  split
  next date hdate => exact .inl ⟨date, DateOf.of?_eq_some_iff.mp hdate⟩
  next => exact .inr rfl

theorem dateOfParts_of_agree {date : Date} (h : DateOf Agree year month day date) :
    dateOfParts year month day = .ok date := by
  unfold dateOfParts
  rw [DateOf.of?_eq_some_iff.mpr h]

/-- The call of `date` finds the date that agrees with its arguments. -/
theorem date_givesJust (h : arguments.HasDate year month day) :
    GivesJust "date" .date (DateOf Agree year month day) host arguments := by
  refine .of_pure rfl (fun date hdate => ?_) ?_
  · rw [date_eq h, dateOfParts_of_agree hdate]
    rfl
  · obtain hexists | hfault := dateOfParts_cases year month day
    · exact .inl hexists
    · refine .inr ⟨.invalidDate year month day, ?_, rfl⟩
      rw [date_eq h, hfault]
      rfl

/-- The call of `datetime` finds the moment that agrees with its arguments. -/
theorem datetime_givesJust (hdate : arguments.HasDate year month day)
    (htime : arguments.HasTime hour minute second) :
    GivesJust "datetime" .moment (MomentOf Agree year month day hour minute second) host
      arguments := by
  refine .of_pure rfl (fun moment hmoment => ?_) ?_
  · have hof := (MomentOf.of?_eq_some_iff hmoment.date).mpr ⟨rfl, hmoment⟩
    rw [datetime_eq hdate htime, dateOfParts_of_agree hmoment.date]
    simp only [bind, Except.bind, hof]
    rfl
  · rw [datetime_eq hdate htime]
    obtain ⟨date, hagree⟩ | hfault := dateOfParts_cases year month day
    · rw [dateOfParts_of_agree hagree]
      simp only [bind, Except.bind]
      split
      next moment hof =>
        exact .inl ⟨moment, ((MomentOf.of?_eq_some_iff hagree).mp hof).2⟩
      next => exact .inr ⟨_, rfl, rfl⟩
    · rw [hfault]
      exact .inr ⟨_, rfl, rfl⟩

/-- From the parts of a date, `date` finds the date that agrees with them up to multiples of
`2 ^ 32`, and nothing else. This is the date that has them as its parts, unless there is one that
agrees with them while they do not fit their 32 bits. With the parts of a time of day, of which some
may be left out, `datetime` finds a moment in the same way. -/
theorem parts_reduced (host : Host) (hdate : arguments.HasDate year month day) :
    (GivesJust "date" .date (DateOf Agree year month day) host arguments ∧
      (GivesJust "date" .date (DateOf Eq year month day) host arguments ↔
        ((∃ date, DateOf Agree year month day date) →
          SignedWord year ∧ Word month ∧ Word day))) ∧
    ∀ hour minute second, arguments.HasTime hour minute second →
      GivesJust "datetime" .moment (MomentOf Agree year month day hour minute second) host
        arguments ∧
      (GivesJust "datetime" .moment (MomentOf Eq year month day hour minute second) host arguments ↔
        ((∃ moment, MomentOf Agree year month day hour minute second moment) →
          (SignedWord year ∧ Word month ∧ Word day) ∧ Word hour ∧ Word minute ∧ Word second)) := by
  constructor
  · have hgives : GivesJust "date" .date (DateOf Agree year month day) host arguments :=
      date_givesJust hdate
    exact ⟨hgives, hgives.exact_iff (fun _ => DateOf.eq_iff_words) fun _ => DateOf.agree⟩
  · intro hour minute second htime
    have hgives : GivesJust "datetime" .moment
        (MomentOf Agree year month day hour minute second) host arguments :=
      datetime_givesJust hdate htime
    exact ⟨hgives, hgives.exact_iff (fun _ => MomentOf.eq_iff_words) fun _ => MomentOf.agree⟩

/-- A year by name that is too large for 32 bits, in place of the first number by position, and a
second that is too small. -/
def largeArguments : CallArguments :=
  ⟨[.int 7, .int 1, .int 1], [("year", .int 4294969320), ("second", .int (-4294967290))]⟩

/-- The moment 2024-01-01 00:00:06 is found, which does not have the numbers as its parts. -/
theorem parts_reduced_large :
    largeArguments.HasDate 4294969320 1 1 ∧ largeArguments.HasTime 0 0 (-4294967290) ∧
      GivesJust "datetime" .moment (MomentOf Agree 4294969320 1 1 0 0 (-4294967290)) .blank
        largeArguments ∧
      ¬ GivesJust "datetime" .moment (MomentOf Eq 4294969320 1 1 0 0 (-4294967290)) .blank
        largeArguments := by
  have hdate : largeArguments.HasDate 4294969320 1 1 :=
    ⟨.of_int (n := 4294969320) rfl, .of_int (n := 1) rfl, .of_int (n := 1) rfl⟩
  have htime : largeArguments.HasTime 0 0 (-4294967290) :=
    ⟨.inr ⟨rfl, rfl⟩, .inr ⟨rfl, rfl⟩, .inl (.of_int (n := -4294967290) rfl)⟩
  obtain ⟨hgives, hexact⟩ := (parts_reduced .blank hdate).2 _ _ _ htime
  refine ⟨hdate, htime, hgives, fun h => ?_⟩
  have hagree : MomentOf Agree 4294969320 1 1 0 0 (-4294967290)
      ⟨⟨2024, 1, 1, by decide⟩, 0, 0, 6, false, by decide⟩ :=
    ⟨⟨by decide, by decide, by decide⟩, by decide, by decide, by decide, rfl⟩
  obtain ⟨⟨hyear, -⟩, -⟩ := hexact.mp h ⟨_, hagree⟩
  exact absurd hyear.2 (by decide)

/-- The year 2024 is found from a year that is larger by `2 ^ 32`, in which there is no date. -/
theorem large_year_reduced :
    Results "date" .blank ⟨[.int 4294969320, .int 1, .int 1], []⟩
        (.ok (.date ⟨2024, 1, 1, by decide⟩)) ∧
      ¬ GivesJust "date" .date (DateOf Eq 4294969320 1 1) .blank
        ⟨[.int 4294969320, .int 1, .int 1], []⟩ := by
  have hresults : Results "date" .blank ⟨[.int 4294969320, .int 1, .int 1], []⟩
      (.ok (.date ⟨2024, 1, 1, by decide⟩)) :=
    ⟨_, rfl, fun _ => rfl⟩
  refine ⟨hresults, fun h => ?_⟩
  obtain ⟨date, hdate, -⟩ := (h.found _).mp hresults
  have hlast := date.bounds.1.2
  rw [hdate.year] at hlast
  exact absurd hlast (by decide)

end EagerFunction

end RecordRecipe
