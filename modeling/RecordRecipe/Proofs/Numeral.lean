import Mathlib.Algebra.Ring.Int.Defs
import Mathlib.Algebra.Ring.Nat
import Mathlib.Data.List.TakeWhile
import RecordRecipe.Numeral

/-!
# The grammar of numbers

Texts of integers and of decimal numbers, apart from how they are read. `readInt?_eq_some_iff` and
`readScientific?_eq_some_iff` say that just these texts are read, with the values that they stand
for, and `readFloat?_eq_some_iff` that besides decimal numbers there are only the words for infinity
and not-a-number.
-/

namespace RecordRecipe

/-- The characters that satisfy a test are told apart from what follows them. -/
theorem Text.span_append {test : Char → Bool} {run tail : List Char}
    (hrun : ∀ c ∈ run, test c = true) (htail : ∀ c ∈ tail.head?, test c = false) :
    (run ++ tail).takeWhile test = run ∧ (run ++ tail).dropWhile test = tail := by
  rw [List.takeWhile_append_of_pos hrun, List.dropWhile_append_of_pos hrun]
  cases tail with
  | nil => simp
  | cons c rest => simp [htail c rfl]

namespace Numeral

variable {text digits whole fraction tail body : List Char} {sign : List Char} {negative : Bool}

/-! ## Grammar -/

/-- A run of decimal digits and the number that it stands for. -/
def IsDecimal (digits : List Char) (n : Nat) : Prop :=
  digits ≠ [] ∧ (∀ c ∈ digits, c.isDigit = true) ∧ Nat.ofDigitChars 10 digits 0 = n

/-- An optional sign; the flag tells a minus. -/
inductive IsSign : List Char → Bool → Prop
  | none : IsSign [] false
  | plus : IsSign ['+'] false
  | minus : IsSign ['-'] true

/-- An integer: an optional sign and digits. -/
inductive IsInteger : List Char → Int → Prop
  | intro {sign digits : List Char} {negative : Bool} {n : Nat} (hsign : IsSign sign negative)
      (hdigits : IsDecimal digits n) :
      IsInteger (sign ++ digits) (if negative then -(n : Int) else n)

/-- A mantissa: digits, at least one, with at most one point among them. The digits before and
after the point are told apart. -/
inductive IsMantissa : List Char → List Char → List Char → Prop
  | whole {whole : List Char} (hwhole : ∀ c ∈ whole, c.isDigit = true) (hne : whole ≠ []) :
      IsMantissa whole whole []
  | point {whole fraction : List Char} (hwhole : ∀ c ∈ whole, c.isDigit = true)
      (hfraction : ∀ c ∈ fraction, c.isDigit = true) (hne : ¬(whole = [] ∧ fraction = [])) :
      IsMantissa (whole ++ '.' :: fraction) whole fraction

/-- An optional exponent: a mark, an optional sign and digits. -/
inductive IsExponent : List Char → Int → Prop
  | none : IsExponent [] 0
  | mark {c : Char} {text : List Char} {n : Int} (hmark : c = 'e' ∨ c = 'E')
      (htext : IsInteger text n) : IsExponent (c :: text) n

/-- A decimal number: an optional sign, a mantissa and an optional exponent. The digits behind the
point lower the power of ten. -/
inductive IsNumber : List Char → Scientific → Prop
  | intro {sign mantissa whole fraction exponent : List Char} {negative : Bool} {n : Int}
      (hsign : IsSign sign negative) (hmantissa : IsMantissa mantissa whole fraction)
      (hexponent : IsExponent exponent n) :
      IsNumber (sign ++ (mantissa ++ exponent))
        ⟨negative, Nat.ofDigitChars 10 (whole ++ fraction) 0, n - fraction.length⟩

/-- A word for infinity or not-a-number in any case, with an optional sign, and its value. -/
inductive IsWord : List Char → Float → Prop
  | infinity {sign word : List Char} {negative : Bool} (hsign : IsSign sign negative)
      (hword : word.map Char.toLower = "inf".toList ∨ word.map Char.toLower = "infinity".toList) :
      IsWord (sign ++ word)
        (.ofBits (if negative then 0xFFF0000000000000 else 0x7FF0000000000000))
  | notANumber {sign word : List Char} {negative : Bool} (hsign : IsSign sign negative)
      (hword : word.map Char.toLower = "nan".toList) :
      IsWord (sign ++ word) (.ofBits 0x7FF8000000000000)

/-! ## Signs -/

/-- No sign stands in front. -/
def Unsigned (text : List Char) : Prop := ∀ c ∈ text.head?, c ≠ '+' ∧ c ≠ '-'

theorem splitSign_spec (text : List Char) :
    ∃ sign, IsSign sign (splitSign text).1 ∧ text = sign ++ (splitSign text).2 := by
  unfold splitSign
  split
  · exact ⟨['+'], .plus, rfl⟩
  · exact ⟨['-'], .minus, rfl⟩
  · exact ⟨[], .none, rfl⟩

/-- What follows an optional sign is split off. -/
theorem IsSign.splitSign_append (h : IsSign sign negative) (hbody : Unsigned body) :
    splitSign (sign ++ body) = (negative, body) := by
  cases h with
  | none =>
      rw [List.nil_append]
      unfold splitSign
      split
      next => exact absurd rfl (hbody '+' rfl).1
      next => exact absurd rfl (hbody '-' rfl).2
      next => rfl
  | plus => rfl
  | minus => rfl

theorem ne_sign_of_isDigit {c : Char} (h : c.isDigit = true) : c ≠ '+' ∧ c ≠ '-' := by
  constructor <;> rintro rfl <;> cases h

theorem unsigned_of_mem (h : ∀ c ∈ body, c ≠ '+' ∧ c ≠ '-') : Unsigned body :=
  fun c hc => h c (List.mem_of_mem_head? hc)

/-! ## Integers -/

theorem digitsValue_eq (digits : List Char) : digitsValue digits = Nat.ofDigitChars 10 digits 0 :=
  Nat.ofDigitChars_eq_foldl.symm

theorem digitsValue?_eq_some_iff {n : Nat} : digitsValue? digits = some n ↔ IsDecimal digits n := by
  unfold digitsValue? IsDecimal
  rw [Nat.ofDigitChars_eq_foldl, ← List.all_eq_true]
  split
  next h => simp [h]
  next h => exact ⟨nofun, fun hdecimal => absurd ⟨hdecimal.1, hdecimal.2.1⟩ h⟩

theorem readInt?_eq (text : List Char) : readInt? text =
    (digitsValue? (splitSign text).2).map fun n : Nat =>
      if (splitSign text).1 then -(n : Int) else n := by
  unfold readInt?
  generalize splitSign text = parts
  obtain ⟨negative, digits⟩ := parts
  dsimp only
  cases digitsValue? digits <;> rfl

/-- Just the texts of integers are read. -/
theorem readInt?_eq_some_iff {n : Int} : readInt? text = some n ↔ IsInteger text n := by
  rw [readInt?_eq]
  constructor
  · intro h
    obtain ⟨sign, hsign, htext⟩ := splitSign_spec text
    obtain ⟨m, hm, rfl⟩ := Option.map_eq_some_iff.mp h
    have hinteger := IsInteger.intro hsign (digitsValue?_eq_some_iff.mp hm)
    rwa [← htext] at hinteger
  · rintro ⟨hsign, hdigits⟩
    rw [hsign.splitSign_append (unsigned_of_mem fun c hc => ne_sign_of_isDigit (hdigits.2.1 c hc))]
    exact congrArg _ (digitsValue?_eq_some_iff.mpr hdigits)

theorem fitsInt64_iff {n : Int} : fitsInt64 n = true ↔ -2 ^ 63 ≤ n ∧ n < 2 ^ 63 := by
  unfold fitsInt64
  rw [Bool.and_eq_true, decide_eq_true_eq, decide_eq_true_eq]
  rfl

/-- Just the texts of integers that fit 64 signed bits are read as such. -/
theorem readInt64?_eq_some_iff {n : Int64} : readInt64? text = some n ↔ IsInteger text n.toInt := by
  rw [← readInt?_eq_some_iff]
  unfold readInt64?
  cases readInt? text with
  | none => simp
  | some m =>
      dsimp only
      rw [Option.ite_none_right_eq_some, Option.some_inj, Option.some_inj, fitsInt64_iff]
      constructor
      · rintro ⟨⟨hlo, hhi⟩, rfl⟩
        exact (Int64.toInt_ofInt_of_le hlo hhi).symm
      · rintro rfl
        exact ⟨⟨n.le_toInt, n.toInt_lt⟩, Int64.ofInt_toInt n⟩

/-! ## Natural numbers -/

/-- Digits do not begin with a plus sign. -/
theorem IsDecimal.not_plus {n : Nat} (h : IsDecimal digits n) : '+' ∉ digits :=
  fun hmem => absurd (h.2.1 '+' hmem) (by decide)

/-- The number that digits stand for is read if it stays below a limit. -/
theorem readDigits_eq_some_iff {n bits : Nat} : (match digitsValue? digits with
    | some n => if n < Nat.pow 2 bits then some n else none
    | none => none) = some n ↔ IsDecimal digits n ∧ n < 2 ^ bits := by
  rw [← digitsValue?_eq_some_iff]
  cases digitsValue? digits with
  | none => simp
  | some value =>
      rw [Option.ite_none_right_eq_some, Option.some_inj, and_comm]
      exact and_congr_right fun h => h ▸ Iff.rfl

/-- A number is read out of digits, with or without a plus sign, that stay below a limit. -/
theorem readNat?_eq_some_iff {n bits : Nat} : readNat? bits text = some n ↔
    ∃ plus digits, text = plus ++ digits ∧ (plus = [] ∨ plus = ['+']) ∧ IsDecimal digits n ∧
      n < 2 ^ bits := by
  constructor
  · intro h
    unfold readNat? at h
    split at h
    next rest => exact ⟨['+'], rest, rfl, .inr rfl, readDigits_eq_some_iff.mp h⟩
    next => exact ⟨[], text, rfl, .inl rfl, readDigits_eq_some_iff.mp h⟩
  · rintro ⟨plus, digits, rfl, rfl | rfl, hdigits, hn⟩
    · have hread := readDigits_eq_some_iff.mpr ⟨hdigits, hn⟩
      unfold readNat?
      split
      next rest heq =>
        have hmem : '+' ∈ digits := by
          rw [← List.nil_append digits, heq]
          exact List.mem_cons_self
        exact absurd hmem hdigits.not_plus
      next => exact hread
    · exact readDigits_eq_some_iff.mpr ⟨hdigits, hn⟩

/-! ## Decimal numbers -/

theorem readExponent?_eq_some_iff {n : Int} : readExponent? text = some n ↔ IsExponent text n := by
  constructor
  · intro h
    unfold readExponent? at h
    split at h
    · cases h
      exact .none
    · split at h
      next hmark => exact .mark hmark (readInt?_eq_some_iff.mp h)
      next => cases h
  · rintro (_ | ⟨hmark, htext⟩)
    · rfl
    · exact (if_pos hmark).trans (readInt?_eq_some_iff.mpr htext)

/-- The digits in front of the point, those behind it, and what follows. -/
def splitMantissa (body : List Char) : List Char × List Char × List Char :=
  (body.takeWhile Char.isDigit, match body.dropWhile Char.isDigit with
    | '.' :: more => (more.takeWhile Char.isDigit, more.dropWhile Char.isDigit)
    | other => ([], other))

theorem readScientific?_eq (text : List Char) : readScientific? text =
    let (negative, body) := splitSign text
    let (whole, fraction, tail) := splitMantissa body
    if whole = [] ∧ fraction = [] then none
    else (readExponent? tail).map fun exponent : Int =>
      ⟨negative, digitsValue (whole ++ fraction), exponent - fraction.length⟩ :=
  rfl

/-- What is split off is a mantissa, unless there are no digits. -/
theorem splitMantissa_spec {body : List Char} (h : splitMantissa body = (whole, fraction, tail))
    (hne : ¬(whole = [] ∧ fraction = [])) :
    ∃ mantissa, IsMantissa mantissa whole fraction ∧ body = mantissa ++ tail := by
  have hbody := (List.takeWhile_append_dropWhile (p := Char.isDigit) (l := body)).symm
  have hwhole : ∀ c ∈ body.takeWhile Char.isDigit, c.isDigit = true :=
    fun _ => List.mem_takeWhile_imp
  unfold splitMantissa at h
  split at h
  next more hdrop =>
    obtain ⟨rfl, rfl, rfl⟩ := h
    refine ⟨_, .point hwhole (fun _ => List.mem_takeWhile_imp) hne, ?_⟩
    rw [List.append_assoc, List.cons_append, List.takeWhile_append_dropWhile, ← hdrop]
    exact hbody
  next =>
    obtain ⟨rfl, rfl, rfl⟩ := h
    exact ⟨_, .whole hwhole fun hempty => hne ⟨hempty, rfl⟩, hbody⟩

/-- A mantissa is split off from what cannot go on with it. -/
theorem IsMantissa.splitMantissa_append {mantissa : List Char}
    (h : IsMantissa mantissa whole fraction)
    (htail : ∀ c ∈ tail.head?, c.isDigit = false ∧ c ≠ '.') :
    splitMantissa (mantissa ++ tail) = (whole, fraction, tail) := by
  have hstop : ∀ c ∈ tail.head?, c.isDigit = false := fun c hc => (htail c hc).1
  unfold splitMantissa
  cases h with
  | whole hwhole hne =>
      rw [(Text.span_append hwhole hstop).1, (Text.span_append hwhole hstop).2]
      split
      next => exact absurd rfl (htail '.' rfl).2
      next => rfl
  | point hwhole hfraction hne =>
      have hpoint : ∀ c ∈ ('.' :: (fraction ++ tail)).head?, c.isDigit = false := by
        rintro c ⟨⟩
        rfl
      rw [List.append_assoc, List.cons_append, (Text.span_append hwhole hpoint).1,
        (Text.span_append hwhole hpoint).2]
      change (whole, (fraction ++ tail).takeWhile _, (fraction ++ tail).dropWhile _) = _
      rw [(Text.span_append hfraction hstop).1, (Text.span_append hfraction hstop).2]

theorem IsMantissa.ne_nil {mantissa : List Char} (h : IsMantissa mantissa whole fraction) :
    ¬(whole = [] ∧ fraction = []) := by
  cases h with
  | whole hwhole hne => exact fun hempty => hne hempty.1
  | point hwhole hfraction hne => exact hne

theorem IsMantissa.mem {mantissa : List Char} (h : IsMantissa mantissa whole fraction) :
    ∀ c ∈ mantissa, c.isDigit = true ∨ c = '.' := by
  intro c hc
  cases h with
  | whole hwhole hne => exact .inl (hwhole c hc)
  | point hwhole hfraction hne =>
      obtain hc | rfl | hc : c ∈ whole ∨ c = '.' ∨ c ∈ fraction := by simpa using hc
      · exact .inl (hwhole c hc)
      · exact .inr rfl
      · exact .inl (hfraction c hc)

theorem IsMantissa.exists_digit {mantissa : List Char} (h : IsMantissa mantissa whole fraction) :
    ∃ c ∈ mantissa, c.isDigit = true := by
  have hne : whole ++ fraction ≠ [] := by simpa using h.ne_nil
  obtain ⟨c, hc⟩ := List.exists_mem_of_ne_nil _ hne
  cases h with
  | whole hwhole _ => exact ⟨c, by simpa using hc, hwhole c (by simpa using hc)⟩
  | point hwhole hfraction _ =>
      obtain hc | hc := List.mem_append.mp hc
      · exact ⟨c, by simp [hc], hwhole c hc⟩
      · exact ⟨c, by simp [hc], hfraction c hc⟩

theorem IsMantissa.unsigned_append {mantissa : List Char} (h : IsMantissa mantissa whole fraction)
    (tail : List Char) : Unsigned (mantissa ++ tail) := by
  obtain ⟨digit, hdigit, -⟩ := h.exists_digit
  obtain ⟨first, rest, rfl⟩ := List.exists_cons_of_ne_nil (List.ne_nil_of_mem hdigit)
  rintro c ⟨⟩
  obtain hfirst | rfl := h.mem first List.mem_cons_self
  · exact ne_sign_of_isDigit hfirst
  · decide

theorem IsExponent.head? {n : Int} (h : IsExponent tail n) :
    ∀ c ∈ tail.head?, c.isDigit = false ∧ c ≠ '.' := by
  cases h with
  | none => exact nofun
  | mark hmark htext =>
      rintro c ⟨⟩
      obtain rfl | rfl := hmark <;> decide

/-- Just the texts of decimal numbers are read. -/
theorem readScientific?_eq_some_iff {s : Scientific} :
    readScientific? text = some s ↔ IsNumber text s := by
  rw [readScientific?_eq]
  constructor
  · intro h
    obtain ⟨sign, hsign, htext⟩ := splitSign_spec text
    generalize splitSign text = parts at h hsign htext
    obtain ⟨negative, body⟩ := parts
    dsimp only at h hsign htext
    generalize hsplit : splitMantissa body = parts at h
    obtain ⟨whole, fraction, tail⟩ := parts
    dsimp only at h
    split at h
    next => cases h
    next hne =>
      obtain ⟨n, hn, rfl⟩ := Option.map_eq_some_iff.mp h
      obtain ⟨mantissa, hmantissa, hbody⟩ := splitMantissa_spec hsplit hne
      rw [htext, hbody, digitsValue_eq]
      exact .intro hsign hmantissa (readExponent?_eq_some_iff.mp hn)
  · rintro ⟨hsign, hmantissa, hexponent⟩
    rw [hsign.splitSign_append (hmantissa.unsigned_append _)]
    dsimp only
    rw [hmantissa.splitMantissa_append hexponent.head?]
    dsimp only
    rw [if_neg hmantissa.ne_nil, readExponent?_eq_some_iff.mpr hexponent, digitsValue_eq]
    rfl

/-! ## Words -/

theorem toLower_of_isDigit {c : Char} (h : c.isDigit = true) : c.toLower = c := by
  simp only [Char.isDigit] at h
  unfold Char.toLower
  grind

/-- The words for infinity and not-a-number have letters only. -/
theorem letters_of_word {word : List Char} (h : word.map Char.toLower = "inf".toList ∨
    word.map Char.toLower = "infinity".toList ∨ word.map Char.toLower = "nan".toList) :
    ∀ c ∈ word, c.isDigit = false ∧ c ≠ '+' ∧ c ≠ '-' := by
  intro c hc
  have hletter : c.toLower ∈ "infinityad".toList := by
    have hlower := List.mem_map_of_mem (f := Char.toLower) hc
    have hinf : "inf".toList ⊆ "infinityad".toList := by decide
    have hinfinity : "infinity".toList ⊆ "infinityad".toList := by decide
    have hnan : "nan".toList ⊆ "infinityad".toList := by decide
    obtain h | h | h := h <;> rw [h] at hlower
    · exact hinf hlower
    · exact hinfinity hlower
    · exact hnan hlower
  have hnone : "infinityad".toList.all (fun c => !c.isDigit && c ≠ '+' && c ≠ '-') = true := by
    decide
  have hapart := List.all_eq_true.mp hnone _ hletter
  refine ⟨?_, ?_, ?_⟩
  · by_contra hdigit
    rw [Bool.not_eq_false] at hdigit
    rw [toLower_of_isDigit hdigit, hdigit] at hapart
    cases hapart
  · rintro rfl
    exact absurd hapart (by decide)
  · rintro rfl
    exact absurd hapart (by decide)

theorem IsSign.not_digit (h : IsSign sign negative) : ∀ c ∈ sign, c.isDigit = false := by
  cases h with
  | none => exact List.forall_mem_nil _
  | plus => exact List.forall_mem_singleton.mpr rfl
  | minus => exact List.forall_mem_singleton.mpr rfl

/-- There is a digit in a decimal number. -/
theorem IsNumber.exists_digit {s : Scientific} (h : IsNumber text s) :
    ∃ c ∈ text, c.isDigit = true := by
  obtain ⟨-, hmantissa, -⟩ := h
  obtain ⟨c, hc, hdigit⟩ := hmantissa.exists_digit
  exact ⟨c, by simp [hc], hdigit⟩

/-- There is no digit in a word. -/
theorem IsWord.not_digit {x : Float} (h : IsWord text x) : ∀ c ∈ text, c.isDigit = false := by
  intro c hc
  cases h with
  | infinity hsign hword =>
      obtain hc | hc := List.mem_append.mp hc
      · exact hsign.not_digit c hc
      · exact (letters_of_word (hword.imp_right .inl) c hc).1
  | notANumber hsign hword =>
      obtain hc | hc := List.mem_append.mp hc
      · exact hsign.not_digit c hc
      · exact (letters_of_word (.inr (.inr hword)) c hc).1

/-- No word is a decimal number. -/
theorem IsWord.not_isNumber {x : Float} {s : Scientific} (h : IsWord text x) :
    ¬ IsNumber text s := by
  intro hnumber
  obtain ⟨c, hc, hdigit⟩ := hnumber.exists_digit
  exact absurd hdigit (by simp [h.not_digit c hc])

/-- What is read behind an optional sign, of a text that is no decimal number. -/
def readWord? (negative : Bool) (body : List Char) : Option Float :=
  let word := body.map Char.toLower
  if infinityWords.contains word then
    some (Float.ofBits (if negative then 0xFFF0000000000000 else 0x7FF0000000000000))
  else if word = "nan".toList then some (Float.ofBits 0x7FF8000000000000)
  else none

theorem readFloat?_eq (text : List Char) : readFloat? text =
    match readScientific? text with
    | some s => some s.toFloat
    | none => readWord? (splitSign text).1 (splitSign text).2 :=
  rfl

theorem readWord?_eq_some_iff {x : Float} : readWord? negative body = some x ↔
    (body.map Char.toLower = "inf".toList ∨ body.map Char.toLower = "infinity".toList) ∧
        x = .ofBits (if negative then 0xFFF0000000000000 else 0x7FF0000000000000) ∨
      body.map Char.toLower = "nan".toList ∧ x = .ofBits 0x7FF8000000000000 := by
  unfold readWord? infinityWords
  generalize body.map Char.toLower = word
  simp only [List.contains_iff_mem, List.mem_cons, List.not_mem_nil, or_false]
  split
  next hinfinity =>
    rw [Option.some_inj]
    constructor
    · rintro rfl
      exact .inl ⟨hinfinity, rfl⟩
    · rintro (⟨-, rfl⟩ | ⟨hnan, -⟩)
      · rfl
      · exact absurd hnan (by obtain rfl | rfl := hinfinity <;> decide)
  next hinfinity =>
    rw [Option.ite_none_right_eq_some, Option.some_inj]
    constructor
    · rintro ⟨hnan, rfl⟩
      exact .inr ⟨hnan, rfl⟩
    · rintro (⟨hnot, -⟩ | ⟨hnan, rfl⟩)
      · exact absurd hnot hinfinity
      · exact ⟨hnan, rfl⟩

/-- Besides decimal numbers just the words for infinity and not-a-number are read. -/
theorem readFloat?_eq_some_iff {x : Float} : readFloat? text = some x ↔
    (∃ s, IsNumber text s ∧ x = s.toFloat) ∨ IsWord text x := by
  rw [readFloat?_eq]
  cases hread : readScientific? text with
  | some s =>
      have hnumber := readScientific?_eq_some_iff.mp hread
      constructor
      · rintro ⟨⟩
        exact .inl ⟨s, hnumber, rfl⟩
      · rintro (⟨other, hother, rfl⟩ | hword)
        · rw [readScientific?_eq_some_iff.mpr hother] at hread
          exact congrArg (some ·.toFloat) (Option.some.inj hread).symm
        · exact absurd hnumber hword.not_isNumber
  | none =>
      dsimp only
      rw [readWord?_eq_some_iff]
      constructor
      · intro h
        obtain ⟨sign, hsign, htext⟩ := splitSign_spec text
        generalize splitSign text = parts at h hsign htext
        subst htext
        obtain ⟨hword, rfl⟩ | ⟨hword, rfl⟩ := h
        · exact .inr (.infinity hsign hword)
        · exact .inr (.notANumber hsign hword)
      · rintro (⟨s, hnumber, rfl⟩ | hword)
        · rw [readScientific?_eq_some_iff.mpr hnumber] at hread
          cases hread
        · cases hword with
          | infinity hsign hword =>
              have hletters := letters_of_word (hword.imp_right .inl)
              rw [hsign.splitSign_append (unsigned_of_mem fun c hc => (hletters c hc).2)]
              exact .inl ⟨hword, rfl⟩
          | notANumber hsign hword =>
              have hletters := letters_of_word (.inr (.inr hword))
              rw [hsign.splitSign_append (unsigned_of_mem fun c hc => (hletters c hc).2)]
              exact .inr ⟨hword, rfl⟩

end Numeral

end RecordRecipe
