import RecordRecipe.Proofs.Decimal.Layout
import RecordRecipe.Proofs.Numeral
import RecordRecipe.Value.Coerce

/-!
# Texts that become numbers

A text becomes an integer or a floating-point number when it is written as one, blanks around it
apart, and stays as it is otherwise. `FieldValue.ofText_reads` says so along the grammar of numbers.
The characters are looked at first, so that words which read as numbers elsewhere stay texts.
-/

namespace RecordRecipe

open Numeral (IsDecimal IsExponent IsInteger IsMantissa IsNumber IsSign)

variable {text : List Char}

/-! ## Blanks -/

namespace Text

/-- Blanks around what neither begins nor ends with one are taken off. -/
theorem trimChars_append {before core after : List Char} (hbefore : ∀ c ∈ before, isBlank c = true)
    (hafter : ∀ c ∈ after, isBlank c = true) (hfirst : ∀ c ∈ core.head?, isBlank c = false)
    (hlast : ∀ c ∈ core.getLast?, isBlank c = false) (hne : core ≠ []) :
    trimChars (before ++ core ++ after) = core := by
  have hhead : ∀ c ∈ (core ++ after).head?, isBlank c = false := by
    obtain ⟨first, rest, rfl⟩ := List.exists_cons_of_ne_nil hne
    exact hfirst
  have hafter : ∀ c ∈ after.reverse, isBlank c = true := by simpa using hafter
  have hlast : ∀ c ∈ core.reverse.head?, isBlank c = false := by rwa [List.head?_reverse]
  unfold trimChars trimEnd trimStart
  rw [List.append_assoc, (span_append hbefore hhead).2, List.reverse_append,
    (span_append hafter hlast).2, List.reverse_reverse]

end Text

/-! ## Characters of numbers -/

namespace Numeral

theorem IsSign.isNumeralChar {sign : List Char} {negative : Bool} (h : IsSign sign negative) :
    ∀ c ∈ sign, FieldValue.isNumeralChar c = true := by
  cases h with
  | none => exact List.forall_mem_nil _
  | plus => exact List.forall_mem_singleton.mpr rfl
  | minus => exact List.forall_mem_singleton.mpr rfl

theorem isNumeralChar_of_isDigit {c : Char} (h : c.isDigit = true) :
    FieldValue.isNumeralChar c = true := by
  unfold FieldValue.isNumeralChar
  rw [h]
  rfl

theorem IsInteger.isNumeralChar {n : Int} (h : IsInteger text n) :
    ∀ c ∈ text, FieldValue.isNumeralChar c = true := by
  obtain ⟨hsign, hdigits⟩ := h
  rw [List.forall_mem_append]
  exact ⟨hsign.isNumeralChar, fun c hc => isNumeralChar_of_isDigit (hdigits.2.1 c hc)⟩

theorem IsExponent.isNumeralChar {n : Int} (h : IsExponent text n) :
    ∀ c ∈ text, FieldValue.isNumeralChar c = true := by
  cases h with
  | none => exact List.forall_mem_nil _
  | mark hmark htext =>
      rw [List.forall_mem_cons]
      refine ⟨?_, htext.isNumeralChar⟩
      obtain rfl | rfl := hmark <;> rfl

/-- A decimal number has numeral characters only, and a digit among them. -/
theorem IsNumber.looksNumeric {s : Scientific} (h : IsNumber text s) :
    FieldValue.looksNumeric text = true := by
  have hdigit : text.any Char.isDigit = true := List.any_eq_true.mpr h.exists_digit
  rw [FieldValue.looksNumeric, hdigit, Bool.true_and, List.all_eq_true]
  obtain ⟨hsign, hmantissa, hexponent⟩ := h
  rw [List.forall_mem_append, List.forall_mem_append]
  refine ⟨hsign.isNumeralChar, fun c hc => ?_, hexponent.isNumeralChar⟩
  obtain hdigit | rfl := hmantissa.mem c hc
  · exact isNumeralChar_of_isDigit hdigit
  · rfl

/-- An integer is a decimal number. -/
theorem IsInteger.exists_isNumber {n : Int} (h : IsInteger text n) : ∃ s, IsNumber text s := by
  obtain ⟨hsign, hdigits⟩ := h
  have hnumber := IsNumber.intro hsign (.whole hdigits.2.1 hdigits.1) .none
  rw [List.append_nil] at hnumber
  exact ⟨_, hnumber⟩

/-- A word does not look numeric. -/
theorem IsWord.not_looksNumeric {x : Float} (h : IsWord text x) :
    FieldValue.looksNumeric text = false := by
  have hnone : text.any Char.isDigit = false := by
    simpa using h.not_digit
  rw [FieldValue.looksNumeric, hnone, Bool.false_and]

end Numeral

namespace FieldValue

variable {content : String}

/-- A text is an integer that fits 64 bits, else a decimal number, or else it stays as it is. -/
theorem ofText_cases (content : String) :
    (∃ n : Int64, IsInteger (Text.trimChars content.toList) n.toInt ∧ ofText content = .int n) ∨
    (∀ n : Int64, ¬ IsInteger (Text.trimChars content.toList) n.toInt) ∧
      ((∃ s, IsNumber (Text.trimChars content.toList) s ∧ ofText content = .float s.toFloat) ∨
        (∀ s, ¬ IsNumber (Text.trimChars content.toList) s) ∧ ofText content = .text content) := by
  unfold ofText
  generalize Text.trimChars content.toList = number
  dsimp only
  split
  next hlooks =>
    cases hint : Numeral.readInt64? number with
    | some n => exact .inl ⟨n, Numeral.readInt64?_eq_some_iff.mp hint, rfl⟩
    | none =>
        refine .inr ⟨fun n hn => ?_, ?_⟩
        · rw [Numeral.readInt64?_eq_some_iff.mpr hn] at hint
          cases hint
        · cases hfloat : Numeral.readFloat? number with
          | some x =>
              obtain ⟨s, hs, rfl⟩ | hword := Numeral.readFloat?_eq_some_iff.mp hfloat
              · exact .inl ⟨s, hs, rfl⟩
              · exact absurd hlooks (by simp [hword.not_looksNumeric])
          | none =>
              refine .inr ⟨fun s hs => ?_, rfl⟩
              rw [Numeral.readFloat?_eq_some_iff.mpr (.inl ⟨s, hs, rfl⟩)] at hfloat
              cases hfloat
  next hlooks =>
    have hnone : ∀ s, ¬ IsNumber number s := fun s hs => hlooks hs.looksNumeric
    refine .inr ⟨fun n hn => ?_, .inr ⟨hnone, rfl⟩⟩
    obtain ⟨s, hs⟩ := hn.exists_isNumber
    exact hnone s hs

theorem ofText_eq_int_iff {n : Int64} :
    ofText content = .int n ↔ IsInteger (Text.trimChars content.toList) n.toInt := by
  obtain ⟨m, hm, htext⟩ | ⟨hnone, ⟨s, -, htext⟩ | ⟨-, htext⟩⟩ := ofText_cases content
  · rw [htext, FieldValue.int.injEq]
    constructor
    · rintro rfl
      exact hm
    · intro hn
      rw [← Numeral.readInt64?_eq_some_iff] at hm hn
      exact Option.some.inj (hm.symm.trans hn)
  · rw [htext]
    exact ⟨nofun, fun hn => absurd hn (hnone n)⟩
  · rw [htext]
    exact ⟨nofun, fun hn => absurd hn (hnone n)⟩

theorem ofText_eq_float_iff {x : Float} :
    ofText content = .float x ↔
      (∀ n : Int64, ¬ IsInteger (Text.trimChars content.toList) n.toInt) ∧
        ∃ s, IsNumber (Text.trimChars content.toList) s ∧ x = s.toFloat := by
  obtain ⟨m, hm, htext⟩ | ⟨hnone, ⟨s, hs, htext⟩ | ⟨hnumber, htext⟩⟩ := ofText_cases content
  · rw [htext]
    exact ⟨nofun, fun h => absurd hm (h.1 m)⟩
  · rw [htext, FieldValue.float.injEq]
    constructor
    · rintro rfl
      exact ⟨hnone, s, hs, rfl⟩
    · rintro ⟨-, other, hother, rfl⟩
      rw [← Numeral.readScientific?_eq_some_iff] at hs hother
      rw [Option.some.inj (hs.symm.trans hother)]
  · rw [htext]
    exact ⟨nofun, fun ⟨_, s, hs, _⟩ => absurd hs (hnumber s)⟩

theorem ofText_eq_text (hinteger : ∀ n : Int64, ¬ IsInteger (Text.trimChars content.toList) n.toInt)
    (hnumber : ∀ s, ¬ IsNumber (Text.trimChars content.toList) s) :
    ofText content = .text content := by
  obtain ⟨n, hn, -⟩ | ⟨-, ⟨s, hs, -⟩ | ⟨-, htext⟩⟩ := ofText_cases content
  · exact absurd hn (hinteger n)
  · exact absurd hs (hnumber s)
  · exact htext

theorem not_isBlank_of_isDigit {c : Char} (h : c.isDigit = true) : Text.isBlank c = false := by
  have hrange : 48 ≤ c.toNat ∧ c.toNat ≤ 57 := by
    simpa [Char.isDigit, UInt32.le_iff_toNat_le] using h
  rw [Text.isBlank, Text.inRanges, List.any_eq_false]
  intro range hmem
  have hapart : ∀ range ∈ Text.blankRanges, range.2 < 48 ∨ 57 < range.1 := by decide
  have := hapart range hmem
  rw [Bool.and_eq_true, decide_eq_true_eq, decide_eq_true_eq]
  omega

/-- A digit, a sign, a point or an exponent mark is not a blank. -/
theorem not_isBlank_of_isNumeralChar {c : Char} (h : isNumeralChar c = true) :
    Text.isBlank c = false := by
  simp only [isNumeralChar, Bool.or_eq_true, decide_eq_true_eq] at h
  obtain ((((hdigit | rfl) | rfl) | rfl) | rfl) | rfl := h
  · exact not_isBlank_of_isDigit hdigit
  all_goals rfl

/-- What looks numeric is left over when the blanks around it are taken off. -/
theorem trimChars_of_looksNumeric {before core after : List Char}
    (hbefore : ∀ c ∈ before, Text.isBlank c = true) (hafter : ∀ c ∈ after, Text.isBlank c = true)
    (hcore : looksNumeric core = true) : Text.trimChars (before ++ core ++ after) = core := by
  obtain ⟨hdigit, hall⟩ := (Bool.and_eq_true _ _).mp hcore
  obtain ⟨c, hc, -⟩ := List.any_eq_true.mp hdigit
  have hblank : ∀ c ∈ core, Text.isBlank c = false := fun c hc =>
    not_isBlank_of_isNumeralChar (List.all_eq_true.mp hall c hc)
  exact Text.trimChars_append hbefore hafter (fun c hc => hblank c (List.mem_of_mem_head? hc))
    (fun c hc => hblank c (List.mem_of_getLast? hc)) (List.ne_nil_of_mem hc)

/-- An integer is read back from what is written for it, with blanks around that. -/
theorem ofText_padded (n : Int64) {before after : List Char}
    (hbefore : ∀ c ∈ before, Text.isBlank c = true) (hafter : ∀ c ∈ after, Text.isBlank c = true) :
    ofText (String.ofList (before ++ (FieldValue.int n).display.toList ++ after)) = .int n := by
  have hinteger : IsInteger (FieldValue.int n).display.toList n.toInt :=
    Numeral.readInt?_eq_some_iff.mp (Numeral.readInt?_toString n.toInt)
  obtain ⟨s, hs⟩ := hinteger.exists_isNumber
  rw [ofText_eq_int_iff, String.toList_ofList,
    trimChars_of_looksNumeric hbefore hafter hs.looksNumeric]
  exact hinteger

/-- A text becomes an integer if and only if, blanks around it apart, it is the text of an integer
that fits 64 signed bits, and a floating-point number if and only if it is the text of another
decimal number; it is that number then. Every other text stays as it is. What is written for an
integer becomes that integer again, also with blanks around it. -/
theorem ofText_reads (content : String) :
    (∀ n, ofText content = .int n ↔ IsInteger (Text.trimChars content.toList) n.toInt) ∧
    (∀ x, ofText content = .float x ↔
      (∀ n : Int64, ¬ IsInteger (Text.trimChars content.toList) n.toInt) ∧
        ∃ s, IsNumber (Text.trimChars content.toList) s ∧ x = s.toFloat) ∧
    ((∀ n : Int64, ¬ IsInteger (Text.trimChars content.toList) n.toInt) →
      (∀ s, ¬ IsNumber (Text.trimChars content.toList) s) → ofText content = .text content) ∧
    ∀ (n : Int64) (before after : List Char), (∀ c ∈ before, Text.isBlank c = true) →
      (∀ c ∈ after, Text.isBlank c = true) →
        ofText (String.ofList (before ++ (FieldValue.int n).display.toList ++ after)) = .int n :=
  ⟨fun _ => ofText_eq_int_iff, fun _ => ofText_eq_float_iff, ofText_eq_text,
    fun n _ _ => ofText_padded n⟩

/-- The least integer of 64 bits is read between blanks. -/
theorem ofText_reads_least :
    ofText (String.ofList (" \t".toList ++ (FieldValue.int Int64.minValue).display.toList ++
      ['\u3000'])) = .int Int64.minValue :=
  (ofText_reads "").2.2.2 Int64.minValue " \t".toList ['\u3000'] (List.all_eq_true.mp rfl)
    (List.all_eq_true.mp rfl)

end FieldValue

end RecordRecipe
