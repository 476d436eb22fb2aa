import RecordRecipe.Proofs.Function.DateParts
import RecordRecipe.Proofs.Value.Coerce

/-!
# Texts as integer arguments

An argument that has to be an integer may be a text. Texts that become numbers as fields are read as
the same numbers here, a floating-point number being cut down to an integer. The words for infinity
and not-a-number, which stay texts as fields, are read as well: `EagerFunction.texts_as_integers`
says that this is the only difference.
-/

namespace RecordRecipe

open Numeral (IsInteger IsNumber IsSign IsWord)

variable {content : String} {text : List Char} {m : Int}

/-- The integer that a number is cut down to. -/
inductive FieldValue.IntegerOf : FieldValue → Int → Prop
  | int (n : Int64) : IntegerOf (.int n) n.toInt
  | float (x : Float) : IntegerOf (.float x) (truncateToInt64 x)

/-- The integer that a word is taken for: infinity for the greatest or the least one, and
not-a-number for zero. -/
inductive StrayInteger : List Char → Int → Prop
  | infinity {sign word : List Char} {negative : Bool} (hsign : IsSign sign negative)
      (hword : word.map Char.toLower = "inf".toList ∨ word.map Char.toLower = "infinity".toList) :
      StrayInteger (sign ++ word) (if negative then -2 ^ 63 else 2 ^ 63 - 1)
  | notANumber {sign word : List Char} {negative : Bool} (hsign : IsSign sign negative)
      (hword : word.map Char.toLower = "nan".toList) : StrayInteger (sign ++ word) 0

/-- The integer that a text is read as: that of the number that the text becomes as a field, or that
of a word. -/
def TextInteger (content : String) (m : Int) : Prop :=
  (FieldValue.ofText content).IntegerOf m ∨ StrayInteger (Text.trimChars content.toList) m

/-! ## Readings -/

/-- A word is taken for what its value is cut down to. -/
theorem strayInteger_iff : StrayInteger text m ↔ ∃ x, IsWord text x ∧ m = truncateToInt64 x := by
  have hinfinity : ∀ negative : Bool, truncateToInt64 (.ofBits
      (if negative then 0xFFF0000000000000 else 0x7FF0000000000000)) =
        if negative then -2 ^ 63 else 2 ^ 63 - 1 := by decide
  have hnan : truncateToInt64 (.ofBits 0x7FF8000000000000) = 0 := by decide
  constructor
  · rintro (⟨hsign, hword⟩ | ⟨hsign, hword⟩)
    · exact ⟨_, .infinity hsign hword, (hinfinity _).symm⟩
    · exact ⟨_, .notANumber hsign hword, hnan.symm⟩
  · rintro ⟨x, ⟨hsign, hword⟩ | ⟨hsign, hword⟩, rfl⟩
    · rw [hinfinity]
      exact .infinity hsign hword
    · rw [hnan]
      exact .notANumber hsign hword

/-- No word is a number. -/
theorem StrayInteger.not_isNumber {s : Numeral.Scientific} (h : StrayInteger text m) :
    ¬ IsNumber text s := by
  obtain ⟨x, hword, -⟩ := strayInteger_iff.mp h
  exact hword.not_isNumber

theorem FieldValue.integerOf_iff {value : FieldValue} : value.IntegerOf m ↔
    (∃ n, value = .int n ∧ m = n.toInt) ∨ ∃ x, value = .float x ∧ m = truncateToInt64 x := by
  constructor
  · rintro (n | x)
    · exact .inl ⟨n, rfl, rfl⟩
    · exact .inr ⟨x, rfl, rfl⟩
  · rintro (⟨n, rfl, rfl⟩ | ⟨x, rfl, rfl⟩)
    · exact .int n
    · exact .float x

/-- A text is read as the integer that it is, or else as the one that its number is cut down to. -/
theorem readInteger?_eq_some_cases : readInteger? text = some m ↔
    (∃ n : Int64, IsInteger text n.toInt ∧ m = n.toInt) ∨
      (∀ n : Int64, ¬ IsInteger text n.toInt) ∧
        ((∃ s, IsNumber text s ∧ m = truncateToInt64 s.toFloat) ∨ StrayInteger text m) := by
  unfold readInteger?
  cases hread : Numeral.readInt64? text with
  | some n =>
      have hn := Numeral.readInt64?_eq_some_iff.mp hread
      rw [Option.some_inj]
      constructor
      · rintro rfl
        exact .inl ⟨n, hn, rfl⟩
      · rintro (⟨k, hk, rfl⟩ | ⟨hnone, -⟩)
        · rw [Numeral.readInt64?_eq_some_iff.mpr hk] at hread
          rw [Option.some.inj hread]
        · exact absurd hn (hnone n)
  | none =>
      have hnone : ∀ n : Int64, ¬ IsInteger text n.toInt := fun n hn => by
        rw [Numeral.readInt64?_eq_some_iff.mpr hn] at hread
        cases hread
      rw [Option.map_eq_some_iff, strayInteger_iff]
      constructor
      · rintro ⟨x, hx, rfl⟩
        obtain ⟨s, hs, rfl⟩ | hword := Numeral.readFloat?_eq_some_iff.mp hx
        · exact .inr ⟨hnone, .inl ⟨s, hs, rfl⟩⟩
        · exact .inr ⟨hnone, .inr ⟨x, hword, rfl⟩⟩
      · rintro (⟨n, hn, -⟩ | ⟨-, ⟨s, hs, rfl⟩ | ⟨x, hword, rfl⟩⟩)
        · exact absurd hn (hnone n)
        · exact ⟨_, Numeral.readFloat?_eq_some_iff.mpr (.inl ⟨s, hs, rfl⟩), rfl⟩
        · exact ⟨x, Numeral.readFloat?_eq_some_iff.mpr (.inr hword), rfl⟩

/-- A text is read as the number that it becomes, or it is a word. -/
theorem readInteger?_eq_some_iff :
    readInteger? (Text.trimChars content.toList) = some m ↔ TextInteger content m := by
  unfold TextInteger
  simp only [readInteger?_eq_some_cases, FieldValue.integerOf_iff, FieldValue.ofText_eq_int_iff,
    FieldValue.ofText_eq_float_iff]
  constructor
  · rintro (hinteger | ⟨hnone, ⟨s, hs, rfl⟩ | hstray⟩)
    · exact .inl (.inl hinteger)
    · exact .inl (.inr ⟨_, ⟨hnone, s, hs, rfl⟩, rfl⟩)
    · exact .inr hstray
  · rintro ((hinteger | ⟨_, ⟨hnone, s, hs, rfl⟩, rfl⟩) | hstray)
    · exact .inl hinteger
    · exact .inr ⟨hnone, .inl ⟨s, hs, rfl⟩⟩
    · refine .inr ⟨fun n hn => ?_, .inr hstray⟩
      obtain ⟨s, hs⟩ := hn.exists_isNumber
      exact hstray.not_isNumber hs

/-- A word stays a text as a field. -/
theorem StrayInteger.ofText_eq (h : StrayInteger (Text.trimChars content.toList) m) :
    FieldValue.ofText content = .text content := by
  refine FieldValue.ofText_eq_text (fun n hn => ?_) fun s => h.not_isNumber
  obtain ⟨s, hs⟩ := hn.exists_isNumber
  exact h.not_isNumber hs

/-! ## Arguments -/

theorem FieldValue.asInteger_text (content function : String) :
    (FieldValue.text content).asInteger function =
      match readInteger? (Text.trimChars content.toList) with
      | some n => .ok n
      | none => .error (.unreadableInteger function (Text.trim content)) := by
  have htrim : (Text.trim content).toList = Text.trimChars content.toList := String.toList_ofList
  rw [← htrim]
  rfl

namespace CallArguments

variable {arguments : CallArguments} {index : Nat} {name function : String}

/-- A text argument is read as the integer of the text, or refused. -/
theorem integer_of_text (h : arguments.get? index name = some (.text content)) :
    arguments.integer function index name = match readInteger? (Text.trimChars content.toList) with
      | some n => .ok n
      | none => .error (.unreadableInteger function (Text.trim content)) := by
  rw [← FieldValue.asInteger_text]
  unfold integer require
  rw [h]
  rfl

theorem integer_of_text_eq_ok_iff (h : arguments.get? index name = some (.text content)) :
    arguments.integer function index name = .ok m ↔ TextInteger content m := by
  rw [integer_of_text h, ← readInteger?_eq_some_iff]
  cases readInteger? (Text.trimChars content.toList) <;> simp

theorem integer_of_text_eq_error (h : arguments.get? index name = some (.text content))
    (hnone : ∀ m, ¬ TextInteger content m) : arguments.integer function index name =
      .error (.unreadableInteger function (Text.trim content)) := by
  have hread : readInteger? (Text.trimChars content.toList) = none :=
    Option.eq_none_iff_forall_ne_some.mpr fun m hm => hnone m (readInteger?_eq_some_iff.mp hm)
  rw [integer_of_text h, hread]

end CallArguments

namespace EagerFunction

variable {host : Host} {arguments : CallArguments}

/-- The call of `int` finds the integer of a text. -/
theorem int_givesJust (h : arguments.get? 0 "value" = some (.text content)) :
    GivesJust "int" .ofInt (TextInteger content) host arguments := by
  refine .of_pure rfl (fun m hm => ?_) ?_
  · unfold int
    rw [CallArguments.integer_of_text_eq_ok_iff h |>.mpr hm]
    rfl
  · by_cases hexists : ∃ m, TextInteger content m
    · exact .inl hexists
    · refine .inr ⟨.unreadableInteger "int" (Text.trim content), ?_, rfl⟩
      unfold int
      rw [CallArguments.integer_of_text_eq_error h (not_exists.mp hexists)]
      rfl

/-- This is the integer of the number that the text becomes as a field, unless it is a word. -/
theorem int_givesJust_iff (h : arguments.get? 0 "value" = some (.text content)) :
    GivesJust "int" .ofInt (FieldValue.ofText content).IntegerOf host arguments ↔
      ∀ m, ¬ StrayInteger (Text.trimChars content.toList) m := by
  have hexact : ∀ m, TextInteger content m → ((FieldValue.ofText content).IntegerOf m ↔
      ∀ m, ¬ StrayInteger (Text.trimChars content.toList) m) := by
    intro m hm
    refine ⟨fun hof n hstray => ?_, fun hnone => hm.resolve_right (hnone m)⟩
    rw [hstray.ofText_eq] at hof
    cases hof
  rw [(int_givesJust h).exact_iff hexact fun m => .inl]
  exact ⟨fun hnone m hstray => hnone ⟨m, .inr hstray⟩ m hstray, fun hnone _ => hnone⟩

/-- A text is accepted as an integer argument if and only if it becomes a number as a field, which
then is the integer or is cut down to it, or is a word for infinity or not-a-number, which stays a
text as a field. Otherwise it is a value error. So `int` agrees with what texts become as fields if
and only if the text is no such word. -/
theorem texts_as_integers (content : String) :
    (∀ (arguments : CallArguments) (function name : String) (index : Nat),
      arguments.get? index name = some (.text content) →
        (∀ m, arguments.integer function index name = .ok m ↔ TextInteger content m) ∧
        ((∀ m, ¬ TextInteger content m) →
          ∃ fault, arguments.integer function index name = .error fault ∧ fault.kind = .value)) ∧
    (∀ (host : Host) (arguments : CallArguments),
      arguments.get? 0 "value" = some (.text content) →
        GivesJust "int" .ofInt (TextInteger content) host arguments ∧
        (GivesJust "int" .ofInt (FieldValue.ofText content).IntegerOf host arguments ↔
          ∀ m, ¬ StrayInteger (Text.trimChars content.toList) m)) ∧
    ∀ m, StrayInteger (Text.trimChars content.toList) m →
      FieldValue.ofText content = .text content := by
  refine ⟨?_, ?_, fun m => StrayInteger.ofText_eq⟩
  · intro arguments function name index h
    refine ⟨fun m => CallArguments.integer_of_text_eq_ok_iff h, fun hnone => ?_⟩
    exact ⟨_, CallArguments.integer_of_text_eq_error h hnone, rfl⟩
  · exact fun host arguments h => ⟨int_givesJust h, int_givesJust_iff h⟩

/-- An integer between blanks is read, and a lone point is a value error. -/
theorem texts_as_integers_padded :
    Results "int" .blank ⟨[.text " +12\t"], []⟩ (.ok (.int 12)) ∧
    ∃ fault, (CallArguments.mk [.text "."] []).integer "date" 0 "year" = .error fault ∧
      fault.kind = .value := by
  obtain ⟨-, hcalls, -⟩ := texts_as_integers " +12\t"
  obtain ⟨hpoint, -, -⟩ := texts_as_integers "."
  have hnone : ∀ m, ¬ TextInteger "." m := fun m hm => by
    have hread := readInteger?_eq_some_iff.mpr hm
    cases hread
  refine ⟨((hcalls .blank ⟨[.text " +12\t"], []⟩ rfl).1.found _).mpr ⟨12, .inl ?_, rfl⟩, ?_⟩
  · exact .int 12
  · exact (hpoint ⟨[.text "."], []⟩ "date" "year" 0 rfl).2 hnone

/-- Infinity is read as the greatest integer and a negative not-a-number as zero, though both stay
texts as fields and none of them is a number. -/
theorem words_read_as_integers :
    (Results "int" .blank ⟨[.text "inf"], []⟩ (.ok (.int Int64.maxValue)) ∧
      FieldValue.ofText "inf" = .text "inf" ∧
      ¬ GivesJust "int" .ofInt (FieldValue.ofText "inf").IntegerOf .blank ⟨[.text "inf"], []⟩) ∧
    Results "int" .blank ⟨[.text " -NaN"], []⟩ (.ok (.int 0)) ∧
      FieldValue.ofText " -NaN" = .text " -NaN" := by
  have hresults : Results "int" .blank ⟨[.text "inf"], []⟩ (.ok (.int Int64.maxValue)) :=
    ⟨_, rfl, fun _ => rfl⟩
  refine ⟨⟨hresults, rfl, fun h => ?_⟩, ⟨_, rfl, fun _ => rfl⟩, rfl⟩
  obtain ⟨m, hm, -⟩ := (h.found _).mp hresults
  have htext : FieldValue.ofText "inf" = .text "inf" := rfl
  rw [htext] at hm
  cases hm

end EagerFunction

end RecordRecipe
