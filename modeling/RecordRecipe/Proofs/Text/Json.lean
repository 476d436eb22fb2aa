import RecordRecipe.Numeral
import RecordRecipe.Text.Json
import Mathlib.Data.List.TakeDrop

/-!
# Reading JSON documents

A reader of JSON documents that takes the grammar of RFC 8259 and nothing beside it: white space
between the tokens, the numerals of that grammar, and strings in which control characters only
stand escaped and surrogates only in pairs. Reading gives back every value that has been written,
provided that its numbers are numerals: `JsonValue.ofText?_compact`.
-/

namespace RecordRecipe.JsonValue

/-! ## The reader -/

/-- A character that may stand between two tokens. -/
def isWhite (c : Char) : Bool :=
  c = ' ' || c = '\t' || c = '\n' || c = '\r'

/-- The text behind the white space in front of it. -/
def skipWhite (text : List Char) : List Char :=
  text.dropWhile isWhite

/-- The number of four hexadecimal digits. -/
def readUnit? : List Char → Option (Nat × List Char)
  | a :: b :: c :: d :: rest => do
      let a ← Numeral.hexDigit? a
      let b ← Numeral.hexDigit? b
      let c ← Numeral.hexDigit? c
      let d ← Numeral.hexDigit? d
      return (4096 * a + 256 * b + 16 * c + d, rest)
  | _ => none

/-- The character that one unit stands for, or a pair of surrogates. -/
def readEscaped? (text : List Char) : Option (Char × List Char) := do
  let (unit, rest) ← readUnit? text
  if unit < 0xD800 ∨ 0xE000 ≤ unit then return (Char.ofNat unit, rest)
  else match rest with
    | '\\' :: 'u' :: more => do
        let (low, rest) ← readUnit? more
        if unit < 0xDC00 ∧ 0xDC00 ≤ low ∧ low < 0xE000 then
          return (Char.ofNat (0x10000 + (unit - 0xD800) * 0x400 + (low - 0xDC00)), rest)
        else none
    | _ => none

/-- The character that a character stands for behind a backslash. -/
def unescape? (c : Char) : Option Char :=
  if c = '\x22' ∨ c = '\\' ∨ c = '/' then some c
  else if c = 'n' then some '\n'
  else if c = 'r' then some '\r'
  else if c = 't' then some '\t'
  else if c = 'b' then some '\x08'
  else if c = 'f' then some '\x0c'
  else none

/-- One character of a string. -/
def readChar? : List Char → Option (Char × List Char)
  | [] => none
  | c :: rest =>
      if c = '\\' then
        match rest with
        | [] => none
        | d :: more => if d = 'u' then readEscaped? more else (unescape? d).map (·, more)
      else if c = '\x22' ∨ c.toNat < 32 then none
      else some (c, rest)

/-- The characters of a string up to its closing quote. -/
def readChars? : Nat → List Char → Option (List Char × List Char)
  | 0, _ => none
  | fuel + 1, text =>
      if text.head? = some '\x22' then some ([], text.tail)
      else do
        let (c, rest) ← readChar? text
        let (more, rest) ← readChars? fuel rest
        return (c :: more, rest)

/-- The string behind an opening quote. -/
def readString? (text : List Char) : Option (String × List Char) :=
  (readChars? (text.length + 1) text).map fun (content, rest) => (String.ofList content, rest)

/-- At least one digit and nothing else. -/
def isDigits (text : List Char) : Bool :=
  !text.isEmpty && text.all Char.isDigit

/-- Digits of which the first is no zero, unless it stands alone. -/
def isWhole (text : List Char) : Bool :=
  isDigits text && (text.head? != some '0' || text.length = 1)

/-- An exponent, or nothing. -/
def isExponent : List Char → Bool
  | [] => true
  | mark :: rest =>
      (mark = 'e' || mark = 'E') &&
        isDigits (if rest.head? = some '+' ∨ rest.head? = some '-' then rest.tail else rest)

/-- What may stand behind the digits of an integer: a fraction and an exponent. -/
def isFraction (text : List Char) : Bool :=
  if text.head? = some '.' then
    isDigits (text.tail.takeWhile Char.isDigit) && isExponent (text.tail.dropWhile Char.isDigit)
  else isExponent text

/-- A number as JSON documents have them. -/
def isNumeral (text : List Char) : Bool :=
  let unsigned := if text.head? = some '-' then text.tail else text
  isWhole (unsigned.takeWhile Char.isDigit) && isFraction (unsigned.dropWhile Char.isDigit)

/-- A character that may stand in a number. -/
def isNumberChar (c : Char) : Bool :=
  c.isDigit || c = '-' || c = '+' || c = '.' || c = 'e' || c = 'E'

/-- The number that a text begins with. -/
def readNumber? (text : List Char) : Option (JsonValue × List Char) :=
  let token := text.takeWhile isNumberChar
  if isNumeral token then some (.number (String.ofList token), text.dropWhile isNumberChar)
  else none

mutual

/-- The value that a text begins with. -/
def readValue? : Nat → List Char → Option (JsonValue × List Char)
  | 0, _ => none
  | fuel + 1, text =>
      match skipWhite text with
      | 'n' :: 'u' :: 'l' :: 'l' :: rest => some (.null, rest)
      | 't' :: 'r' :: 'u' :: 'e' :: rest => some (.bool true, rest)
      | 'f' :: 'a' :: 'l' :: 's' :: 'e' :: rest => some (.bool false, rest)
      | '\x22' :: rest => (readString? rest).map fun (content, rest) => (.string content, rest)
      | '[' :: rest =>
          if (skipWhite rest).head? = some ']' then some (.array [], (skipWhite rest).tail)
          else (readItems? fuel rest).map fun (items, rest) => (.array items, rest)
      | '\x7b' :: rest =>
          if (skipWhite rest).head? = some '\x7d' then some (.object [], (skipWhite rest).tail)
          else (readMembers? fuel rest).map fun (members, rest) => (.object members, rest)
      | text => readNumber? text

/-- At least one item of an array, up to its closing bracket. -/
def readItems? : Nat → List Char → Option (List JsonValue × List Char)
  | 0, _ => none
  | fuel + 1, text => do
      let (item, rest) ← readValue? fuel text
      let rest := skipWhite rest
      if rest.head? = some ',' then do
        let (more, rest) ← readItems? fuel rest.tail
        return (item :: more, rest)
      else if rest.head? = some ']' then return ([item], rest.tail)
      else none

/-- At least one member of an object, up to its closing brace. -/
def readMembers? : Nat → List Char → Option (List (String × JsonValue) × List Char)
  | 0, _ => none
  | fuel + 1, text => do
      let text := skipWhite text
      let (name, rest) ← if text.head? = some '\x22' then readString? text.tail else none
      let rest := skipWhite rest
      let (value, rest) ← if rest.head? = some ':' then readValue? fuel rest.tail else none
      let rest := skipWhite rest
      if rest.head? = some ',' then do
        let (more, rest) ← readMembers? fuel rest.tail
        return ((name, value) :: more, rest)
      else if rest.head? = some '\x7d' then return ([(name, value)], rest.tail)
      else none

end

/-- The value of a document: one value with nothing but white space around it. -/
def ofText? (text : String) : Option JsonValue :=
  match readValue? (2 * text.toList.length + 2) text.toList with
  | some (value, rest) => if skipWhite rest = [] then some value else none
  | none => none

/-! ## Strings -/

variable {rest : List Char}

theorem hexDigit?_hexDigit {n : Nat} (h : n < 16) : Numeral.hexDigit? (hexDigit n) = some n := by
  have hall : ∀ n : Fin 16, Numeral.hexDigit? (hexDigit n) = some n.val := by decide
  exact hall ⟨n, h⟩

/-- A control character is read back from its number. -/
theorem readEscaped?_control {c : Char} (h : c.toNat < 32) :
    readEscaped? ('0' :: '0' :: hexDigit (c.toNat / 16) :: hexDigit (c.toNat % 16) :: rest) =
      some (c, rest) := by
  have hzero : Numeral.hexDigit? '0' = some 0 := rfl
  have hhigh := hexDigit?_hexDigit (n := c.toNat / 16) (by omega)
  have hlow := hexDigit?_hexDigit (n := c.toNat % 16) (by omega)
  have hunit : 4096 * 0 + 256 * 0 + 16 * (c.toNat / 16) + c.toNat % 16 = c.toNat := by omega
  simp only [readEscaped?, readUnit?, hzero, hhigh, hlow, hunit, Option.bind_eq_bind,
    Option.bind_some, Option.pure_def]
  rw [if_pos (Or.inl (by omega)), Char.ofNat_toNat]

/-- A character is read back from the way it is written in a string. -/
theorem readChar?_escapeChar (c : Char) : readChar? (escapeChar c ++ rest) = some (c, rest) := by
  unfold escapeChar
  split_ifs with hquote hback hline hreturn htab hbackspace hfeed hcontrol
  -- The seven characters with an escape of their own are read back by evaluation.
  rotate_left 7
  · simpa [readChar?] using readEscaped?_control hcontrol
  · simp [readChar?, hback, hquote, hcontrol]
  all_goals subst_vars; rfl

/-- No character is written as something that begins with a quote. -/
theorem head?_escapeChar (c : Char) : (escapeChar c ++ rest).head? ≠ some '\x22' := by
  unfold escapeChar
  split_ifs <;> simp_all

theorem length_escapeChar_pos (c : Char) : 0 < (escapeChar c).length := by
  unfold escapeChar
  split_ifs <;> simp

/-- The characters of a string are read back up to the closing quote. -/
theorem readChars?_escape (content : List Char) {fuel : Nat}
    (hfuel : (escape content).length < fuel) :
    readChars? fuel (escape content ++ '\x22' :: rest) = some (content, rest) := by
  induction content generalizing fuel with
  | nil =>
      obtain _ | fuel := fuel
      · omega
      · rfl
  | cons c more ih =>
      obtain _ | fuel := fuel
      · omega
      · have hescape : escape (c :: more) = escapeChar c ++ escape more := List.flatMap_cons
        rw [hescape, List.length_append] at hfuel
        have hpos := length_escapeChar_pos c
        rw [hescape, List.append_assoc, readChars?, if_neg (head?_escapeChar c),
          readChar?_escapeChar, Option.bind_eq_bind, Option.bind_some]
        dsimp only
        rw [ih (by omega)]
        rfl

/-- A string is read back from behind its opening quote. -/
theorem readString?_escape (content : String) :
    readString? (escape content.toList ++ '\x22' :: rest) = some (content, rest) := by
  rw [readString?, readChars?_escape content.toList (by rw [List.length_append]; omega)]
  simp

theorem toList_quote (content : String) :
    (quote content).toList = '\x22' :: (escape content.toList ++ ['\x22']) := by
  simp [quote]

/-! ## Numbers -/

theorem isNumberChar_of_isDigit {c : Char} (h : c.isDigit = true) : isNumberChar c = true := by
  simp [isNumberChar, h]

theorem isNumberChar_of_mem_isDigits {text : List Char} (h : isDigits text = true) :
    ∀ c ∈ text, isNumberChar c = true := by
  rw [isDigits, Bool.and_eq_true, List.all_eq_true] at h
  exact fun c hc => isNumberChar_of_isDigit (h.2 c hc)

theorem isNumberChar_of_mem_isExponent {text : List Char} (h : isExponent text = true) :
    ∀ c ∈ text, isNumberChar c = true := by
  obtain _ | ⟨mark, _ | ⟨sign, digits⟩⟩ := text
  · simp
  · simp [isExponent, isDigits] at h
  · simp only [isExponent, List.head?_cons, List.tail_cons, Option.some.injEq, Bool.and_eq_true,
      Bool.or_eq_true, decide_eq_true_eq] at h
    obtain ⟨hmark, hdigits⟩ := h
    have hhead : isNumberChar mark = true := by
      obtain rfl | rfl := hmark <;> rfl
    split_ifs at hdigits with hsign
    · have hsecond : isNumberChar sign = true := by
        obtain rfl | rfl := hsign <;> rfl
      simpa [hhead, hsecond] using isNumberChar_of_mem_isDigits hdigits
    · simpa [hhead] using isNumberChar_of_mem_isDigits hdigits

theorem isNumberChar_of_mem_isFraction {text : List Char} (h : isFraction text = true) :
    ∀ c ∈ text, isNumberChar c = true := by
  rw [isFraction] at h
  split_ifs at h with hpoint
  · obtain ⟨more, rfl⟩ : ∃ more, text = '.' :: more := by
      obtain _ | ⟨first, more⟩ := text
      · simp at hpoint
      · exact ⟨more, by simpa using hpoint⟩
    rw [List.tail_cons, Bool.and_eq_true] at h
    rw [← List.takeWhile_append_dropWhile (p := Char.isDigit) (l := more)]
    intro c hc
    simp only [List.mem_cons, List.mem_append] at hc
    obtain rfl | hc | hc := hc
    · rfl
    · exact isNumberChar_of_mem_isDigits h.1 c hc
    · exact isNumberChar_of_mem_isExponent h.2 c hc
  · exact isNumberChar_of_mem_isExponent h

/-- Every character of a numeral may stand in a number. -/
theorem isNumberChar_of_mem_isNumeral {text : List Char} (h : isNumeral text = true) :
    ∀ c ∈ text, isNumberChar c = true := by
  have hunsigned : ∀ c ∈ (if text.head? = some '-' then text.tail else text),
      isNumberChar c = true := by
    rw [isNumeral, Bool.and_eq_true] at h
    intro c hc
    rw [← List.takeWhile_append_dropWhile (p := Char.isDigit)
      (l := if text.head? = some '-' then text.tail else text), List.mem_append] at hc
    obtain hc | hc := hc
    · exact isNumberChar_of_isDigit (List.all_eq_true.mp List.all_takeWhile c hc)
    · exact isNumberChar_of_mem_isFraction h.2 c hc
  split_ifs at hunsigned with hminus
  · obtain _ | ⟨first, more⟩ := text
    · simp
    · obtain rfl : first = '-' := by simpa using hminus
      simpa using ⟨rfl, hunsigned⟩
  · exact hunsigned

theorem ne_nil_of_isNumeral {text : List Char} (h : isNumeral text = true) : text ≠ [] := by
  rintro rfl
  cases h

/-- A numeral begins with a digit or a minus. -/
theorem head_of_isNumeral {c : Char} {more : List Char} (h : isNumeral (c :: more) = true) :
    c.isDigit = true ∨ c = '-' := by
  by_cases hminus : c = '-'
  · exact .inr hminus
  · refine .inl ?_
    by_contra hdigit
    simp [isNumeral, hminus, hdigit, isWhole, isDigits] at h

/-- No number goes on here. -/
def NumberEnds (rest : List Char) : Prop :=
  ∀ c ∈ rest.head?, isNumberChar c = false

/-- A numeral is read off where no number goes on behind it. -/
theorem readNumber?_append {text : String} (h : isNumeral text.toList = true)
    (hrest : NumberEnds rest) : readNumber? (text.toList ++ rest) = some (.number text, rest) := by
  have hchars := isNumberChar_of_mem_isNumeral h
  have hstop : rest.takeWhile isNumberChar = [] ∧ rest.dropWhile isNumberChar = rest := by
    obtain _ | ⟨c, more⟩ := rest
    · simp
    · have hc : isNumberChar c = false := hrest c rfl
      simp [hc]
  rw [readNumber?, List.takeWhile_append_of_pos hchars, List.dropWhile_append_of_pos hchars,
    hstop.1, hstop.2, List.append_nil, if_pos h, String.ofList_toList]

/-! ## Values -/

/-- All numbers of the value are numerals. -/
inductive Proper : JsonValue → Prop
  | null : Proper .null
  | bool (flag : Bool) : Proper (.bool flag)
  | number {text : String} (h : isNumeral text.toList = true) : Proper (.number text)
  | string (content : String) : Proper (.string content)
  | array {items : List JsonValue} (h : ∀ item ∈ items, Proper item) : Proper (.array items)
  | object {members : List (String × JsonValue)} (h : ∀ member ∈ members, Proper member.2) :
      Proper (.object members)

/-- The characters of the compact document. -/
def chars (value : JsonValue) : List Char := (compact value).toList

/-- The characters of a member. -/
def memberChars (member : String × JsonValue) : List Char :=
  (quote member.1).toList ++ ':' :: chars member.2

/-- The value is read back where no number goes on behind it. -/
def Reads (value : JsonValue) : Prop :=
  ∀ (fuel : Nat) (rest : List Char), 2 * (chars value).length ≤ fuel → NumberEnds rest →
    readValue? fuel (chars value ++ rest) = some (value, rest)

theorem toList_compactItems (items : List JsonValue) :
    (compactItems items).toList = List.intercalate [','] (items.map chars) := by
  induction items with
  | nil => rfl
  | cons item rest ih =>
      cases rest with
      | nil => simp [compactItems, chars]
      | cons next rest =>
          rw [compactItems, String.toList_append, String.toList_append, ih]
          simp [List.intercalate_cons_cons, chars]

theorem toList_compactMembers (members : List (String × JsonValue)) :
    (compactMembers members).toList = List.intercalate [','] (members.map memberChars) := by
  induction members with
  | nil => rfl
  | cons member rest ih =>
      obtain ⟨name, value⟩ := member
      cases rest with
      | nil => simp [compactMembers, memberChars, chars]
      | cons next rest =>
          simp only [compactMembers, String.toList_append, ih]
          simp [List.intercalate_cons_cons, memberChars, chars]

theorem chars_array (items : List JsonValue) :
    chars (.array items) = '[' :: (List.intercalate [','] (items.map chars) ++ [']']) := by
  simp [chars, compact, ← toList_compactItems]

theorem chars_object (members : List (String × JsonValue)) :
    chars (.object members) =
      '\x7b' :: (List.intercalate [','] (members.map memberChars) ++ ['\x7d']) := by
  simp [chars, compact, ← toList_compactMembers]

/-! ### White space -/

variable {gap text : List Char}

theorem skipWhite_append (h : ∀ c ∈ gap, isWhite c = true) :
    skipWhite (gap ++ text) = skipWhite text :=
  List.dropWhile_append_of_pos h

theorem skipWhite_cons {c : Char} (h : isWhite c = false) : skipWhite (c :: text) = c :: text := by
  simp [skipWhite, h]

theorem readValue?_gap (h : ∀ c ∈ gap, isWhite c = true) (fuel : Nat) :
    readValue? fuel (gap ++ text) = readValue? fuel text := by
  cases fuel with
  | zero => rfl
  | succ fuel => rw [readValue?, readValue?, skipWhite_append h]

theorem readItems?_gap (h : ∀ c ∈ gap, isWhite c = true) (fuel : Nat) :
    readItems? fuel (gap ++ text) = readItems? fuel text := by
  cases fuel with
  | zero => rfl
  | succ fuel => rw [readItems?, readItems?, readValue?_gap h]

theorem isNumberChar_of_isWhite {c : Char} (h : isWhite c = true) : isNumberChar c = false := by
  simp only [isWhite, Bool.or_eq_true, decide_eq_true_eq] at h
  obtain ((rfl | rfl) | rfl) | rfl := h <;> rfl

/-- No number goes on behind white space and a character that no number has. -/
theorem numberEnds_gap (h : ∀ c ∈ gap, isWhite c = true) {c : Char}
    (hc : isNumberChar c = false) : NumberEnds (gap ++ c :: rest) := by
  intro first hfirst
  cases gap with
  | nil =>
      obtain rfl : c = first := by simpa using hfirst
      exact hc
  | cons white more =>
      obtain rfl : white = first := by simpa using hfirst
      exact isNumberChar_of_isWhite (h _ List.mem_cons_self)

theorem numberEnds_cons {c : Char} (h : isNumberChar c = false) : NumberEnds (c :: rest) :=
  numberEnds_gap (List.forall_mem_nil _) h

/-- A value begins with a character that is no white space and closes no array. -/
theorem Proper.opens {value : JsonValue} (h : value.Proper) :
    ∃ c more, chars value = c :: more ∧ isWhite c = false ∧ c ≠ ']' := by
  cases h with
  | null => exact ⟨'n', _, rfl, rfl, by decide⟩
  | bool flag =>
      cases flag
      · exact ⟨'f', _, rfl, rfl, by decide⟩
      · exact ⟨'t', _, rfl, rfl, by decide⟩
  | @number text h =>
      obtain ⟨c, more, htext⟩ := List.exists_cons_of_ne_nil (ne_nil_of_isNumeral h)
      have hc : isNumberChar c = true :=
        isNumberChar_of_mem_isNumeral h c (by rw [htext]; exact List.mem_cons_self)
      refine ⟨c, more, htext, ?_, ?_⟩
      · cases hwhite : isWhite c with
        | false => rfl
        | true =>
            rw [isNumberChar_of_isWhite hwhite] at hc
            cases hc
      · rintro rfl
        cases hc
  | string content => exact ⟨'\x22', _, toList_quote content, rfl, by decide⟩
  | array => exact ⟨'[', _, chars_array _, rfl, by decide⟩
  | object => exact ⟨'\x7b', _, chars_object _, rfl, by decide⟩

/-! ### Items and members -/

/-- The items of an array are read back up to the closing bracket. -/
theorem readItems?_intercalate (hgap : ∀ c ∈ gap, isWhite c = true) {items : List JsonValue}
    (hitems : items ≠ []) (hreads : ∀ item ∈ items, Reads item) (fuel : Nat)
    (hfuel : 2 * (List.intercalate (',' :: gap) (items.map chars)).length + 1 ≤ fuel) :
    readItems? fuel (List.intercalate (',' :: gap) (items.map chars) ++ (gap ++ ']' :: rest)) =
      some (items, rest) := by
  induction items generalizing fuel with
  | nil => exact absurd rfl hitems
  | cons item more ih =>
      obtain ⟨fuel, rfl⟩ : ∃ less, fuel = less + 1 := ⟨fuel - 1, by omega⟩
      have hitem := hreads item List.mem_cons_self
      rw [readItems?]
      cases more with
      | nil =>
          rw [List.map_singleton, List.intercalate_singleton] at hfuel ⊢
          rw [hitem fuel _ (by omega) (numberEnds_gap hgap rfl), Option.bind_eq_bind,
            Option.bind_some]
          dsimp only
          rw [skipWhite_append hgap, skipWhite_cons rfl]
          rfl
      | cons next more =>
          have hmore := ih (List.cons_ne_nil _ _)
            (fun other h => hreads other (List.mem_cons_of_mem _ h)) fuel
          simp only [List.map_cons, List.intercalate_cons_cons, List.append_assoc,
            List.cons_append, List.length_append, List.length_cons] at hfuel hmore ⊢
          rw [hitem fuel _ (by omega) (numberEnds_cons rfl), Option.bind_eq_bind, Option.bind_some]
          dsimp only
          rw [skipWhite_cons rfl, List.head?_cons, if_pos rfl, List.tail_cons,
            readItems?_gap hgap, hmore (by omega)]
          rfl

/-- What becomes of the members of an object once the first one is read. -/
theorem readMembers?_member {member : String × JsonValue} (h : Reads member.2) {fuel : Nat}
    (hfuel : 2 * (memberChars member).length ≤ fuel) (hrest : NumberEnds rest) :
    readMembers? (fuel + 1) (memberChars member ++ rest) =
      if (skipWhite rest).head? = some ',' then do
        let (more, rest) ← readMembers? fuel (skipWhite rest).tail
        return (member :: more, rest)
      else if (skipWhite rest).head? = some '\x7d' then return ([member], (skipWhite rest).tail)
      else none := by
  obtain ⟨name, value⟩ := member
  change Reads value at h
  simp only [memberChars, toList_quote, List.cons_append, List.append_assoc, List.nil_append,
    List.length_append, List.length_cons] at hfuel ⊢
  rw [readMembers?, skipWhite_cons rfl, List.head?_cons, if_pos rfl, List.tail_cons,
    readString?_escape, Option.bind_eq_bind, Option.bind_some]
  dsimp only
  rw [skipWhite_cons rfl, List.head?_cons, if_pos rfl, List.tail_cons,
    h fuel rest (by omega) hrest, Option.bind_eq_bind, Option.bind_some]

/-- The members of an object are read back up to the closing brace. -/
theorem readMembers?_intercalate {members : List (String × JsonValue)} (hmembers : members ≠ [])
    (hreads : ∀ member ∈ members, Reads member.2) (fuel : Nat)
    (hfuel : 2 * (List.intercalate [','] (members.map memberChars)).length + 1 ≤ fuel) :
    readMembers? fuel (List.intercalate [','] (members.map memberChars) ++ '\x7d' :: rest) =
      some (members, rest) := by
  induction members generalizing fuel with
  | nil => exact absurd rfl hmembers
  | cons member more ih =>
      obtain ⟨fuel, rfl⟩ : ∃ less, fuel = less + 1 := ⟨fuel - 1, by omega⟩
      have hmember := hreads member List.mem_cons_self
      cases more with
      | nil =>
          rw [List.map_singleton, List.intercalate_singleton] at hfuel ⊢
          rw [readMembers?_member hmember (by omega) (numberEnds_cons rfl), skipWhite_cons rfl]
          rfl
      | cons next more =>
          have hmore := ih (List.cons_ne_nil _ _)
            (fun other h => hreads other (List.mem_cons_of_mem _ h)) fuel
          simp only [List.map_cons, List.intercalate_cons_cons, List.append_assoc,
            List.cons_append, List.length_append, List.length_cons, List.nil_append] at hfuel hmore ⊢
          rw [readMembers?_member hmember (by omega) (numberEnds_cons rfl), skipWhite_cons rfl,
            List.head?_cons, if_pos rfl, List.tail_cons, hmore (by omega)]
          rfl

/-! ### Documents -/

theorem readValue?_quote (fuel : Nat) :
    readValue? (fuel + 1) ('\x22' :: text) =
      (readString? text).map fun (content, rest) => (.string content, rest) := rfl

theorem readValue?_bracket (fuel : Nat) :
    readValue? (fuel + 1) ('[' :: text) =
      if (skipWhite text).head? = some ']' then some (.array [], (skipWhite text).tail)
      else (readItems? fuel text).map fun (items, rest) => (.array items, rest) := rfl

theorem readValue?_brace (fuel : Nat) :
    readValue? (fuel + 1) ('\x7b' :: text) =
      if (skipWhite text).head? = some '\x7d' then some (.object [], (skipWhite text).tail)
      else (readMembers? fuel text).map fun (members, rest) => (.object members, rest) := rfl

/-- A value that begins with a digit or a minus is a number. -/
theorem readValue?_number {c : Char} (hc : c.isDigit = true ∨ c = '-') (fuel : Nat) :
    readValue? (fuel + 1) (c :: text) = readNumber? (c :: text) := by
  have hwhite : isWhite c = false := by
    cases hwhite : isWhite c with
    | false => rfl
    | true =>
        have hother := isNumberChar_of_isWhite hwhite
        obtain hdigit | rfl := hc
        · rw [isNumberChar_of_isDigit hdigit] at hother
          cases hother
        · cases hother
  rw [readValue?, skipWhite_cons hwhite]
  split <;> simp_all

/-- An array of items between white space is read back. -/
theorem readValue?_array (hgap : ∀ c ∈ gap, isWhite c = true) {items : List JsonValue}
    (hitems : items ≠ []) (hproper : ∀ item ∈ items, Proper item)
    (hreads : ∀ item ∈ items, Reads item) {fuel : Nat}
    (hfuel : 2 * (List.intercalate (',' :: gap) (items.map chars)).length + 2 ≤ fuel) :
    readValue? fuel ('[' :: (gap ++ (List.intercalate (',' :: gap) (items.map chars) ++
      (gap ++ ']' :: rest)))) = some (.array items, rest) := by
  obtain ⟨fuel, rfl⟩ : ∃ less, fuel = less + 1 := ⟨fuel - 1, by omega⟩
  have hopens : (skipWhite (gap ++ (List.intercalate (',' :: gap) (items.map chars) ++
      (gap ++ ']' :: rest)))).head? ≠ some ']' := by
    obtain ⟨first, more, rfl⟩ := List.exists_cons_of_ne_nil hitems
    obtain ⟨c, tail, hchars, hwhite, hne⟩ := (hproper first List.mem_cons_self).opens
    obtain ⟨tail, htail⟩ : ∃ tail,
        List.intercalate (',' :: gap) ((first :: more).map chars) = c :: tail := by
      cases more with
      | nil => exact ⟨tail, by simp [hchars]⟩
      | cons next more => simp [List.intercalate_cons_cons, hchars]
    rw [skipWhite_append hgap, htail, List.cons_append, skipWhite_cons hwhite]
    simpa using hne
  rw [readValue?_bracket, if_neg hopens, readItems?_gap hgap,
    readItems?_intercalate hgap hitems hreads fuel (by omega)]
  rfl

/-- Reading a value takes at least one step. -/
theorem Proper.reads_of_succ {value : JsonValue} (h : value.Proper)
    (hreads : ∀ (fuel : Nat) (rest : List Char), 2 * (chars value).length ≤ fuel + 1 →
      NumberEnds rest → readValue? (fuel + 1) (chars value ++ rest) = some (value, rest)) :
    Reads value := by
  intro fuel rest hfuel hrest
  obtain ⟨c, more, hchars, -, -⟩ := h.opens
  obtain ⟨fuel, rfl⟩ : ∃ less, fuel = less + 1 := by
    rw [hchars, List.length_cons] at hfuel
    exact ⟨fuel - 1, by omega⟩
  exact hreads fuel rest hfuel hrest

/-- Every value whose numbers are numerals is read back from its compact document. -/
theorem Proper.reads {value : JsonValue} (h : value.Proper) : Reads value := by
  induction h with
  | null => exact Proper.null.reads_of_succ fun _ _ _ _ => rfl
  | bool flag =>
      refine (Proper.bool flag).reads_of_succ fun _ _ _ _ => ?_
      cases flag <;> rfl
  | string content =>
      refine (Proper.string content).reads_of_succ fun fuel rest _ _ => ?_
      have hchars : chars (.string content) = '\x22' :: (escape content.toList ++ ['\x22']) :=
        toList_quote content
      rw [hchars, List.cons_append, List.append_assoc, List.cons_append, List.nil_append,
        readValue?_quote, readString?_escape]
      rfl
  | @number text h =>
      refine (Proper.number h).reads_of_succ fun fuel rest _ hrest => ?_
      obtain ⟨c, more, htext⟩ := List.exists_cons_of_ne_nil (ne_nil_of_isNumeral h)
      have hread := readNumber?_append h hrest
      rw [htext, List.cons_append] at hread
      rw [show chars (.number text) = c :: more from htext, List.cons_append,
        readValue?_number (head_of_isNumeral (htext ▸ h)), hread]
  | @array items h ih =>
      refine (Proper.array h).reads_of_succ fun fuel rest hfuel _ => ?_
      rw [chars_array] at hfuel ⊢
      rw [List.length_cons, List.length_append, List.length_singleton] at hfuel
      rw [List.cons_append, List.append_assoc]
      by_cases hitems : items = []
      · subst hitems
        rfl
      · exact readValue?_array (List.forall_mem_nil _) hitems h ih (by omega)
  | @object members h ih =>
      refine (Proper.object h).reads_of_succ fun fuel rest hfuel _ => ?_
      rw [chars_object] at hfuel ⊢
      rw [List.length_cons, List.length_append, List.length_singleton] at hfuel
      rw [List.cons_append, List.append_assoc]
      by_cases hmembers : members = []
      · subst hmembers
        rfl
      · have hopens : (skipWhite (List.intercalate [','] (members.map memberChars) ++
            (['\x7d'] ++ rest))).head? ≠ some '\x7d' := by
          obtain ⟨⟨name, value⟩, more, rfl⟩ := List.exists_cons_of_ne_nil hmembers
          cases more with
          | nil => simp [memberChars, toList_quote, skipWhite_cons (c := '\x22') rfl]
          | cons next more =>
              simp [List.intercalate_cons_cons, memberChars, toList_quote,
                skipWhite_cons (c := '\x22') rfl]
        rw [readValue?_brace, if_neg hopens, List.singleton_append,
          readMembers?_intercalate hmembers ih fuel (by omega)]
        rfl

/-- A value whose numbers are numerals is what its compact document says. -/
theorem ofText?_compact {value : JsonValue} (h : value.Proper) :
    ofText? (compact value) = some value := by
  have hread := h.reads (2 * (chars value).length + 2) [] (by omega) (by simp [NumberEnds])
  rw [List.append_nil] at hread
  rw [ofText?, show (compact value).toList = chars value from rfl, hread]
  rfl

/-- An array over several lines, each of its items on one of them, is what its text says. -/
theorem ofText?_lines {text : String} {items : List JsonValue} (hitems : items ≠ [])
    (hproper : ∀ item ∈ items, Proper item)
    (htext : text.toList = '[' :: '\n' :: (List.intercalate [',', '\n'] (items.map chars) ++
      ['\n', ']', '\n'])) :
    ofText? text = some (.array items) := by
  have hgap : ∀ c ∈ ['\n'], isWhite c = true := List.forall_mem_singleton.mpr rfl
  have hfuel : 2 * (List.intercalate [',', '\n'] (items.map chars)).length + 2 ≤
      2 * text.toList.length + 2 := by
    rw [htext]
    simp
    omega
  have hread : readValue? (2 * text.toList.length + 2) text.toList =
      some (.array items, ['\n']) := by
    rw [htext] at hfuel ⊢
    exact readValue?_array hgap hitems hproper (fun item h => (hproper item h).reads) hfuel
  rw [ofText?, hread]
  rfl

end RecordRecipe.JsonValue
