import RecordRecipe.Expr.Program
import Mathlib.Data.List.TakeDrop

/-!
# Reading a path of two names

A definition that is a single value tag around two names with a point between them is the
expression that takes the field of the second name out of the variable of the first. This is
`Program.ofText_path`. It follows the definition through the reader: first its characters to tokens,
then its tokens through the levels of the grammar, on each of which nothing is left to be read.
-/

namespace RecordRecipe.Expr

/-! ## Names -/

/-- A text that reads as a name inside a tag. -/
structure IsName (text : String) : Prop where
  start : text.toList.head?.any isNameStart = true
  chars : text.toList.all isNameChar = true

/-- The words that stand for something else than a variable where an expression begins. -/
def reservedWords : List String :=
  ["true", "True", "false", "False", "none", "None", "not"]

variable {c : Char}

/-- Where a name begins no character stands that begins no name. -/
theorem ne_of_isNameStart {other : Char} (h : isNameStart c = true)
    (hother : isNameStart other = false) : c ≠ other := by
  rintro rfl
  rw [h] at hother
  cases hother

/-- Where the letters lie among the characters. -/
theorem isAlpha_range (h : c.isAlpha = true) :
    (65 ≤ c.toNat ∧ c.toNat ≤ 90) ∨ (97 ≤ c.toNat ∧ c.toNat ≤ 122) := by
  have hletter : (decide (65 ≤ c.val ∧ c.val ≤ 90) ||
      decide (97 ≤ c.val) && decide (c.val ≤ 122)) = true := h
  simp only [Bool.or_eq_true, Bool.and_eq_true, decide_eq_true_eq,
    UInt32.le_iff_toNat_le] at hletter
  exact hletter

/-- Where the digits lie. -/
theorem isDigit_iff : c.isDigit = true ↔ 48 ≤ c.toNat ∧ c.toNat ≤ 57 := by
  show (decide (48 ≤ c.val) && decide (c.val ≤ 57)) = true ↔ _
  simp only [Bool.and_eq_true, decide_eq_true_eq, UInt32.le_iff_toNat_le]
  exact Iff.rfl

/-- No name begins with a digit. -/
theorem not_isDigit_of_isNameStart (h : isNameStart c = true) : c.isDigit = false := by
  by_cases hline : c = '_'
  · subst hline
    rfl
  · have halpha : c.isAlpha = true := by simpa [isNameStart, hline] using h
    have hrange := isAlpha_range halpha
    rw [← Bool.not_eq_true, isDigit_iff]
    omega

/-- A name is no sign and no end of a tag. -/
theorem closing?_of_isNameStart (h : isNameStart c = true) (rest : List Char) :
    closing? .statement (c :: rest) = none := by
  have htrim : trimSign (c :: rest) = (false, c :: rest) := by
    unfold trimSign
    split
    next heq => exact absurd (List.cons.inj heq).1 (ne_of_isNameStart h rfl)
    next heq => exact absurd (List.cons.inj heq).1 (ne_of_isNameStart h rfl)
    next => rfl
  have hpercent : '%' ≠ c := (ne_of_isNameStart h rfl).symm
  unfold closing?
  rw [htrim]
  simp [after?, Tag.closing, List.isPrefixOf, hpercent]

/-- A name is no operator of two characters. -/
theorem doubleSymbol?_of_isNameStart (h : isNameStart c = true) (rest : List Char) :
    doubleSymbol? (c :: rest) = none := by
  unfold doubleSymbol?
  split
  case h_7 => rfl
  all_goals
    next heq => exact absurd (List.cons.inj heq).1 (ne_of_isNameStart h rfl)

/-- A name is no operator of one character. -/
theorem singleSymbol?_of_isNameStart (h : isNameStart c = true) : singleSymbol? c = none := by
  unfold singleSymbol?
  split
  case h_20 => rfl
  all_goals exact absurd rfl (ne_of_isNameStart h rfl)

/-- The characters of a name, up to one that belongs to no name, are one token. -/
theorem innerToken_name {name rest : List Char} (hstart : name.head?.any isNameStart = true)
    (hchars : name.all isNameChar = true) (hrest : ∀ c ∈ rest.head?, isNameChar c = false) :
    innerToken (name ++ rest) = .ok (.word (String.ofList name), rest) := by
  cases name with
  | nil => cases hstart
  | cons c chars =>
      have hc : isNameStart c = true := hstart
      have htake : ((c :: chars) ++ rest).takeWhile isNameChar = c :: chars := by
        rw [List.takeWhile_append_of_pos (by simpa using hchars)]
        cases rest with
        | nil => simp
        | cons d rest => simp [hrest d rfl]
      have hdrop : ((c :: chars) ++ rest).dropWhile isNameChar = rest := by
        rw [List.dropWhile_append_of_pos (by simpa using hchars)]
        cases rest with
        | nil => rfl
        | cons d rest => simp [hrest d rfl]
      rw [List.cons_append] at htake hdrop ⊢
      unfold innerToken
      rw [doubleSymbol?_of_isNameStart hc]
      have hquote : c ≠ '\x27' := ne_of_isNameStart hc rfl
      have hdouble : c ≠ '\x22' := ne_of_isNameStart hc rfl
      simp [hquote, hdouble, not_isDigit_of_isNameStart hc, singleSymbol?_of_isNameStart hc, hc,
        htake, hdrop]

/-- Inside a statement a name is read as a word. -/
theorem lex_name {name rest : List Char} (hstart : name.head?.any isNameStart = true)
    (hchars : name.all isNameChar = true) (hrest : ∀ c ∈ rest.head?, isNameChar c = false)
    (fuel : Nat) (nesting : Int) :
    lex (fuel + 1) (.inside .statement nesting) (name ++ rest) =
      (lex fuel (.inside .statement nesting) rest).cons (.word (String.ofList name)) := by
  have htoken := innerToken_name hstart hchars hrest
  cases name with
  | nil => cases hstart
  | cons c chars =>
      have hc : isNameStart c = true := hstart
      have hblank : isTagBlank c = false := by
        have hne (blank : Char) (hother : isNameStart blank = false) : c ≠ blank :=
          ne_of_isNameStart hc hother
        simp [isTagBlank, hne ' ' rfl, hne '\t' rfl, hne '\n' rfl, hne '\r' rfl, hne '\x0c' rfl]
      rw [List.cons_append] at htoken ⊢
      rw [lex, hblank, closing?_of_isNameStart hc, htoken]
      simp

/-- A text that ends with something else than a line break is read to its end. -/
theorem withoutLastBreak_append_singleton (text : List Char) {last : Char} (hline : last ≠ '\n')
    (hreturn : last ≠ '\r') : Text.withoutLastBreak (text ++ [last]) = text ++ [last] := by
  simp [Text.withoutLastBreak, hline, hreturn]

/-- The tokens of the template that sets the result to something in parentheses. -/
def resultTokens (value : List Token) : List Token :=
  .statementStart :: .word "set" :: .word resultName :: .symbol .assign :: .symbol .parenOpen :: value

/-- The template that stands for a value tag has these tokens. -/
theorem Lexed.ofText_result {inner : String} {value : List Token}
    (h : lex (inner.toList.length + 14) (.inside .statement 1) (inner.toList ++ ") %>".toList) =
      ⟨value, none⟩) :
    Lexed.ofText (resultTemplate inner) = ⟨resultTokens value, none⟩ := by
  have hchars : (resultTemplate inner).toList =
      "<% set __value = (".toList ++ (inner.toList ++ ") %>".toList) := by
    simp [resultTemplate, resultName]
  have hbreak : Text.withoutLastBreak
      ("<% set __value = (".toList ++ (inner.toList ++ ") %>".toList)) =
        "<% set __value = (".toList ++ (inner.toList ++ ") %>".toList) := by
    have hlast : "<% set __value = (".toList ++ (inner.toList ++ ") %>".toList) =
        ("<% set __value = (".toList ++ (inner.toList ++ ") %".toList)) ++ ['>'] := by
      simp
    rw [hlast]
    exact withoutLastBreak_append_singleton _ (by decide) (by decide)
  have hfuel : ("<% set __value = (".toList ++ (inner.toList ++ ") %>".toList)).length + 1 =
      inner.toList.length + 14 + 9 := by
    rw [List.length_append, List.length_append]
    show 18 + (_ + 4) + 1 = _
    omega
  -- The tag and the parenthesis are read as they stand.
  have hopening (fuel : Nat) (rest : List Char) :
      lex (fuel + 9) .outside ("<% set __value = (".toList ++ rest) =
        (((((lex fuel (.inside .statement 1) rest).cons (.symbol .parenOpen)).cons
          (.symbol .assign)).cons (.word "__value")).cons (.word "set")).cons .statementStart := rfl
  unfold Lexed.ofText
  rw [hchars]
  show lex (_ + 1) .outside (Text.withoutLastBreak _) = _
  rw [hbreak, hfuel, hopening, h]
  rfl

/-- Behind a value the statement is closed. -/
theorem lex_resultEnd (fuel : Nat) : lex (fuel + 4) (.inside .statement 1) ") %>".toList =
    ⟨[.symbol .parenClose, .statementEnd], none⟩ := rfl

/-- The template that stands for a name has the name as its value. -/
theorem Lexed.ofText_name {name : String} (h : IsName name) :
    Lexed.ofText (resultTemplate name) =
      ⟨resultTokens [.word name, .symbol .parenClose, .statementEnd], none⟩ := by
  refine Lexed.ofText_result ?_
  have hfuel : name.toList.length + 14 = name.toList.length + 9 + 4 + 1 := by omega
  rw [hfuel, lex_name h.start h.chars (by rintro _ ⟨⟩; rfl), lex_resultEnd, String.ofList_toList]
  rfl

/-- The template that stands for a path of two names has the path as its value. -/
theorem Lexed.ofText_path {object field : String} (hobject : IsName object)
    (hfield : IsName field) :
    Lexed.ofText (resultTemplate (object ++ "." ++ field)) =
      ⟨resultTokens [.word object, .symbol .dot, .word field, .symbol .parenClose, .statementEnd],
        none⟩ := by
  refine Lexed.ofText_result ?_
  have hchars : (object ++ "." ++ field).toList ++ ") %>".toList =
      object.toList ++ '.' :: (field.toList ++ ") %>".toList) := by
    simp
  have hfuel : (object ++ "." ++ field).toList.length + 14 =
      (object.toList.length + field.toList.length + 8) + 4 + 1 + 1 + 1 := by
    have hlength : (object ++ "." ++ field).toList.length =
        object.toList.length + (field.toList.length + 1) := by
      simp
    omega
  have hpoint (fuel : Nat) (rest : List Char) :
      lex (fuel + 1) (.inside .statement 1) ('.' :: rest) =
        (lex fuel (.inside .statement 1) rest).cons (.symbol .dot) := rfl
  rw [hchars, hfuel, lex_name hobject.start hobject.chars (by rintro _ ⟨⟩; rfl), hpoint,
    lex_name hfield.start hfield.chars (by rintro _ ⟨⟩; rfl), lex_resultEnd, String.ofList_toList,
    String.ofList_toList]
  rfl

/-! ## Expressions -/

namespace Parse

variable {α β : Type} {reading after : Reading} {tokens rest : List Token} {term : Term}
  {depth : Nat}

/-- A sequence whose first part gives something goes on with its second part. -/
theorem bind_of_eq_ok {first : Parse α} {next : α → Parse β} {a : α}
    (h : first reading = .ok (a, after)) : (first >>= next) reading = next a after := by
  show (first reading >>= fun found => next found.1 found.2) = _
  rw [h]
  rfl

/-- Tokens that begin with one that ends an expression. -/
inductive EndHere : List Token → Prop where
  | parentheses (rest : List Token) : EndHere (.symbol .parenClose :: rest)
  | statement (rest : List Token) : EndHere (.statementEnd :: rest)

/-- The reader in front of some tokens and maybe a fault behind them. -/
def standing (tokens : List Token) (fault : Option Fault) (depth : Nat) : Reading :=
  { input := ⟨tokens, fault⟩, depth }

/-- The reader in front of some tokens, outside of macros and behind no block. -/
def readingOf (tokens : List Token) (depth : Nat) : Reading :=
  { input := ⟨tokens, none⟩, depth }

/-- At the end of an expression no operator is left to be read. -/
theorem operators_atEnd (h : EndHere rest) (fuel : Nat) (at_ : Level) (left : Term) :
    operators (fuel + 1) at_ left (readingOf rest depth) = .ok (left, readingOf rest depth) := by
  cases h with
  | parentheses => cases at_ <;> rfl
  | statement => cases at_ <;> rfl

/-- At the end of an expression no comparison is left to be read. -/
theorem links_atEnd (h : EndHere rest) (fuel : Nat) :
    links (fuel + 1) (readingOf rest depth) = .ok ([], readingOf rest depth) := by
  cases h with
  | parentheses => rfl
  | statement => rfl

/-- At the end of an expression no filter or test is left to be read. -/
theorem filters_atEnd (h : EndHere rest) (fuel : Nat) (operand : Term) :
    filters (fuel + 1) operand (readingOf rest depth) = .ok (operand, readingOf rest depth) := by
  cases h with
  | parentheses => rfl
  | statement => rfl

/-- At the end of an expression no attribute, subscript or call is left to be read. -/
theorem attachments_atEnd (h : EndHere rest) (fuel : Nat) (operand : Term) :
    attachments (fuel + 1) operand (readingOf rest depth) =
      .ok (operand, readingOf rest depth) := by
  cases h with
  | parentheses => rfl
  | statement => rfl

/-- At the end of an expression no condition is left to be read. -/
theorem conditions_atEnd (h : EndHere rest) (fuel : Nat) (holds : Term) :
    conditions (fuel + 1) holds (readingOf rest depth) = .ok (holds, readingOf rest depth) := by
  cases h with
  | parentheses => rfl
  | statement => rfl

/-- An operand behind which the expression ends is the whole expression: no level of the grammar
finds anything more to read. -/
theorem conditional_of_attached {fuel : Nat}
    (hattached : attached (fuel + 1) reading = .ok (term, readingOf rest depth))
    (hend : EndHere rest) (hnot : seesWord "not" reading = .ok (false, reading)) :
    conditional (fuel + 11) reading = .ok (term, readingOf rest depth) := by
  have hsigned : signed (fuel + 2) reading = .ok (term, readingOf rest depth) :=
    (bind_of_eq_ok hattached).trans (filters_atEnd hend _ term)
  have hpower : level (fuel + 3) .power reading = .ok (term, readingOf rest depth) :=
    (bind_of_eq_ok hsigned).trans (operators_atEnd hend _ .power term)
  have hproduct : level (fuel + 4) .product reading = .ok (term, readingOf rest depth) :=
    (bind_of_eq_ok hpower).trans (operators_atEnd hend _ .product term)
  have hjoin : level (fuel + 5) .join reading = .ok (term, readingOf rest depth) :=
    (bind_of_eq_ok hproduct).trans (operators_atEnd hend _ .join term)
  have hsum : level (fuel + 6) .sum reading = .ok (term, readingOf rest depth) :=
    (bind_of_eq_ok hjoin).trans (operators_atEnd hend _ .sum term)
  have hcomparison : level (fuel + 7) .comparison reading = .ok (term, readingOf rest depth) :=
    (bind_of_eq_ok hsum).trans (bind_of_eq_ok (links_atEnd hend _))
  have haccepts : acceptsWord "not" reading = .ok (false, reading) := bind_of_eq_ok hnot
  have hnegation : level (fuel + 8) .negation reading = .ok (term, readingOf rest depth) :=
    (bind_of_eq_ok haccepts).trans hcomparison
  have hboth : level (fuel + 9) .both reading = .ok (term, readingOf rest depth) :=
    (bind_of_eq_ok hnegation).trans (operators_atEnd hend _ .both term)
  have heither : level (fuel + 10) .either reading = .ok (term, readingOf rest depth) :=
    (bind_of_eq_ok hboth).trans (operators_atEnd hend _ .either term)
  exact (bind_of_eq_ok heither).trans (conditions_atEnd hend _ term)

/-- A construct that is not nested too deeply is read one level further down. -/
theorem nested_of_lt {construct : Parse α} {fault : Option Fault} (hdepth : depth < nestingLimit) :
    nested construct (standing tokens fault depth) =
      (construct >>= fun result => do
        modify ({ · with depth := depth })
        return result) (standing tokens fault (depth + 1)) := by
  unfold nested
  change (ite (nestingLimit ≤ depth) _ _ : Parse α) (standing tokens fault depth) = _
  rw [if_neg (by omega)]
  rfl

/-- A construct that is not nested too deeply is read as it stands. -/
theorem nested_of_eq_ok {construct : Parse α} {a : α} (hdepth : depth < nestingLimit)
    (h : construct (readingOf tokens (depth + 1)) = .ok (a, readingOf rest (depth + 1))) :
    nested construct (readingOf tokens depth) = .ok (a, readingOf rest depth) :=
  (nested_of_lt hdepth).trans (bind_of_eq_ok h)

/-- A word that is not reserved is a variable. -/
theorem primary_name {word : String} (hword : word ∉ reservedWords) (fuel : Nat)
    (rest : List Token) (depth : Nat) :
    primary (fuel + 1) (readingOf (.word word :: rest) depth) =
      .ok (.name word, readingOf rest depth) := by
  have hne (other : String) (hother : other ∈ reservedWords) : decide (word = other) = false := by
    rw [decide_eq_false_iff_not]
    rintro rfl
    exact hword hother
  show (ite ((decide (word = "true") || decide (word = "True")) = true) _ (ite _ _ (ite _ _ _)) :
    Parse Term) (readingOf rest depth) = _
  rw [hne "true" (by simp [reservedWords]), hne "True" (by simp [reservedWords]),
    hne "false" (by simp [reservedWords]), hne "False" (by simp [reservedWords]),
    hne "none" (by simp [reservedWords]), hne "None" (by simp [reservedWords])]
  rfl

/-- A word that is not reserved is an operand without a sign. -/
theorem sign_name {word : String} (hword : word ∉ reservedWords) (hdepth : depth < nestingLimit)
    (fuel : Nat) (rest : List Token) :
    sign (fuel + 2) (readingOf (.word word :: rest) depth) =
      .ok (.name word, readingOf rest depth) := by
  have hminus : accepts .minus (readingOf (.word word :: rest) depth) =
      .ok (false, readingOf (.word word :: rest) depth) := rfl
  exact (bind_of_eq_ok hminus).trans (nested_of_eq_ok hdepth (primary_name hword _ _ _))

/-- A word that is not reserved negates nothing. -/
theorem seesWord_not {word : String} (hword : word ∉ reservedWords) (rest : List Token) :
    seesWord "not" (readingOf (.word word :: rest) depth) =
      .ok (false, readingOf (.word word :: rest) depth) := by
  have hne : decide (word = "not") = false := by
    rw [decide_eq_false_iff_not]
    rintro rfl
    exact hword (by simp [reservedWords])
  show Except.ok (decide (word = "not"), _) = _
  rw [hne]

/-- A name behind which an expression ends is an expression. -/
theorem expression_name {name : String} (hname : name ∉ reservedWords) (hend : EndHere rest)
    (hdepth : depth + 1 < nestingLimit) (fuel : Nat) :
    expression (fuel + 15) (readingOf (.word name :: rest) depth) =
      .ok (.name name, readingOf rest depth) := by
  have hattached : attached (fuel + 4) (readingOf (.word name :: rest) (depth + 1)) =
      .ok (.name name, readingOf rest (depth + 1)) :=
    (bind_of_eq_ok (sign_name hname hdepth (fuel + 1) rest)).trans (attachments_atEnd hend _ _)
  exact nested_of_eq_ok (by omega) (conditional_of_attached hattached hend (seesWord_not hname rest))

/-- Two names with a point between them, behind which an expression ends, are an expression. -/
theorem expression_path {object field : String} (hobject : object ∉ reservedWords)
    (hend : EndHere rest) (hdepth : depth + 1 < nestingLimit)
    (fuel : Nat) :
    expression (fuel + 15)
      (readingOf (.word object :: .symbol .dot :: .word field :: rest) depth) =
        .ok (.field (.name object) field, readingOf rest depth) := by
  have hsign := sign_name hobject hdepth (fuel + 1) (.symbol .dot :: .word field :: rest)
  have hfield : attachments (fuel + 3) (.name object)
      (readingOf (.symbol .dot :: .word field :: rest) (depth + 1)) =
        attachments (fuel + 2) (.field (.name object) field) (readingOf rest (depth + 1)) := rfl
  have hattached : attached (fuel + 4)
      (readingOf (.word object :: .symbol .dot :: .word field :: rest) (depth + 1)) =
        .ok (.field (.name object) field, readingOf rest (depth + 1)) :=
    (bind_of_eq_ok hsign).trans (hfield.trans (attachments_atEnd hend _ _))
  exact nested_of_eq_ok (by omega) (conditional_of_attached hattached hend (seesWord_not hobject _))

/-- What is in parentheses, behind which the expression around it ends, is an expression. -/
theorem expression_tuple {fuel : Nat} (hend : EndHere rest) (hdepth : depth + 1 < nestingLimit)
    (htuple : tuple (fuel + 2) (readingOf tokens (depth + 2)) =
      .ok (term, readingOf rest (depth + 2))) :
    expression (fuel + 16) (readingOf (.symbol .parenOpen :: tokens) depth) =
      .ok (term, readingOf rest depth) := by
  have hprimary : primary (fuel + 3) (readingOf (.symbol .parenOpen :: tokens) (depth + 2)) =
      tuple (fuel + 2) (readingOf tokens (depth + 2)) := rfl
  have hminus : accepts .minus (readingOf (.symbol .parenOpen :: tokens) (depth + 1)) =
      .ok (false, readingOf (.symbol .parenOpen :: tokens) (depth + 1)) := rfl
  have hsign : sign (fuel + 4) (readingOf (.symbol .parenOpen :: tokens) (depth + 1)) =
      .ok (term, readingOf rest (depth + 1)) :=
    (bind_of_eq_ok hminus).trans (nested_of_eq_ok hdepth (hprimary.trans htuple))
  have hattached : attached (fuel + 5) (readingOf (.symbol .parenOpen :: tokens) (depth + 1)) =
      .ok (term, readingOf rest (depth + 1)) :=
    (bind_of_eq_ok hsign).trans (attachments_atEnd hend _ _)
  exact nested_of_eq_ok (by omega) (conditional_of_attached hattached hend rfl)

/-- An expression in parentheses, behind which the expression around it ends, is an expression. -/
theorem expression_parentheses {fuel : Nat} (hend : EndHere rest)
    (hdepth : depth + 1 < nestingLimit)
    (hfirst : accepts .parenClose (readingOf tokens (depth + 2)) =
      .ok (false, readingOf tokens (depth + 2)))
    (hinner : expression (fuel + 1) (readingOf tokens (depth + 2)) =
      .ok (term, readingOf (.symbol .parenClose :: rest) (depth + 2))) :
    expression (fuel + 16) (readingOf (.symbol .parenOpen :: tokens) depth) =
      .ok (term, readingOf rest depth) := by
  have hcomma : sees .comma (readingOf (.symbol .parenClose :: rest) (depth + 2)) =
      .ok (false, readingOf (.symbol .parenClose :: rest) (depth + 2)) := rfl
  have hclosed : expect .parenClose ")" (readingOf (.symbol .parenClose :: rest) (depth + 2)) =
      .ok ((), readingOf rest (depth + 2)) := rfl
  exact expression_tuple hend hdepth ((bind_of_eq_ok hfirst).trans ((bind_of_eq_ok hinner).trans
    ((bind_of_eq_ok hcomma).trans (bind_of_eq_ok hclosed))))

/-- The statement that sets the value of a tag. -/
theorem statement_set {fuel : Nat}
    (hvalue : expression (fuel + 2) (readingOf tokens depth) =
      .ok (term, readingOf [.statementEnd] depth)) :
    statement (fuel + 3) "set"
      (readingOf (.word resultName :: .symbol .assign :: tokens) depth) =
        .ok (.set (.name resultName) term, readingOf [.statementEnd] depth) := by
  have hassigned : statement (fuel + 3) "set"
      (readingOf (.word resultName :: .symbol .assign :: tokens) depth) =
        (setValue (fuel + 2) >>= fun value => return .set (.name resultName) value)
          (readingOf tokens depth) := rfl
  have hcomma : sees .comma (readingOf [.statementEnd] depth) =
      .ok (false, readingOf [.statementEnd] depth) := rfl
  have hset : setValue (fuel + 2) (readingOf tokens depth) =
      .ok (term, readingOf [.statementEnd] depth) :=
    (bind_of_eq_ok hvalue).trans (bind_of_eq_ok hcomma)
  rw [hassigned, bind_of_eq_ok hset]
  rfl

/-- A template of one statement. -/
theorem body_statement {fuel : Nat} {word : String} {statement : Statement}
    (hstatement : Parse.statement (fuel + 1) word (readingOf tokens 1) =
      .ok (statement, readingOf [.statementEnd] 1)) :
    body (fuel + 2) [] (readingOf (.statementStart :: .word word :: tokens) 0) =
      .ok ([statement], readingOf [] 0) := by
  have hnested : nested (Parse.statement (fuel + 1) word) (readingOf tokens 0) =
      .ok (statement, readingOf [.statementEnd] 0) :=
    nested_of_eq_ok (by decide) hstatement
  have hbody : body (fuel + 2) [] (readingOf (.statementStart :: .word word :: tokens) 0) =
      (nested (Parse.statement (fuel + 1) word) >>= fun first => do
        statementEnd
        let rest ← body (fuel + 1) []
        return first :: rest) (readingOf tokens 0) := rfl
  rw [hbody, bind_of_eq_ok hnested]
  rfl

end Parse

/-- The template that stands for a value tag sets the value of the expression in it. -/
theorem Statement.ofText_result {inner : String} {tokens : List Token} {term : Term}
    (hlexed : Lexed.ofText (resultTemplate inner) = ⟨resultTokens tokens, none⟩)
    (hfirst : Parse.accepts .parenClose (Parse.readingOf tokens 3) =
      .ok (false, Parse.readingOf tokens 3))
    (hvalue : ∀ fuel, Parse.expression (fuel + 15) (Parse.readingOf tokens 3) =
      .ok (term, Parse.readingOf [.symbol .parenClose, .statementEnd] 3)) :
    Statement.ofText (resultTemplate inner) = .ok [.set (.name resultName) term] := by
  have hbody (fuel : Nat) : Parse.body (fuel + 32) [] (Parse.readingOf (resultTokens tokens) 0) =
      .ok ([.set (.name resultName) term], Parse.readingOf [] 0) := by
    have hparentheses : Parse.expression (fuel + 30)
        (Parse.readingOf (.symbol .parenOpen :: tokens) 1) =
          .ok (term, Parse.readingOf [.statementEnd] 1) :=
      Parse.expression_parentheses (.statement _) (by decide) hfirst (hvalue fuel)
    exact Parse.body_statement (Parse.statement_set hparentheses)
  have hfuel : 32 * ((resultTokens tokens).length + 2) = 32 * (tokens.length + 6) + 32 := by
    have hlength : (resultTokens tokens).length = tokens.length + 5 := rfl
    omega
  unfold Statement.ofText
  rw [hlexed]
  show Prod.fst <$> Parse.body (32 * ((resultTokens tokens).length + 2)) []
    (Parse.readingOf (resultTokens tokens) 0) = _
  rw [hfuel, hbody]
  rfl

/-- The template that stands for a name sets its value. -/
theorem Statement.ofText_name {name : String} (h : IsName name) (hreserved : name ∉ reservedWords) :
    Statement.ofText (resultTemplate name) = .ok [.set (.name resultName) (.name name)] :=
  Statement.ofText_result (Lexed.ofText_name h) rfl
    (Parse.expression_name hreserved (.parentheses _) (by decide))

/-- The template that stands for a path of two names sets its value. -/
theorem Statement.ofText_path {object field : String} (hobject : IsName object)
    (hreserved : object ∉ reservedWords) (hfield : IsName field) :
    Statement.ofText (resultTemplate (object ++ "." ++ field)) =
      .ok [.set (.name resultName) (.field (.name object) field)] :=
  Statement.ofText_result (Lexed.ofText_path hobject hfield) rfl
    (Parse.expression_path hreserved (.parentheses _) (by decide))

/-! ## Definitions -/

/-- The definition that is a single value tag around a path of two names. -/
def pathDefinition (object field : String) : String :=
  "<<" ++ object ++ "." ++ field ++ ">>"

variable {object field : String}

theorem toList_path : (object ++ "." ++ field).toList = object.toList ++ '.' :: field.toList := by
  simp

theorem toList_pathDefinition : (pathDefinition object field).toList =
    '<' :: '<' :: ((object ++ "." ++ field).toList ++ ['>', '>']) := by
  simp [pathDefinition]

/-- Between the names of a path stands a point. -/
theorem isNameChar_or_of_mem_path (hobject : IsName object) (hfield : IsName field) :
    ∀ c ∈ (object ++ "." ++ field).toList, isNameChar c = true ∨ c = '.' := by
  intro c hc
  rw [toList_path, List.mem_append, List.mem_cons] at hc
  rcases hc with hc | hpoint | hc
  · exact .inl (List.all_eq_true.mp hobject.chars c hc)
  · exact .inr hpoint
  · exact .inl (List.all_eq_true.mp hfield.chars c hc)

/-- A pattern does not occur where its first character does not. -/
theorem occursIn_of_not_mem {first : Char} {pattern text : List Char} (h : first ∉ text) :
    Text.occursIn (first :: pattern) text = false := by
  induction text with
  | nil => rfl
  | cons c rest ih =>
      have hne : first ≠ c := fun heq => h (by simp [heq])
      have hrest : first ∉ rest := fun hmem => h (List.mem_cons_of_mem _ hmem)
      simp [Text.occursIn, List.isPrefixOf, hne, ih hrest]

/-- What stands inside a tag is the whole text between its delimiters. -/
theorem singleTag?_tag {inner : String} (hopening : '<' ∉ inner.toList)
    (hclosing : '>' ∉ inner.toList) : singleTag? ("<<" ++ inner ++ ">>") = some inner := by
  have hchars : ("<<" ++ inner ++ ">>").toList = '<' :: '<' :: (inner.toList ++ ['>', '>']) := by
    simp
  have hbehind : after? Tag.value.opening ("<<" ++ inner ++ ">>").toList =
      some (inner.toList ++ ['>', '>']) := by
    rw [hchars]
    rfl
  have hreversed : after? Tag.value.closing (inner.toList ++ ['>', '>']).reverse =
      some inner.toList.reverse := by
    rw [List.reverse_append]
    rfl
  unfold singleTag?
  simp only [hbehind, hreversed, Option.bind_eq_bind, Option.bind_some, List.reverse_reverse,
    occursIn_of_not_mem hopening, occursIn_of_not_mem hclosing, String.ofList_toList]
  rfl

/-- A tag is the expression that its template sets the result to. -/
theorem Program.ofText_tag {inner : String} (hopening : '<' ∉ inner.toList)
    (hclosing : '>' ∉ inner.toList) {body : List Statement}
    (h : Statement.ofText (resultTemplate inner) = .ok body) :
    Program.ofText ("<<" ++ inner ++ ">>") = .ok (.expression body) := by
  have htags : hasTags ("<<" ++ inner ++ ">>") = true := by
    have hcontains : Text.contains ("<<" ++ inner ++ ">>") "<<" = true := by
      simp [Text.contains, Text.occursIn, List.isPrefixOf]
    unfold hasTags
    rw [hcontains, Bool.true_or]
  unfold Program.ofText
  rw [htags, singleTag?_tag hopening hclosing]
  show (Statement.ofText (resultTemplate inner)).map Program.expression = _
  rw [h]
  rfl

/-- A tag around a path of two names is that expression. -/
theorem Program.ofText_path (hobject : IsName object)
    (hreserved : object ∉ reservedWords) (hfield : IsName field) :
    Program.ofText (pathDefinition object field) =
      .ok (.expression [.set (.name resultName) (.field (.name object) field)]) := by
  have hinside := isNameChar_or_of_mem_path hobject hfield
  have hopening : '<' ∉ (object ++ "." ++ field).toList := by
    intro hc
    rcases hinside '<' hc with h | h <;> exact absurd h (by decide)
  have hclosing : '>' ∉ (object ++ "." ++ field).toList := by
    intro hc
    rcases hinside '>' hc with h | h <;> exact absurd h (by decide)
  have htag : pathDefinition object field = "<<" ++ (object ++ "." ++ field) ++ ">>" := by
    simp [pathDefinition, String.append_assoc]
  rw [htag]
  exact Program.ofText_tag hopening hclosing (Statement.ofText_path hobject hreserved hfield)

/-- The definition that is a single value tag around a name. -/
def nameDefinition (name : String) : String := "<<" ++ name ++ ">>"

/-- A tag around a name is that variable. -/
theorem Program.ofText_name {name : String} (h : IsName name) (hreserved : name ∉ reservedWords) :
    Program.ofText (nameDefinition name) = .ok (.expression [.set (.name resultName) (.name name)]) := by
  have hinside (c : Char) (hc : isNameChar c = false) : c ∉ name.toList := fun hmem => by
    rw [List.all_eq_true.mp h.chars c hmem] at hc
    cases hc
  exact Program.ofText_tag (hinside '<' (by decide)) (hinside '>' (by decide))
    (Statement.ofText_name h hreserved)

end RecordRecipe.Expr
