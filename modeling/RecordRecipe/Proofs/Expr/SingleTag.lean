import RecordRecipe.Proofs.Expr.Tokens
import RecordRecipe.Proofs.Expr.Parentheses
import Mathlib.Data.List.Basic

/-!
# Definitions that are a single value tag

A definition that is one value tag keeps the type of its value: it is not read as a template, but
the text in the tag is put between the parentheses of a statement that sets the result, and this
statement is read. The two readings differ in what they allow: parentheses may hold a tuple or
nothing, a sign next to a delimiter of the tag belongs to the delimiter, and a text that closes the
parenthesis and the statement itself takes the rest of its statement out of it.

`Program.ofText_singleTag` says which texts each of the readings accepts. It puts together
* the tokens of a tag (`Lexed.ofText_tag`) and of the statement that stands for it
  (`Lexed.ofText_resultTemplate`), which are those of the text in the tag between others;
* `Statement.ofText_tag`: the tag is a template if and only if the text is an expression;
* `Statement.ofText_resultTemplate`: if the text closes its own brackets, the statement is read if
  and only if the text may stand in parentheses.
-/

namespace RecordRecipe.Expr

/-! ## The characters of a tag -/

section

variable {definition inner : String} {text beginning rest part : List Char}

theorem eq_append_of_after? (h : after? beginning text = some rest) : text = beginning ++ rest := by
  unfold after? at h
  split at h
  next heq =>
    obtain ⟨behind, rfl⟩ := List.isPrefixOf_iff_prefix.mp heq
    rw [List.drop_left] at h
    rw [Option.some.inj h]
  next => cases h

/-- A single value tag consists of its delimiters and what stands between them, which has no closing
delimiter in it. -/
theorem toList_of_singleTag? (h : singleTag? definition = some inner) :
    definition.toList = '<' :: '<' :: (inner.toList ++ ['>', '>']) ∧
      Text.occursIn ['>', '>'] inner.toList = false := by
  unfold singleTag? at h
  obtain ⟨behind, hbehind, h⟩ := Option.bind_eq_some_iff.mp h
  obtain ⟨reversed, hreversed, h⟩ := Option.bind_eq_some_iff.mp h
  dsimp only at h
  split at h
  next => cases h
  next hfree =>
    obtain rfl := Option.some.inj h
    rw [Bool.or_eq_true, Bool.or_eq_true, not_or, not_or, Bool.not_eq_true,
      Bool.not_eq_true] at hfree
    rw [String.toList_ofList]
    refine ⟨?_, hfree.1.2⟩
    have hback := congrArg List.reverse (eq_append_of_after? hreversed)
    rw [List.reverse_reverse, List.reverse_append] at hback
    rw [eq_append_of_after? hbehind, hback]
    rfl

/-- A pattern that does not occur in a text does not occur in a part of it. -/
theorem occursIn_of_suffix {pattern : List Char} (h : Text.occursIn pattern text = false)
    (hpart : part <:+ text) : Text.occursIn pattern part = false := by
  obtain ⟨before, rfl⟩ := hpart
  induction before with
  | nil => exact h
  | cons c before ih =>
      rw [List.cons_append, Text.occursIn, Bool.or_eq_false_iff] at h
      exact ih h.2

/-- The last character does not belong to the end of a tag: it is neither a sign nor a part of the
closing delimiter. -/
def EndsPlain (text : List Char) : Prop :=
  ∀ c ∈ text.getLast?, c ≠ '-' ∧ c ≠ '+' ∧ c ≠ '>'

theorem EndsPlain.of_suffix (h : EndsPlain text) (hpart : part <:+ text) : EndsPlain part := by
  intro c hc
  obtain ⟨before, rfl⟩ := hpart
  refine h c ?_
  rw [Option.mem_def] at hc ⊢
  rw [List.getLast?_append, hc]
  rfl

/-- A text without a closing delimiter in it does not begin the end of a value tag. -/
theorem after?_value (hfree : Text.occursIn ['>', '>'] text = false) (hplain : EndsPlain text)
    (htext : text ≠ []) : after? ['>', '>'] (text ++ ['>', '>']) = none := by
  unfold after?
  refine if_neg ?_
  intro hbegins
  match text with
  | [] => exact htext rfl
  | [c] =>
      rw [List.cons_append, List.isPrefixOf, Bool.and_eq_true, beq_iff_eq] at hbegins
      exact (hplain c rfl).2.2 hbegins.1.symm
  | c :: d :: rest =>
      rw [Text.occursIn, Bool.or_eq_false_iff] at hfree
      simp only [List.cons_append, List.isPrefixOf, Bool.and_true] at hbegins hfree
      exact Bool.noConfusion (hbegins.symm.trans hfree.1)

/-- A sign next to a delimiter does not belong to the text behind it. -/
theorem trimSign_cases (text : List Char) :
    (trimSign text).2 = text ∨
      ∃ sign, text = sign :: (trimSign text).2 ∧ (sign = '-' ∨ sign = '+') := by
  unfold trimSign
  split
  next => exact .inr ⟨'-', rfl, .inl rfl⟩
  next => exact .inr ⟨'+', rfl, .inr rfl⟩
  next => exact .inl rfl

theorem trimSign_suffix (text : List Char) : (trimSign text).2 <:+ text := by
  obtain hsame | ⟨sign, hsign, -⟩ := trimSign_cases text
  · exact ⟨[], hsame⟩
  · exact ⟨[sign], hsign.symm⟩

/-- The end of a tag has no sign in front of it but for the last character before it. -/
theorem trimSign_append (text : List Char) :
    (trimSign (text ++ ['>', '>'])).2 = (trimSign text).2 ++ ['>', '>'] := by
  cases text with
  | nil => rfl
  | cons c text =>
      rw [List.cons_append]
      unfold trimSign
      split <;> simp_all

/-- A text without a closing delimiter in it does not begin the end of a value tag, a sign before it
included. -/
theorem closing?_value (hfree : Text.occursIn ['>', '>'] text = false) (hplain : EndsPlain text)
    (htext : text ≠ []) : closing? .value (text ++ ['>', '>']) = none := by
  have hpart := trimSign_suffix text
  have hrest : (trimSign text).2 ≠ [] := by
    intro hnil
    obtain hsame | ⟨sign, hsign, hor⟩ := trimSign_cases text
    · exact htext (hsame.symm.trans hnil)
    · rw [hnil] at hsign
      subst hsign
      obtain ⟨hminus, hplus, -⟩ := hplain sign rfl
      exact hor.elim hminus hplus
  have hnone := after?_value (occursIn_of_suffix hfree hpart) (hplain.of_suffix hpart) hrest
  unfold closing?
  show (after? ['>', '>'] (trimSign (text ++ ['>', '>'])).2).map _ = none
  rw [trimSign_append, hnone]
  rfl

end

/-! ## The tokens of a tag and of the statement that stands for it -/

section

variable {definition inner : String}

/-- A text that ends in the end of a tag has no line break there. -/
theorem withoutLastBreak_of_getLast? {text : List Char} (h : text.getLast? = some '>') :
    Text.withoutLastBreak text = text := by
  obtain ⟨start, rfl⟩ := List.getLast?_eq_some_iff.mp h
  exact withoutLastBreak_append_singleton start (by decide) (by decide)

/-- Where brackets are open the end of a value tag is two operators. -/
theorem lex_valueEnd_of_ne {nesting : Int} (h : nesting ≠ 0) (fuel : Nat) :
    lex (fuel + 3) (.inside .value nesting) ['>', '>'] =
      ⟨[.symbol .greater, .symbol .greater], none⟩ := by
  have hopen {rest : List Char} : nesting + 0 = 0 → closing? .value rest = none := by
    intro hzero
    rw [Int.add_zero] at hzero
    exact absurd hzero h
  rw [← Int.add_zero nesting] at h ⊢
  rw [lex_token rfl (fun hzero => absurd hzero h) rfl]
  show ((lex (fuel + 2) (.inside .value (nesting + 0 + 0)) ['>']).cons _) = _
  rw [Int.add_zero, lex_token rfl (fun hzero => absurd hzero h) rfl]
  rfl

/-- The tokens of a value tag are those of what stands in it and, if they leave no bracket open, the
end of the tag. -/
theorem Lexed.ofText_tag (h : singleTag? definition = some inner)
    (hplain : EndsPlain inner.toList) :
    ∃ last, Lexed.ofText definition =
        ((Lexed.within (trimSign inner.toList).2).andThen ⟨last, none⟩).cons .valueStart ∧
      ((Lexed.within (trimSign inner.toList).2).nesting = 0 → last = [.valueEnd]) ∧
      ((Lexed.within (trimSign inner.toList).2).nesting ≠ 0 → .valueEnd ∉ last) := by
  obtain ⟨hchars, hfree⟩ := toList_of_singleTag? h
  have hpart := trimSign_suffix inner.toList
  have hwhole : Text.withoutLastBreak ('<' :: '<' :: (inner.toList ++ ['>', '>'])) =
      '<' :: '<' :: (inner.toList ++ ['>', '>']) :=
    withoutLastBreak_of_getLast? (by simp [List.getLast?_cons])
  have hstart : Lexed.ofText definition =
      (lex ((inner.toList ++ ['>', '>']).length + 2) (.inside .value 0)
        ((trimSign inner.toList).2 ++ ['>', '>'])).cons .valueStart := by
    unfold Lexed.ofText
    rw [hchars, hwhole, ← trimSign_append]
    rfl
  generalize (trimSign inner.toList).2 = trimmed at hpart hstart ⊢
  have hlength := hpart.length_le
  have hfuel : (trimmed ++ ['>', '>']).length < (inner.toList ++ ['>', '>']).length + 2 := by
    rw [List.length_append, List.length_append]
    omega
  have hopen : StaysOpen .value 0 ['>', '>'] trimmed (Lexed.within trimmed).tokens :=
    .inl fun part hpart' => closing?_value (occursIn_of_suffix hfree (hpart'.trans hpart))
      (hplain.of_suffix (hpart'.trans hpart))
  obtain ⟨more, hmore, hlex⟩ := lex_within stops_value hfuel hopen
  obtain ⟨more, rfl⟩ : ∃ less, more = less + 3 := ⟨more - 3, (Nat.sub_add_cancel hmore).symm⟩
  rw [hstart, hlex]
  rw [Int.zero_add]
  by_cases hnesting : (Lexed.within trimmed).nesting = 0
  · rw [hnesting]
    exact ⟨[.valueEnd], rfl, fun _ => rfl, fun hne => absurd rfl hne⟩
  · rw [lex_valueEnd_of_ne hnesting]
    exact ⟨_, rfl, fun hzero => absurd hzero hnesting, fun _ => by simp⟩

/-- The tokens of a statement that sets the value of a tag, in front of those of the value. -/
def setting (value : List Token) : List Token :=
  .statementStart :: .word "set" :: .word resultName :: .symbol .assign :: value

/-- Where no more brackets are open the statement ends behind the parenthesis. -/
theorem lex_statementEnd (fuel : Nat) : lex (fuel + 5) (.inside .statement 1) [')', ' ', '%', '>'] =
    ⟨[.symbol .parenClose, .statementEnd], none⟩ := rfl

/-- Where brackets are open around the parenthesis the end of the statement is two operators. -/
theorem lex_statementEnd_of_ne {nesting : Int} (h : nesting ≠ 0) (fuel : Nat) :
    lex (fuel + 5) (.inside .statement (nesting + 1)) [')', ' ', '%', '>'] =
      ⟨[.symbol .parenClose, .symbol .percent, .symbol .greater], none⟩ := by
  have hclose : lex (fuel + 5) (.inside .statement (nesting + 1)) [')', ' ', '%', '>'] =
      (lex (fuel + 4) (.inside .statement (nesting + 1 + -1)) [' ', '%', '>']).cons
        (.symbol .parenClose) := lex_token rfl (fun _ => rfl) rfl _
  have hpercent : lex (fuel + 3) (.inside .statement nesting) ['%', '>'] =
      (lex (fuel + 2) (.inside .statement (nesting + 0)) ['>']).cons (.symbol .percent) :=
    lex_token rfl (fun hzero => absurd hzero h) rfl _
  have hgreater : lex (fuel + 2) (.inside .statement nesting) ['>'] =
      (lex (fuel + 1) (.inside .statement (nesting + 0)) []).cons (.symbol .greater) :=
    lex_token rfl (fun hzero => absurd hzero h) rfl _
  rw [hclose, Int.add_neg_cancel_right, lex_blank rfl, hpercent, Int.add_zero, hgreater]
  rfl

/-- The tokens of the statement for a value tag are those of what stands in the tag, if this closes
no brackets that it does not open, and the end of the statement, if it leaves none open. -/
theorem Lexed.ofText_resultTemplate {after : Nat}
    (h : Brackets 0 after (Lexed.within inner.toList).tokens) :
    ∃ last, Lexed.ofText (resultTemplate inner) =
        ⟨setting (.symbol .parenOpen ::
            ((Lexed.within inner.toList).andThen ⟨last, none⟩).tokens),
          (Lexed.within inner.toList).fault⟩ ∧
      (after = 0 → last = [.symbol .parenClose, .statementEnd]) ∧
      (after ≠ 0 → last = [.symbol .parenClose, .symbol .percent, .symbol .greater]) := by
  have hchars : (resultTemplate inner).toList =
      "<% set __value = (".toList ++ (inner.toList ++ [')', ' ', '%', '>']) := by
    simp [resultTemplate, resultName]
  have hwhole : Text.withoutLastBreak
      ("<% set __value = (".toList ++ (inner.toList ++ [')', ' ', '%', '>'])) =
        "<% set __value = (".toList ++ (inner.toList ++ [')', ' ', '%', '>']) :=
    withoutLastBreak_of_getLast? (by simp [List.getLast?_cons])
  have hopening (fuel : Nat) (rest : List Char) :
      lex (fuel + 9) .outside ("<% set __value = (".toList ++ rest) =
        ⟨setting (.symbol .parenOpen :: (lex fuel (.inside .statement 1) rest).tokens),
          (lex fuel (.inside .statement 1) rest).fault⟩ := rfl
  have hlength :
      ("<% set __value = (".toList ++ (inner.toList ++ [')', ' ', '%', '>'])).length + 1 =
        inner.toList.length + 14 + 9 := by
    rw [List.length_append, List.length_append]
    show 18 + (_ + 4) + 1 = _
    omega
  have hfuel : (inner.toList ++ [')', ' ', '%', '>']).length < inner.toList.length + 14 := by
    rw [List.length_append]
    exact Nat.add_lt_add_left (by decide) _
  have hopen : StaysOpen .statement 1 [')', ' ', '%', '>'] inner.toList
      (Lexed.within inner.toList).tokens := .inr ⟨0, after, rfl, h⟩
  obtain ⟨more, hmore, hlex⟩ := lex_within stops_statement hfuel hopen
  obtain ⟨more, rfl⟩ : ∃ less, more = less + 5 := ⟨more - 5, (Nat.sub_add_cancel hmore).symm⟩
  have hnesting : (Lexed.within inner.toList).nesting = after := by
    have := h.nesting (Lexed.within inner.toList).fault
    rw [this]
    exact (Int.zero_add _).symm
  rw [hnesting, Int.add_comm] at hlex
  unfold Lexed.ofText
  rw [hchars]
  show ∃ last, lex (_ + 1) .outside (Text.withoutLastBreak _) = _ ∧ _
  rw [hwhole, hlength, hopening, hlex]
  by_cases hafter : after = 0
  · subst hafter
    have hend : lex (more + 5) (.inside .statement ((0 : Nat) + 1)) [')', ' ', '%', '>'] =
        ⟨[.symbol .parenClose, .statementEnd], none⟩ := lex_statementEnd more
    rw [hend, Lexed.andThen_fault]
    exact ⟨_, rfl, fun _ => rfl, fun hne => absurd rfl hne⟩
  · rw [lex_statementEnd_of_ne (by omega), Lexed.andThen_fault]
    exact ⟨_, rfl, fun hzero => absurd hzero hafter, fun _ => rfl⟩

end

/-! ## What stands in a tag -/

/-- The whole of a text is an expression, which is read at a depth of nesting. -/
def IsExpression (depth : Nat) (text : List Char) : Prop :=
  (Lexed.within text).fault = none ∧ Parse.Whole depth (Lexed.within text).tokens

/-- The whole of a text is what may stand between parentheses, which is read at a depth of
nesting. -/
def IsParenthesized (depth : Nat) (text : List Char) : Prop :=
  (Lexed.within text).fault = none ∧ Parse.Parenthesized depth (Lexed.within text).tokens

/-- A text closes no brackets that it does not open. -/
def ClosesOwn (text : List Char) : Prop :=
  ∃ after, Brackets 0 after (Lexed.within text).tokens

namespace Parse

variable {fuel : Nat} {tokens : List Token} {fault : Option Fault}

/-- A reader of the next token has read one, or there is none. -/
theorem next_ok {β : Type} {next : Option Token → Parse β} {depth : Nat} {b : β} {last : Reading}
    (h : (Parse.next >>= next) (standing tokens fault depth) = .ok (b, last)) :
    next tokens.head? (standing tokens.tail fault depth) = .ok (b, last) := by
  cases tokens with
  | cons token tokens => exact (next_cons next token tokens fault depth).symm.trans h
  | nil =>
      rw [next_bind] at h
      cases fault with
      | none => exact h
      | some fault => cases h

/-- Where a template that begins with a value tag has been read, so has been an expression in front
of the end of the tag. -/
theorem expression_of_body {statements : List Statement} {last : Reading}
    (h : body (fuel + 1) [] (standing (.valueStart :: tokens) fault 0) = .ok (statements, last)) :
    ∃ term middle, expression fuel (standing tokens fault 0) = .ok (term, middle) ∧
      ∀ rest left, middle = standing rest left 0 → rest.head? = some .valueEnd := by
  have hvalue := next_ok h
  obtain ⟨term, middle, hterm, hend⟩ := bind_eq_ok hvalue
  refine ⟨term, middle, hterm, ?_⟩
  rintro rest left rfl
  have hnext := next_ok hend
  cases rest with
  | nil => cases hnext
  | cons token rest =>
      cases token with
      | valueEnd => rfl
      | _ => cases hnext

/-- Where a template that begins with a value tag has been read, what stands in front of the first
end of a tag is an expression. -/
theorem whole_of_body {statements : List Statement} {last : Reading}
    (hfuel : 32 * tokens.length + 15 ≤ fuel)
    (h : body fuel [] (standing (.valueStart :: tokens) fault 0) = .ok (statements, last)) :
    ∃ taken rest, tokens = taken ++ .valueEnd :: rest ∧ (fault = none → Whole 0 taken) := by
  obtain ⟨fuel, rfl⟩ : ∃ less, fuel = less + 1 := ⟨fuel - 1, by omega⟩
  have hfuel : 32 * tokens.length + 14 ≤ fuel := by omega
  obtain ⟨term, middle, hterm, hend⟩ := expression_of_body h
  cases fault with
  | none =>
      obtain ⟨taken, rest, htokens, hlast, -, hwhole⟩ := whole_of_ok hfuel hterm
      obtain ⟨rest, rfl⟩ := List.head?_eq_some_iff.mp (hend rest none hlast)
      exact ⟨taken, rest, htokens, fun _ => hwhole .valueEnd⟩
  | some fault =>
      obtain ⟨taken, rest, left, htaken⟩ :=
        (expression_takes hfuel hfuel).ok trivial (Nat.le_refl _) hterm
      obtain ⟨rest, rfl⟩ := List.head?_eq_some_iff.mp (hend rest left htaken.last)
      exact ⟨taken, rest, htaken.tokens, nofun⟩

/-- A value tag around an expression is a template. -/
theorem Whole.body (h : Whole 0 tokens)
    (hfuel : 32 * (tokens ++ [Token.valueEnd]).length + 15 ≤ fuel) :
    ∃ statements, Parse.body fuel [] (standing (.valueStart :: (tokens ++ [.valueEnd])) none 0) =
      .ok (statements, standing [] none 0) := by
  have hends : Ends [Token.valueEnd].head? := .valueEnd
  obtain ⟨fuel, rfl⟩ : ∃ less, fuel = less + 2 := ⟨fuel - 2, by omega⟩
  obtain ⟨term, hterm⟩ := h.expression hends (Nat.le_refl 0) (by omega : _ ≤ fuel + 1)
  refine ⟨[.value term], ?_⟩
  have hstart : next (standing (.valueStart :: (tokens ++ [.valueEnd])) none 0) =
      .ok (some .valueStart, standing (tokens ++ [.valueEnd]) none 0) := rfl
  exact (bind_of_eq_ok hstart).trans ((bind_of_eq_ok hterm).trans rfl)

end Parse

section

variable {text : String} {tokens : List Token} {fault : Option Fault} {statements : List Statement}

/-- A text is a template if its tokens are read as one. -/
theorem Statement.ofText_ok_iff (h : Lexed.ofText text = ⟨tokens, fault⟩) :
    Statement.ofText text = .ok statements ↔ ∃ last,
      Parse.body (32 * (tokens.length + 2)) [] (Parse.standing tokens fault 0) =
        .ok (statements, last) := by
  unfold Statement.ofText
  rw [h]
  show (Parse.body _ [] (Parse.standing tokens fault 0)).map Prod.fst = _ ↔ _
  cases Parse.body (32 * (tokens.length + 2)) [] (Parse.standing tokens fault 0) with
  | error found => exact ⟨nofun, fun ⟨_, h⟩ => nomatch h⟩
  | ok read =>
      refine ⟨fun h => ⟨read.2, ?_⟩, fun ⟨last, h⟩ => ?_⟩
      · rw [← Except.ok.inj h]
      · rw [Except.ok.inj h]
        rfl

/-- A text is no template for what is wrong with its tokens. -/
theorem Statement.ofText_error_iff (h : Lexed.ofText text = ⟨tokens, fault⟩) {found : Fault} :
    Statement.ofText text = .error found ↔
      Parse.body (32 * (tokens.length + 2)) [] (Parse.standing tokens fault 0) =
        .error found := by
  unfold Statement.ofText
  rw [h]
  show (Parse.body _ [] (Parse.standing tokens fault 0)).map Prod.fst = _ ↔ _
  cases Parse.body (32 * (tokens.length + 2)) [] (Parse.standing tokens fault 0) with
  | error other => exact ⟨congrArg _ ∘ Except.error.inj, congrArg _ ∘ Except.error.inj⟩
  | ok read => exact ⟨nofun, nofun⟩

end

/-- No token inside a tag is the end of one. -/
theorem valueEnd_not_mem_within (text : List Char) : .valueEnd ∉ (Lexed.within text).tokens := by
  intro hmem
  obtain ⟨before, after, hmoves⟩ :=
    (lex_inside (Nat.lt_succ_self text.length) (Int.lt_succ _)).1 _ hmem
  cases hmoves

/-- A single value tag is a template if and only if what stands in it, but for a sign next to the
opening delimiter, is an expression. -/
theorem Statement.ofText_tag {definition inner : String}
    (h : singleTag? definition = some inner) (hplain : EndsPlain inner.toList) :
    (∃ statements, Statement.ofText definition = .ok statements) ↔
      IsExpression 0 (trimSign inner.toList).2 := by
  obtain ⟨last, htokens, hbalanced, hopen⟩ := Lexed.ofText_tag h hplain
  generalize (trimSign inner.toList).2 = text at htokens hbalanced hopen ⊢
  have hinside := valueEnd_not_mem_within text
  unfold IsExpression
  generalize Lexed.within text = lexed at *
  obtain ⟨tokens, fault⟩ := lexed
  simp only [Statement.ofText_ok_iff htokens]
  constructor
  · rintro ⟨statements, ending, hbody⟩
    obtain ⟨taken, rest, hread, hwhole⟩ :=
      Parse.whole_of_body (by rw [List.length_cons]; omega) hbody
    cases fault with
    | some fault =>
        have hmem : .valueEnd ∈ tokens := by
          change tokens = _ at hread
          rw [hread]
          exact List.mem_append_right _ List.mem_cons_self
        exact absurd hmem hinside
    | none =>
        change tokens ++ last = _ at hread
        by_cases hnesting : Lexed.nesting ⟨tokens, none⟩ = 0
        · obtain rfl := hbalanced hnesting
          obtain ⟨rfl, -, rfl⟩ :=
            (List.append_cons_inj_of_notMem hinside List.not_mem_nil).mp hread
          exact ⟨rfl, hwhole rfl⟩
        · have hmem : .valueEnd ∈ tokens ++ last := by
            rw [hread]
            exact List.mem_append_right _ List.mem_cons_self
          exact ((List.mem_append.mp hmem).elim hinside (hopen hnesting)).elim
  · rintro ⟨hfault, hwhole⟩
    cases hfault
    have hnesting : Lexed.nesting ⟨tokens, none⟩ = 0 := by
      rw [← Int.zero_add (Lexed.nesting _)]
      exact (hwhole.brackets.nesting none).symm
    obtain rfl := hbalanced hnesting
    have hfuel : 32 * (tokens ++ [Token.valueEnd]).length + 15 ≤
        32 * ((tokens ++ [Token.valueEnd]).length + 1 + 2) := by omega
    obtain ⟨statements, hbody⟩ := hwhole.body hfuel
    exact ⟨statements, _, hbody⟩

/-! ## The statement for a tag -/

namespace Parse

variable {α β : Type} {fuel : Nat} {tokens : List Token} {fault : Option Fault}

/-- A sequence fails for what its first part fails for. -/
theorem bind_of_eq_error {first : Parse α} {next : α → Parse β} {reading : Reading} {found : Fault}
    (h : first reading = .error found) : (first >>= next) reading = .error found := by
  show (first reading >>= fun result => next result.1 result.2) = _
  rw [h]
  rfl

/-- The statement for a tag is its value. -/
theorem statement_setting (fuel : Nat) (tokens : List Token) (fault : Option Fault) (depth : Nat) :
    statement (fuel + 3) "set"
      (standing (.word resultName :: .symbol .assign :: tokens) fault depth) =
        (setValue (fuel + 2) >>= fun value => Pure.pure (Statement.set (.name resultName) value))
          (standing tokens fault depth) := rfl

/-- A template that begins with the statement for a tag is this statement and what is behind it. -/
theorem body_setting (fuel : Nat) (tokens : List Token) (fault : Option Fault) :
    body (fuel + 4) [] (standing (setting tokens) fault 0) =
      (nested (statement (fuel + 3) "set") >>= fun first => statementEnd >>= fun _ =>
        body (fuel + 3) [] >>= fun more => Pure.pure (first :: more))
          (standing (.word resultName :: .symbol .assign :: tokens) fault 0) := rfl

/-- A template that begins with the statement for a tag fails if the value does. -/
theorem body_setting_error {found : Fault}
    (h : setValue (fuel + 2) (standing tokens fault 1) = .error found) :
    body (fuel + 4) [] (standing (setting tokens) fault 0) = .error found := by
  have hnested : nested (statement (fuel + 3) "set")
      (standing (.word resultName :: .symbol .assign :: tokens) fault 0) = .error found := by
    rw [nested_of_lt (by decide)]
    refine bind_of_eq_error ?_
    rw [statement_setting]
    exact bind_of_eq_error h
  rw [body_setting]
  exact bind_of_eq_error hnested

/-- A template that begins with the statement for a tag goes on behind the value. -/
theorem body_setting_ok {value : Term} {rest : List Token} {left : Option Fault}
    (h : setValue (fuel + 2) (standing tokens fault 1) = .ok (value, standing rest left 1)) :
    body (fuel + 4) [] (standing (setting tokens) fault 0) =
      (statementEnd >>= fun _ => body (fuel + 3) [] >>= fun more =>
        Pure.pure (Statement.set (.name resultName) value :: more)) (standing rest left 0) := by
  have hstatement : statement (fuel + 3) "set"
      (standing (.word resultName :: .symbol .assign :: tokens) fault 1) =
        .ok (.set (.name resultName) value, standing rest left 1) := by
    rw [statement_setting, bind_of_eq_ok h]
    rfl
  have hnested : nested (statement (fuel + 3) "set")
      (standing (.word resultName :: .symbol .assign :: tokens) fault 0) =
        .ok (.set (.name resultName) value, standing rest left 0) := by
    rw [nested_of_lt (by decide), bind_of_eq_ok hstatement]
    rfl
  rw [body_setting, bind_of_eq_ok hnested]

/-- Tokens close no bracket around them, and if a bracket around them is closed behind them, then by
the parenthesis at the end of a statement. -/
structure Sealed (tokens last : List Token) (fault : Option Fault) (after : Nat) : Prop where
  tokens : Brackets 0 after tokens
  last : ∀ more rest, Brackets (after + 1) 0 more → more ++ rest = last →
    more = [.symbol .parenClose] ∧ rest = [.statementEnd] ∧ fault = none

namespace Sealed

variable {last : List Token} {after : Nat}

/-- Where a fault is behind the tokens nothing is closed there. -/
theorem of_fault {found : Fault} (h : Brackets 0 after tokens) :
    Sealed tokens [] (some found) after where
  tokens := h
  last := by
    intro more rest hmore hlast
    obtain ⟨rfl, -⟩ := List.append_eq_nil_iff.mp hlast
    cases hmore

/-- At the end of the statement the parenthesis is closed if no other bracket is open. -/
theorem of_closed (h : Brackets 0 0 tokens) :
    Sealed tokens [.symbol .parenClose, .statementEnd] none 0 where
  tokens := h
  last := by
    intro more rest hmore hlast
    cases hmore with
    | @cons _ middle _ token more hmoves hmore =>
        obtain ⟨rfl, hrest⟩ := List.cons.inj hlast
        cases hmore with
        | nil => exact ⟨rfl, hrest, rfl⟩
        | @cons _ _ _ token more hmoves' hmore =>
            obtain ⟨rfl, -⟩ := List.cons.inj hrest
            cases hmoves'

/-- The end of the statement is none where other brackets are open, and leaves them open. -/
theorem of_open (h : Brackets 0 after tokens) (hafter : after ≠ 0) :
    Sealed tokens [.symbol .parenClose, .symbol .percent, .symbol .greater] none after where
  tokens := h
  last := by
    intro more rest hmore hlast
    have hnesting := hmore.nesting none
    have htaken : more = [Token.symbol .parenClose, .symbol .percent, .symbol .greater].take
        more.length := by
      rw [← hlast, List.take_left]
    have hleast : -1 ≤ Lexed.nesting ⟨more, none⟩ := by
      rw [htaken]
      rcases more.length with _ | _ | _ | length <;>
        simp [Lexed.nesting, Token.nesting, Symbol.nesting]
    omega

/-- What has been read between the parentheses is all that stands there. -/
theorem parenthesized (h : Sealed tokens last fault after) {term : Term} {ending : Reading}
    (hfuel : 32 * (tokens ++ last).length + 30 ≤ fuel) (hfault : fault = none)
    (hread : expression fuel (standing (.symbol .parenOpen :: (tokens ++ last)) fault 1) =
      .ok (term, ending)) : Parenthesized 3 tokens := by
  subst hfault
  obtain ⟨fuel, rfl⟩ : ∃ less, fuel = less + 14 := ⟨fuel - 14, by omega⟩
  obtain ⟨_, _, htuple⟩ := tuple_of_expression hread
  obtain ⟨taken, rest, htokens, hparenthesized⟩ := parenthesized_of_ok (by omega) htuple
  have hclosed : Brackets 1 0 (taken ++ [.symbol .parenClose]) :=
    (hparenthesized.brackets.around 1).append (.cons (.closing rfl 0) (.nil 0))
  have hread : (taken ++ [.symbol .parenClose]) ++ rest = tokens ++ last := by
    rw [htokens, List.append_assoc]
    rfl
  obtain ⟨more, hmore, hbrackets, hlast⟩ := h.tokens.closed_behind hclosed hread
  obtain ⟨rfl, -, -⟩ := h.last more rest hbrackets hlast
  exact List.append_cancel_right hmore ▸ hparenthesized

/-- The statement for a tag is read if and only if what stands in the tag may stand in
parentheses. -/
theorem body_cases (h : Sealed tokens last fault after)
    (hfuel : 32 * (tokens ++ last).length + 60 ≤ fuel) :
    (∃ found, body fuel [] (standing (setting (.symbol .parenOpen :: (tokens ++ last))) fault 0) =
      .error found ∧ (found.kind = .malformed ∨ fault = some found)) ∨
    fault = none ∧ Parenthesized 3 tokens ∧ ∃ read,
      body fuel [] (standing (setting (.symbol .parenOpen :: (tokens ++ last))) fault 0) =
        .ok read := by
  obtain ⟨fuel, rfl⟩ : ∃ less, fuel = less + 4 := ⟨fuel - 4, by omega⟩
  have hroom : 32 * (Token.symbol .parenOpen :: (tokens ++ last)).length + 14 ≤ fuel + 2 := by
    rw [List.length_cons]
    omega
  have htakes := expression_takes hroom hroom
  cases hread : expression (fuel + 2)
      (standing (.symbol .parenOpen :: (tokens ++ last)) fault 1) with
  | error found =>
      refine .inl ⟨found, body_setting_error (bind_of_eq_error hread), ?_⟩
      exact htakes.error trivial (Nat.le_refl _) hread
  | ok read =>
      obtain ⟨term, ending⟩ := read
      obtain ⟨taken, rest, left, htaken⟩ := htakes.ok trivial (Nat.le_refl _) hread
      obtain rfl := htaken.last
      have htokens := htaken.tokens
      cases htaken.brackets with
      | nil =>
          obtain rfl : .symbol .parenOpen :: (tokens ++ last) = rest := htokens
          have hvalue : setValue (fuel + 2)
              (standing (.symbol .parenOpen :: (tokens ++ last)) fault 1) =
                .ok (term, standing (.symbol .parenOpen :: (tokens ++ last)) left 1) :=
            (bind_of_eq_ok hread).trans rfl
          exact .inl ⟨.malformed "expected end of block", body_setting_ok hvalue, .inl rfl⟩
      | @cons _ middle _ token taken hmoves hbrackets =>
          obtain ⟨rfl, hbehind⟩ := List.cons.inj htokens
          obtain rfl : middle = 1 := by
            have hmiddle := hmoves.nesting
            change (middle : Int) = 0 + 1 at hmiddle
            omega
          obtain ⟨more, rfl, hmore, hlast⟩ := h.tokens.closed_behind hbrackets hbehind.symm
          obtain ⟨rfl, rfl, hfault⟩ := h.last more rest hmore hlast
          obtain rfl : left = none := htaken.left.elim (fun hleft => hleft.trans hfault) id
          have hvalue : setValue (fuel + 2)
              (standing (.symbol .parenOpen :: (tokens ++ last)) fault 1) =
                .ok (term, standing [.statementEnd] none 1) :=
            (bind_of_eq_ok hread).trans rfl
          refine .inr ⟨hfault, h.parenthesized (by omega) hfault hread,
            ([.set (.name resultName) term], standing [] none 0), ?_⟩
          exact (body_setting_ok hvalue).trans rfl

end Sealed

/-- What may stand in parentheses is read in the statement for a tag. -/
theorem Parenthesized.body (h : Parenthesized 3 tokens)
    (hfuel : 32 * (tokens.length + 2) + 60 ≤ fuel) :
    ∃ read, Parse.body fuel [] (standing (setting (.symbol .parenOpen ::
      (tokens ++ [.symbol .parenClose, .statementEnd]))) none 0) = .ok read := by
  obtain ⟨fuel, rfl⟩ : ∃ less, fuel = less + 18 := ⟨fuel - 18, by omega⟩
  have htuple :
      32 * (tokens ++ [Token.symbol .parenClose, .statementEnd]).length + 15 ≤ fuel + 2 := by
    rw [List.length_append]
    exact (by omega : 32 * (tokens.length + 2) + 15 ≤ fuel + 2)
  obtain ⟨term, hterm⟩ := h.tuple [.statementEnd] htuple
  have hread := expression_tuple (.statement []) (by decide) hterm
  have hvalue : setValue (fuel + 16) (standing (.symbol .parenOpen ::
      (tokens ++ [.symbol .parenClose, .statementEnd])) none 1) =
        .ok (term, standing [.statementEnd] none 1) :=
    (bind_of_eq_ok hread).trans rfl
  exact ⟨([.set (.name resultName) term], standing [] none 0), (body_setting_ok hvalue).trans rfl⟩

end Parse

section

variable {definition inner : String}

/-- A text that may stand in parentheses closes its own brackets. -/
theorem IsParenthesized.closesOwn {depth : Nat} {text : List Char}
    (h : IsParenthesized depth text) : ClosesOwn text :=
  ⟨0, h.2.brackets⟩

/-- The statement for a tag is read if what stands in the tag may stand in parentheses, and no other
text that closes its own brackets makes it one. -/
theorem Statement.ofText_resultTemplate (h : ClosesOwn inner.toList) :
    (IsParenthesized 3 inner.toList ∧
      ∃ statements, Statement.ofText (resultTemplate inner) = .ok statements) ∨
    ¬IsParenthesized 3 inner.toList ∧
      ∃ found, Statement.ofText (resultTemplate inner) = .error found ∧
        (found.kind = .malformed ∨ found.kind = .badEscape) := by
  obtain ⟨after, hbrackets⟩ := h
  obtain ⟨last, htokens, hclosed, hopen⟩ := Lexed.ofText_resultTemplate hbrackets
  have hkind := (lex_inside (Nat.lt_succ_self inner.toList.length) (Int.lt_succ _)).2
  unfold IsParenthesized
  change ∀ found ∈ (Lexed.within inner.toList).fault, _ at hkind
  generalize Lexed.within inner.toList = lexed at *
  obtain ⟨tokens, fault⟩ := lexed
  have hsealed : ∃ behind, (Lexed.andThen ⟨tokens, fault⟩ ⟨last, none⟩).tokens = tokens ++ behind ∧
      Parse.Sealed tokens behind fault after ∧
        (fault = none → after = 0 → behind = [.symbol .parenClose, .statementEnd]) := by
    cases fault with
    | some found => exact ⟨[], (List.append_nil tokens).symm, .of_fault hbrackets, nofun⟩
    | none =>
        refine ⟨last, rfl, ?_, fun _ => hclosed⟩
        by_cases hafter : after = 0
        · subst hafter
          exact hclosed rfl ▸ .of_closed hbrackets
        · exact hopen hafter ▸ .of_open hbrackets hafter
  obtain ⟨behind, hbehind, hsealed, hwhole⟩ := hsealed
  rw [hbehind] at htokens
  simp only [Statement.ofText_ok_iff htokens, Statement.ofText_error_iff htokens]
  have hfuel : 32 * (tokens ++ behind).length + 60 ≤
      32 * ((setting (.symbol .parenOpen :: (tokens ++ behind))).length + 2) := by
    have hlength : (setting (.symbol .parenOpen :: (tokens ++ behind))).length =
        (tokens ++ behind).length + 5 := rfl
    omega
  obtain ⟨found, herror, hcause⟩ | ⟨hfault, hparenthesized, ⟨statements, ending⟩, hok⟩ :=
    hsealed.body_cases hfuel
  · refine .inr ⟨?_, found, herror, hcause.elim .inl fun hfault => hkind found hfault⟩
    rintro ⟨rfl, hparenthesized⟩
    obtain rfl : after = 0 := by
      have hafter : (after : Int) = (0 : Nat) + Lexed.nesting ⟨tokens, none⟩ :=
        hbrackets.nesting none
      have hzero : ((0 : Nat) : Int) = (0 : Nat) + Lexed.nesting ⟨tokens, none⟩ :=
        hparenthesized.brackets.nesting none
      omega
    obtain rfl := hwhole rfl rfl
    rw [List.length_append] at hfuel
    obtain ⟨read, hok⟩ := hparenthesized.body hfuel
    cases herror.symm.trans hok
  · exact .inl ⟨⟨hfault, hparenthesized⟩, statements, ending, hok⟩

/-- What a single value tag may be. Where the text in it closes its own brackets, the tag is read if
and only if the text may stand in parentheses, and otherwise the text is at fault. Where nothing in
the text belongs to the end of the tag, the tag is a template if and only if the text, but for a
sign at its start, is an expression. What may stand in parentheses and is an expression is one in
the parentheses, and no other text closes brackets that it does not open. -/
theorem Program.ofText_singleTag (h : singleTag? definition = some inner) :
    (ClosesOwn inner.toList →
      ((∃ program, Program.ofText definition = .ok program) ↔
        IsParenthesized 3 inner.toList) ∧
      ∀ found, Program.ofText definition = .error found →
        found.kind = .malformed ∨ found.kind = .badEscape) ∧
    (EndsPlain inner.toList →
      ((∃ statements, Statement.ofText definition = .ok statements) ↔
        IsExpression 0 (trimSign inner.toList).2)) ∧
    (IsExpression 3 inner.toList ↔
      IsParenthesized 3 inner.toList ∧ IsExpression 0 inner.toList) ∧
    (IsExpression 0 inner.toList → ClosesOwn inner.toList) := by
  have hread : Program.ofText definition =
      (Statement.ofText (resultTemplate inner)).map .expression := by
    have htags : hasTags definition = true := by
      unfold hasTags Text.contains
      rw [(toList_of_singleTag? h).1]
      rfl
    unfold Program.ofText
    rw [htags, h]
    rfl
  refine ⟨fun hcloses => ?_, Statement.ofText_tag h, ⟨fun hwhole => ?_, ?_⟩, ?_⟩
  · rw [hread]
    obtain ⟨hparenthesized, statements, hok⟩ | ⟨hnot, found, herror, hkind⟩ :=
      Statement.ofText_resultTemplate hcloses
    · rw [hok]
      refine ⟨⟨fun _ => hparenthesized, fun _ => ⟨_, rfl⟩⟩, fun found hfound => ?_⟩
      cases hfound
    · rw [herror]
      refine ⟨⟨?_, fun h => absurd h hnot⟩, fun other hother => Except.error.inj hother ▸ hkind⟩
      rintro ⟨program, hprogram⟩
      cases hprogram
  · exact ⟨⟨hwhole.1, hwhole.2.parenthesized⟩, hwhole.1, hwhole.2.outwards (Nat.zero_le 3)⟩
  · rintro ⟨hparenthesized, hwhole⟩
    exact ⟨hwhole.1, hparenthesized.2.whole (Nat.zero_le 3) hwhole.2⟩
  · intro hwhole
    exact ⟨0, hwhole.2.brackets⟩

end

/-- Two expressions with a comma between them are read in a single value tag, which is no
template. -/
theorem Program.ofText_singleTag_pair :
    singleTag? "<<1, 2>>" = some "1, 2" ∧
      (∃ program, Program.ofText "<<1, 2>>" = .ok program) ∧
      ¬∃ statements, Statement.ofText "<<1, 2>>" = .ok statements := by
  have hinner : singleTag? "<<1, 2>>" = some "1, 2" := by decide +kernel
  have htokens : Lexed.within "1, 2".toList = ⟨[.int 1, .symbol .comma, .int 2], none⟩ := rfl
  have hone : Parse.Whole 3 [.int 1] := ⟨.literal (.int 1), rfl⟩
  have htwo : Parse.Whole 3 [.int 2] := ⟨.literal (.int 2), rfl⟩
  have hpair : IsParenthesized 3 "1, 2".toList := by
    unfold IsParenthesized
    rw [htokens]
    exact ⟨rfl, .items hone (.item htwo .nil)⟩
  have hplain : EndsPlain "1, 2".toList := by
    intro c hc
    obtain rfl : '2' = c := Option.some.inj hc
    decide
  have htag := Program.ofText_singleTag hinner
  refine ⟨hinner, (htag.1 hpair.closesOwn).1.mpr hpair, fun hstatements => ?_⟩
  have hwhole : IsExpression 0 "1, 2".toList := (htag.2.1 hplain).mp hstatements
  unfold IsExpression at hwhole
  rw [htokens] at hwhole
  obtain ⟨-, term, hterm⟩ := hwhole
  cases hterm

/-- A tag is read whose text closes the statement that stands for the tag, but is no template. -/
theorem Program.ofText_closedStatement :
    singleTag? "<<1) %> dropped (2>>" = some "1) %> dropped (2" ∧
      (Program.ofText "<<1) %> dropped (2>>").isOk = true ∧
      (Statement.ofText "<<1) %> dropped (2>>").isOk = false := by
  decide +kernel

end RecordRecipe.Expr
