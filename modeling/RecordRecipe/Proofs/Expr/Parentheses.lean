import RecordRecipe.Proofs.Expr.Phrases

/-!
# What stands between parentheses

Between parentheses stand nothing, one expression, or an expression and further items behind commas,
of which the last may lack its expression. This is `tuple_iff`. What is an expression by itself is
one in front of whatever ends it, and the other way round, and with the fuel that its tokens need.
-/

namespace RecordRecipe.Expr

namespace Parse

variable {α β : Type} {depth fuel : Nat} {tokens rest : List Token} {term : Term}

/-- The reader of expressions takes what it takes with other fuel that is enough. -/
theorem expression_takes {room enough : Nat} (hfuel : 32 * room + 14 ≤ fuel)
    (henough : 32 * room + 14 ≤ enough) :
    Takes false 0 0 room (expression fuel) (expression enough) :=
  (phrases fuel).expression ⟨hfuel, henough⟩

/-- Readers that stand in the same place have the same tokens left. -/
theorem standing_tokens {others : List Token} {fault fault' : Option Fault} {depth' : Nat}
    (h : standing tokens fault depth = standing others fault' depth') : tokens = others :=
  congrArg (fun reading => reading.input.tokens) h

/-- More fuel than is enough changes nothing. -/
theorem expression_fuel {enough : Nat} {last : Reading} (hfuel : 32 * tokens.length + 14 ≤ fuel)
    (henough : 32 * tokens.length + 14 ≤ enough)
    (h : expression fuel (standing tokens none depth) = .ok (term, last)) :
    expression enough (standing tokens none depth) = .ok (term, last) := by
  obtain ⟨taken, rest, left, htaken⟩ :=
    (expression_takes hfuel henough).ok trivial (Nat.le_refl _) h
  obtain rfl : left = none := htaken.left.elim id id
  rw [htaken.tokens, htaken.last]
  exact htaken.repeats rfl rest depth trivial (Nat.le_of_eq (congrArg _ htaken.tokens.symm))
    (Nat.le_refl _) (.inr (.inl rfl))

/-- What has been read as an expression is read as one in front of other tokens that end it in the
same way. -/
theorem expression_again {last : Reading} (hfuel : 32 * tokens.length + 14 ≤ fuel)
    (h : expression fuel (standing tokens none depth) = .ok (term, last)) :
    ∃ taken rest, tokens = taken ++ rest ∧ last = standing rest none depth ∧
      Brackets 0 0 taken ∧ ∀ {behind other enough}, SameEnd rest behind → other ≤ depth →
        32 * (taken ++ behind).length + 14 ≤ enough →
          expression enough (standing (taken ++ behind) none other) =
            .ok (term, standing behind none other) := by
  obtain ⟨taken, rest, left, htaken⟩ :=
    (expression_takes hfuel hfuel).ok trivial (Nat.le_refl _) h
  obtain rfl : left = none := htaken.left.elim id id
  refine ⟨taken, rest, htaken.tokens, htaken.last, htaken.brackets, ?_⟩
  intro behind other enough hend hother henough
  -- Fuel that is enough for both kinds of tokens leads from the one to the other.
  have hroom : tokens.length ≤ tokens.length + (taken ++ behind).length := Nat.le_add_right _ _
  generalize hgreat : 32 * (tokens.length + (taken ++ behind).length) + 14 = great
  obtain ⟨taken', rest', left', htaken'⟩ := (expression_takes (Nat.le_of_eq hgreat)
    (Nat.le_of_eq hgreat)).ok trivial hroom (expression_fuel hfuel (by omega) h)
  obtain rfl : rest' = rest := standing_tokens (htaken'.last.symm.trans htaken.last)
  obtain rfl : taken' = taken :=
    List.append_cancel_right (htaken'.tokens.symm.trans htaken.tokens)
  exact expression_fuel (by omega) henough
    (htaken'.repeats rfl behind other trivial (Nat.le_add_left _ _) hother (.inr hend))

/-! ## Whole expressions -/

/-- Tokens that are one expression, which is read at a depth of nesting. -/
def Whole (depth : Nat) (tokens : List Token) : Prop :=
  ∃ term, expression (32 * (tokens.length + 1)) (standing tokens none depth) =
    .ok (term, standing [] none depth)

/-- What has been read as an expression in front of its end is one by itself. -/
theorem whole_of_ok {last : Reading} (hfuel : 32 * tokens.length + 14 ≤ fuel)
    (h : expression fuel (standing tokens none depth) = .ok (term, last)) :
    ∃ taken rest, tokens = taken ++ rest ∧ last = standing rest none depth ∧
      Brackets 0 0 taken ∧ (Ends rest.head? → Whole depth taken) := by
  obtain ⟨taken, rest, htokens, hlast, hbrackets, hagain⟩ := expression_again hfuel h
  refine ⟨taken, rest, htokens, hlast, hbrackets, fun hends => ⟨term, ?_⟩⟩
  have hend : SameEnd rest [] := .inr ⟨hends, .nothing⟩
  have hwhole := hagain hend (Nat.le_refl _) (Nat.le_refl _)
  rw [List.append_nil] at hwhole
  exact expression_fuel (Nat.le_refl _) (by omega) hwhole

namespace Whole

/-- What is an expression by itself is read as one in front of its end. -/
theorem expression (h : Whole depth tokens) (hends : Ends rest.head?) {other : Nat}
    (hother : other ≤ depth) (hfuel : 32 * (tokens ++ rest).length + 14 ≤ fuel) :
    ∃ term, Parse.expression fuel (standing (tokens ++ rest) none other) =
      .ok (term, standing rest none other) := by
  obtain ⟨term, hterm⟩ := h
  obtain ⟨taken, left, htokens, hlast, -, hagain⟩ := expression_again (by omega) hterm
  obtain rfl : [] = left := standing_tokens hlast
  obtain rfl : tokens = taken := htokens.trans (List.append_nil taken)
  exact ⟨term, hagain (.inr ⟨.nothing, hends⟩) hother hfuel⟩

theorem brackets (h : Whole depth tokens) : Brackets 0 0 tokens := by
  obtain ⟨term, hterm⟩ := h
  obtain ⟨taken, left, htokens, hlast, hbrackets, -⟩ := expression_again (by omega) hterm
  obtain rfl : [] = left := standing_tokens hlast
  rw [htokens, List.append_nil]
  exact hbrackets

/-- What can be read deeper inside of constructs can be read further out. -/
theorem outwards (h : Whole depth tokens) {other : Nat} (hother : other ≤ depth) :
    Whole other tokens := by
  have hends : Ends ([] : List Token).head? := .nothing
  have hfuel : 32 * (tokens ++ []).length + 14 ≤ 32 * (tokens.length + 1) := by
    rw [List.append_nil]
    omega
  obtain ⟨term, hterm⟩ := h.expression hends hother hfuel
  rw [List.append_nil] at hterm
  exact ⟨term, hterm⟩

/-- No tokens are no expression. -/
theorem ne_nil (h : Whole depth tokens) : tokens ≠ [] := by
  rintro rfl
  obtain ⟨term, hterm⟩ := h.outwards (Nat.zero_le depth)
  have hfails : Parse.expression (32 * (0 + 1)) (standing [] none 0) =
      .error (.malformed "unexpected end of input, expected expression") := rfl
  cases hfails.symm.trans hterm

/-- The first token of an expression closes nothing. -/
theorem head (h : Whole depth tokens) (rest : List Token) :
    isSymbol .parenClose (tokens ++ rest).head? = false := by
  have hbrackets := h.brackets
  cases tokens with
  | nil => exact absurd rfl h.ne_nil
  | cons token tokens =>
      cases hbrackets with
      | cons hmoves _ =>
          cases hmoves with
          | opening hsymbol | mark hsymbol =>
              exact decide_eq_false (by rintro rfl; cases hsymbol)
          | _ => rfl

end Whole

/-! ## Tuples -/

/-- The items behind the first one of a tuple, each behind a comma. Behind the last comma there may
be none. -/
inductive Items (depth : Nat) : List Token → Prop where
  | nil : Items depth []
  | last : Items depth [.symbol .comma]
  | item {tokens rest : List Token} (htokens : Whole depth tokens) (hrest : Items depth rest) :
      Items depth (.symbol .comma :: (tokens ++ rest))

/-- What may stand between parentheses. -/
inductive Parenthesized (depth : Nat) : List Token → Prop where
  | nothing : Parenthesized depth []
  | items {tokens rest : List Token} (htokens : Whole depth tokens) (hrest : Items depth rest) :
      Parenthesized depth (tokens ++ rest)

/-- Items close the brackets that they open. -/
theorem Items.brackets (h : Items depth tokens) : Brackets 0 0 tokens := by
  induction h with
  | nil => exact .nil 0
  | last => exact .cons (.mark rfl 0) (.nil 0)
  | item htokens _ ih => exact .cons (.mark rfl 0) (htokens.brackets.append ih)

/-- What may stand between parentheses closes the brackets that it opens. -/
theorem Parenthesized.brackets (h : Parenthesized depth tokens) : Brackets 0 0 tokens := by
  cases h with
  | nothing => exact .nil 0
  | items htokens hrest => exact htokens.brackets.append hrest.brackets

/-- An expression may stand between parentheses. -/
theorem Whole.parenthesized (h : Whole depth tokens) : Parenthesized depth tokens :=
  List.append_nil tokens ▸ .items h .nil

/-- What stands between parentheses is an expression only if it is one as deep inside of
constructs: nothing is none, and behind an expression none goes on with a comma. -/
theorem Parenthesized.whole (h : Parenthesized depth tokens) {other : Nat} (hother : other ≤ depth)
    (hwhole : Whole other tokens) : Whole depth tokens := by
  cases h with
  | nothing => exact absurd rfl hwhole.ne_nil
  | @items tokens more htokens hrest =>
      obtain ⟨term, hterm⟩ := hwhole
      have hends : Ends more.head? := by
        cases hrest with
        | nil => exact .nothing
        | last | item => exact .comma
      have hfuel : 32 * (tokens ++ more).length + 14 ≤ 32 * ((tokens ++ more).length + 1) := by
        omega
      obtain ⟨term', hfirst⟩ := htokens.expression hends hother hfuel
      have hresult := Except.ok.inj (hterm.symm.trans hfirst)
      obtain rfl : [] = more := standing_tokens (congrArg Prod.snd hresult)
      rw [List.append_nil]
      exact htokens

/-- A reader that passes a symbol if it is next has passed it or not. -/
theorem accepts_ok {symbol : Symbol} {next : Bool → Parse β} {b : β} {last : Reading}
    (h : (accepts symbol >>= next) (standing tokens none depth) = .ok (b, last)) :
    (∃ rest, tokens = .symbol symbol :: rest ∧
      next true (standing rest none depth) = .ok (b, last)) ∨
        next false (standing tokens none depth) = .ok (b, last) := by
  rw [accepts_bind, peek_looks.bind_none] at h
  cases hsymbol : isSymbol symbol tokens.head? with
  | false =>
      rw [hsymbol] at h
      exact .inr h
  | true =>
      obtain ⟨rest, rfl⟩ := List.head?_eq_some_iff.mp (eq_of_isSymbol hsymbol)
      rw [hsymbol] at h
      exact .inl ⟨rest, rfl, h⟩

/-- A reader that asks whether a symbol is next has found it or not. -/
theorem sees_ok {symbol : Symbol} {next : Bool → Parse β} {b : β} {last : Reading}
    (h : (sees symbol >>= next) (standing tokens none depth) = .ok (b, last)) :
    next true (standing tokens none depth) = .ok (b, last) ∨
      next false (standing tokens none depth) = .ok (b, last) := by
  rw [sees_bind, peek_looks.bind_none] at h
  cases hsymbol : isSymbol symbol tokens.head? with
  | false => exact .inr (hsymbol ▸ h)
  | true => exact .inl (hsymbol ▸ h)

/-- A symbol that is not next is not passed. -/
theorem accepts_of_isSymbol {symbol : Symbol} (h : isSymbol symbol tokens.head? = false) :
    accepts symbol (standing tokens none depth) = .ok (false, standing tokens none depth) := by
  rw [← bind_pure (accepts symbol), accepts_bind, peek_looks.bind_none, h]
  rfl

/-- A symbol that has to be next is. -/
theorem expect_ok {symbol : Symbol} {description : String} {next : Unit → Parse β} {b : β}
    {last : Reading}
    (h : (expect symbol description >>= next) (standing tokens none depth) = .ok (b, last)) :
    ∃ rest, tokens = .symbol symbol :: rest ∧
      next () (standing rest none depth) = .ok (b, last) := by
  unfold expect at h
  rw [bind_assoc] at h
  obtain hnext | hfails := accepts_ok h
  · exact hnext
  · cases hfails

/-- An expression ends in front of further items and the closing parenthesis. -/
theorem Items.ends {taken : List Token} (h : Items depth taken) (rest : List Token) :
    Ends (taken ++ .symbol .parenClose :: rest).head? := by
  cases h with
  | nil => exact .parenClose
  | last | item => exact .comma

/-- What has been read as the further items of a tuple. -/
theorem items_of_ok {items : List Term} {last : Reading} (hfuel : 32 * tokens.length + 1 ≤ fuel)
    (h : tupleItems fuel (standing tokens none depth) = .ok (items, last)) :
    ∃ taken rest, tokens = taken ++ .symbol .parenClose :: rest ∧ Items depth taken := by
  induction fuel generalizing tokens items last with
  | zero => omega
  | succ fuel ih =>
      obtain ⟨rest, rfl, -⟩ | hopen := accepts_ok h
      · exact ⟨[], rest, rfl, .nil⟩
      obtain ⟨tokens, rfl, hcomma⟩ := expect_ok hopen
      obtain ⟨rest, rfl, -⟩ | hitem := accepts_ok hcomma
      · exact ⟨[.symbol .comma], rest, rfl, .last⟩
      obtain ⟨item, middle, hitem, hrest⟩ := bind_eq_ok hitem
      obtain ⟨more, middle, hmore, -⟩ := bind_eq_ok hrest
      rw [List.length_cons] at hfuel
      obtain ⟨taken, rest, rfl, rfl, -, hwhole⟩ := whole_of_ok (by omega) hitem
      rw [List.length_append] at hfuel
      obtain ⟨taken', rest', rfl, hitems⟩ := ih (by omega) hmore
      have hends := hitems.ends rest'
      refine ⟨.symbol .comma :: (taken ++ taken'), rest', ?_, .item (hwhole hends) hitems⟩
      rw [List.cons_append, List.append_assoc]

/-- What has been read as a tuple. -/
theorem parenthesized_of_ok {last : Reading} (hfuel : 32 * tokens.length + 15 ≤ fuel)
    (h : tuple fuel (standing tokens none depth) = .ok (term, last)) :
    ∃ taken rest, tokens = taken ++ .symbol .parenClose :: rest ∧ Parenthesized depth taken := by
  obtain ⟨fuel, rfl⟩ : ∃ less, fuel = less + 1 := ⟨fuel - 1, by omega⟩
  obtain ⟨rest, rfl, -⟩ | hopen := accepts_ok h
  · exact ⟨[], rest, rfl, .nothing⟩
  obtain ⟨first, middle, hfirst, hbehind⟩ := bind_eq_ok hopen
  obtain ⟨taken, rest, rfl, rfl, -, hwhole⟩ := whole_of_ok (by omega) hfirst
  rw [List.length_append] at hfuel
  obtain hcomma | hclose := sees_ok hbehind
  · obtain ⟨items, middle, hmore, -⟩ := bind_eq_ok hcomma
    obtain ⟨taken', rest', rfl, hitems⟩ := items_of_ok (by omega) hmore
    refine ⟨taken ++ taken', rest', (List.append_assoc _ _ _).symm, ?_⟩
    exact .items (hwhole (hitems.ends rest')) hitems
  · obtain ⟨rest, rfl, -⟩ := expect_ok hclose
    refine ⟨taken, rest, rfl, ?_⟩
    exact List.append_nil taken ▸ .items (hwhole .parenClose) .nil

/-- Further items are read in front of a closing parenthesis. -/
theorem Items.tupleItems {taken : List Token} (h : Items depth taken) (rest : List Token)
    (hfuel : 32 * (taken ++ .symbol .parenClose :: rest).length + 1 ≤ fuel) :
    ∃ items, Parse.tupleItems fuel (standing (taken ++ .symbol .parenClose :: rest) none depth) =
      .ok (items, standing rest none depth) := by
  obtain ⟨fuel, rfl⟩ : ∃ less, fuel = less + 1 := ⟨fuel - 1, by omega⟩
  induction h generalizing fuel with
  | nil => exact ⟨[], rfl⟩
  | last => exact ⟨[], rfl⟩
  | @item tokens more htokens hrest ih =>
      rw [List.cons_append, List.length_cons, List.append_assoc, List.length_append] at hfuel
      rw [List.cons_append, List.append_assoc]
      generalize hbehind : more ++ .symbol .parenClose :: rest = behind at ih hfuel ⊢
      have hends : Ends behind.head? := hbehind ▸ hrest.ends rest
      have hopen :
          accepts .parenClose (standing (.symbol .comma :: (tokens ++ behind)) none depth) =
            .ok (false, standing (.symbol .comma :: (tokens ++ behind)) none depth) := rfl
      have hcomma : expect .comma "," (standing (.symbol .comma :: (tokens ++ behind)) none depth) =
          .ok ((), standing (tokens ++ behind) none depth) := rfl
      have hfirst : accepts .parenClose (standing (tokens ++ behind) none depth) =
          .ok (false, standing (tokens ++ behind) none depth) :=
        accepts_of_isSymbol (htokens.head behind)
      have hroom : 32 * (tokens ++ behind).length + 14 ≤ fuel := by
        rw [List.length_append]
        omega
      obtain ⟨item, hitem⟩ := htokens.expression hends (Nat.le_refl depth) hroom
      obtain ⟨fuel, rfl⟩ : ∃ less, fuel = less + 1 := ⟨fuel - 1, by omega⟩
      obtain ⟨items, hitems⟩ := ih fuel (by omega)
      exact ⟨item :: items, (bind_of_eq_ok hopen).trans ((bind_of_eq_ok hcomma).trans
        ((bind_of_eq_ok hfirst).trans ((bind_of_eq_ok hitem).trans (bind_of_eq_ok hitems))))⟩

/-- What may stand between parentheses is read in front of the closing one. -/
theorem Parenthesized.tuple {taken : List Token} (h : Parenthesized depth taken)
    (rest : List Token)
    (hfuel : 32 * (taken ++ .symbol .parenClose :: rest).length + 15 ≤ fuel) :
    ∃ term, Parse.tuple fuel (standing (taken ++ .symbol .parenClose :: rest) none depth) =
      .ok (term, standing rest none depth) := by
  obtain ⟨fuel, rfl⟩ : ∃ less, fuel = less + 1 := ⟨fuel - 1, by omega⟩
  cases h with
  | nothing => exact ⟨.list [], rfl⟩
  | @items tokens more htokens hrest =>
      rw [List.append_assoc] at hfuel ⊢
      generalize hbehind : more ++ .symbol .parenClose :: rest = behind at hfuel ⊢
      have hfirst : accepts .parenClose (standing (tokens ++ behind) none depth) =
          .ok (false, standing (tokens ++ behind) none depth) :=
        accepts_of_isSymbol (htokens.head behind)
      have hroom : 32 * (tokens ++ behind).length + 14 ≤ fuel := by omega
      obtain ⟨item, hitem⟩ :=
        htokens.expression (hbehind ▸ hrest.ends rest) (Nat.le_refl depth) hroom
      rw [List.length_append] at hfuel
      have hroom' : 32 * (more ++ .symbol .parenClose :: rest).length + 1 ≤ fuel := by
        rw [hbehind]
        omega
      obtain ⟨items, hitems⟩ := hrest.tupleItems rest hroom'
      subst hbehind
      have hseen (hcomma : sees .comma (standing (more ++ .symbol .parenClose :: rest) none depth) =
          .ok (true, standing (more ++ .symbol .parenClose :: rest) none depth)) :
          Parse.tuple (fuel + 1)
            (standing (tokens ++ (more ++ .symbol .parenClose :: rest)) none depth) =
              .ok (.list (item :: items), standing rest none depth) :=
        (bind_of_eq_ok hfirst).trans ((bind_of_eq_ok hitem).trans
          ((bind_of_eq_ok hcomma).trans (bind_of_eq_ok hitems)))
      cases hrest with
      | last | item => exact ⟨_, hseen rfl⟩
      | nil =>
          have hcomma : sees .comma (standing (.symbol .parenClose :: rest) none depth) =
              .ok (false, standing (.symbol .parenClose :: rest) none depth) := rfl
          have hclose : expect .parenClose ")" (standing (.symbol .parenClose :: rest) none depth) =
              .ok ((), standing rest none depth) := rfl
          exact ⟨item, (bind_of_eq_ok hfirst).trans ((bind_of_eq_ok hitem).trans
            ((bind_of_eq_ok hcomma).trans (bind_of_eq_ok hclose)))⟩

/-! ## Parentheses -/

/-- What is nested has been read. -/
theorem nested_eq_ok {construct : Parse α} {fault : Option Fault} {a : α} {last : Reading}
    (h : nested construct (standing tokens fault depth) = .ok (a, last)) :
    ∃ middle, construct (standing tokens fault (depth + 1)) = .ok (a, middle) := by
  by_cases hdepth : depth < nestingLimit
  · rw [nested_of_lt hdepth] at h
    obtain ⟨b, middle, hconstruct, hlast⟩ := bind_eq_ok h
    cases hlast
    exact ⟨middle, hconstruct⟩
  · rw [nested_of_le (by omega)] at h
    cases h

/-- Where an expression that begins with a parenthesis has been read, so has what stands between
the parentheses. -/
theorem tuple_of_expression {fault : Option Fault} {last : Reading}
    (h : expression (fuel + 14) (standing (.symbol .parenOpen :: tokens) fault depth) =
      .ok (term, last)) :
    ∃ term last, tuple fuel (standing tokens fault (depth + 2)) = .ok (term, last) := by
  obtain ⟨_, hconditional⟩ := nested_eq_ok h
  obtain ⟨_, _, heither, -⟩ := bind_eq_ok hconditional
  obtain ⟨_, _, hboth, -⟩ := bind_eq_ok heither
  obtain ⟨_, _, hnegation, -⟩ := bind_eq_ok hboth
  have hcomparison : level (fuel + 9) .comparison
      (standing (.symbol .parenOpen :: tokens) fault (depth + 1)) = _ := hnegation
  obtain ⟨_, _, hsum, -⟩ := bind_eq_ok hcomparison
  obtain ⟨_, _, hjoin, -⟩ := bind_eq_ok hsum
  obtain ⟨_, _, hproduct, -⟩ := bind_eq_ok hjoin
  obtain ⟨_, _, hpower, -⟩ := bind_eq_ok hproduct
  obtain ⟨_, _, hsigned, -⟩ := bind_eq_ok hpower
  obtain ⟨_, _, hattached, -⟩ := bind_eq_ok hsigned
  obtain ⟨_, _, hsign, -⟩ := bind_eq_ok hattached
  have hnested : nested (primary (fuel + 1))
      (standing (.symbol .parenOpen :: tokens) fault (depth + 1)) = _ := hsign
  obtain ⟨_, hprimary⟩ := nested_eq_ok hnested
  exact ⟨_, _, hprimary⟩

end Parse

end RecordRecipe.Expr
