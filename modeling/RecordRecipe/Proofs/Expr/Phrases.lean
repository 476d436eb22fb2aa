import RecordRecipe.Proofs.Expr.Taking

/-!
# What the readers of expressions take

Every reader of the grammar of expressions, with enough fuel, takes a part of the tokens in front of
it in which all brackets that are opened are closed, and takes it again wherever it ends in the same
way. Those that are called behind an opening bracket take the closing one too. The fuel is enough if
there are 32 units for every token, and for every reader on the way to the next token one more.
-/

namespace RecordRecipe.Expr

namespace Parse

variable {α : Type} {fuel enough room need less : Nat}

/-- Two amounts of fuel are enough for some tokens. -/
structure Enough (room need fuel enough : Nat) : Prop where
  fuel : 32 * room + need ≤ fuel
  enough : 32 * room + need ≤ enough

/-- Fuel that is enough for a reader is enough for those that it calls before any token. -/
theorem Enough.lower (h : Enough room need fuel enough) {lower : Nat} (hlower : lower ≤ need) :
    Enough room lower fuel enough :=
  ⟨by have := h.fuel; omega, by have := h.enough; omega⟩

/-- Fuel that is enough for a reader is enough for those that it calls behind a token. -/
theorem Enough.behind (h : Enough room need fuel enough) (hless : room = less + 1) {other : Nat}
    (hother : other ≤ need + 32) : Enough less other fuel enough :=
  ⟨by have := h.fuel; omega, by have := h.enough; omega⟩

/-- Every reader spends one unit of fuel and then goes on. -/
theorem Enough.of_succ (h : Enough room (need + 1) (fuel + 1) enough) :
    ∃ less, enough = less + 1 ∧ Enough room need fuel less := by
  have hfuel := h.fuel
  have henough := h.enough
  exact ⟨enough - 1, by omega, ⟨by omega, by omega⟩⟩

/-- What a reader with some fuel takes, a reader with other fuel takes again if both is enough. -/
def Recurs (need : Nat) (closed : Bool) (before after : Nat) (reader : Nat → Parse α)
    (fuel : Nat) : Prop :=
  ∀ ⦃enough room⦄, Enough room need fuel enough →
    Takes closed before after room (reader fuel) (reader enough)

section

variable {closed : Bool} {before after : Nat} {reader : Nat → Parse α}

theorem Recurs.zero (hneed : 0 < need) : Recurs need closed before after reader 0 := by
  intro enough room hfuel
  have := hfuel.fuel
  omega

end

/-- The readers on the way from a level to the next token. -/
def Level.rank : Level → Nat
  | .either => 12
  | .both => 11
  | .negation => 10
  | .comparison => 9
  | .sum => 8
  | .join => 7
  | .product => 6
  | .power => 5

/-- What the readers of expressions take with some fuel. -/
structure Phrases (fuel : Nat) : Prop where
  expression : Recurs 14 false 0 0 expression fuel
  conditional : Recurs 13 false 0 0 conditional fuel
  conditions : ∀ holds, Recurs 1 false 0 0 (conditions · holds) fuel
  level : ∀ at_ : Level, Recurs at_.rank false 0 0 (level · at_) fuel
  links : Recurs 1 false 0 0 links fuel
  operators : ∀ at_ left, Recurs 1 false 0 0 (operators · at_ left) fuel
  signed : Recurs 4 false 0 0 signed fuel
  attached : Recurs 3 false 0 0 attached fuel
  sign : Recurs 2 false 0 0 sign fuel
  attachments : ∀ base, Recurs 2 false 0 0 (attachments · base) fuel
  subscript : ∀ base, Recurs 15 true 1 0 (subscript · base) fuel
  filters : ∀ operand, Recurs 1 false 0 0 (filters · operand) fuel
  arguments : Recurs 1 true 0 0 arguments fuel
  moreArguments : ∀ count named,
    Recurs (if count = 0 then 15 else 1) true 1 0 (moreArguments · count named) fuel
  furtherArguments : ∀ argument count named,
    Recurs 2 true 1 0 (furtherArguments · argument count named) fuel
  primary : Recurs 1 false 0 0 primary fuel
  tuple : Recurs 15 true 1 0 tuple fuel
  tupleItems : Recurs 1 true 1 0 tupleItems fuel
  listItems : ∀ first, Recurs (if first then 15 else 1) true 1 0 (listItems · first) fuel
  mapEntries : ∀ first, Recurs (if first then 15 else 1) true 1 0 (mapEntries · first) fuel

namespace Phrases

theorem expression_succ (h : Phrases fuel) : Recurs 14 false 0 0 Parse.expression (fuel + 1) := by
  intro enough room hfuel
  obtain ⟨enough, rfl, henough⟩ := hfuel.of_succ
  exact (h.conditional henough).nested

theorem conditional_succ (h : Phrases fuel) :
    Recurs 13 false 0 0 Parse.conditional (fuel + 1) := by
  intro enough room hfuel
  obtain ⟨enough, rfl, henough⟩ := hfuel.of_succ
  exact (h.level .either henough).bind fun first =>
    h.conditions first (henough.lower (by decide))

theorem conditions_succ (h : Phrases fuel) (holds : Term) :
    Recurs 1 false 0 0 (Parse.conditions · holds) (fuel + 1) := by
  intro enough room hfuel
  obtain ⟨enough, rfl, henough⟩ := hfuel.of_succ
  refine .acceptsWord "if" (fun less hless => ?_) (.pure holds)
  refine (h.level .either (henough.behind hless (by decide))).bind fun test => ?_
  refine .acceptsWord "else" (fun least hleast => ?_) ?_
  · refine ((h.conditional (henough.behind hless (by decide))).fewer (by omega)).bind fun term => ?_
    exact (h.conditions _ (henough.behind hless (by decide))).fewer (by omega)
  · exact h.conditions _ (henough.behind hless (by decide))

theorem level_succ (h : Phrases fuel) (at_ : Level) :
    Recurs at_.rank false 0 0 (Parse.level · at_) (fuel + 1) := by
  intro enough room hfuel
  cases at_ with
  | either =>
      obtain ⟨enough, rfl, henough⟩ := hfuel.of_succ
      exact (h.level .both henough).bind fun first =>
        h.operators .either first (henough.lower (by decide))
  | both =>
      obtain ⟨enough, rfl, henough⟩ := hfuel.of_succ
      exact (h.level .negation henough).bind fun first =>
        h.operators .both first (henough.lower (by decide))
  | negation =>
      obtain ⟨enough, rfl, henough⟩ := hfuel.of_succ
      refine .acceptsWord "not" (fun less hless => ?_) (h.level .comparison henough)
      exact (h.level .negation (henough.behind hless (by decide))).bind fun operand => .pure _
  | comparison =>
      obtain ⟨enough, rfl, henough⟩ := hfuel.of_succ
      refine (h.level .sum henough).bind fun first => ?_
      exact (h.links (henough.lower (by decide))).bind fun found => .pure _
  | sum =>
      obtain ⟨enough, rfl, henough⟩ := hfuel.of_succ
      exact (h.level .join henough).bind fun first =>
        h.operators .sum first (henough.lower (by decide))
  | join =>
      obtain ⟨enough, rfl, henough⟩ := hfuel.of_succ
      exact (h.level .product henough).bind fun first =>
        h.operators .join first (henough.lower (by decide))
  | product =>
      obtain ⟨enough, rfl, henough⟩ := hfuel.of_succ
      exact (h.level .power henough).bind fun first =>
        h.operators .product first (henough.lower (by decide))
  | power =>
      obtain ⟨enough, rfl, henough⟩ := hfuel.of_succ
      exact (h.signed henough).bind fun first =>
        h.operators .power first (henough.lower (by decide))

theorem links_succ (h : Phrases fuel) : Recurs 1 false 0 0 Parse.links (fuel + 1) := by
  intro enough room hfuel
  obtain ⟨enough, rfl, henough⟩ := hfuel.of_succ
  refine .takeComparison (.pure []) fun comparison less hless => ?_
  refine (h.level .sum (henough.behind hless (by decide))).bind fun right => ?_
  exact (h.links (henough.behind hless (by decide))).bind fun rest => .pure _

theorem signed_succ (h : Phrases fuel) : Recurs 4 false 0 0 Parse.signed (fuel + 1) := by
  intro enough room hfuel
  obtain ⟨enough, rfl, henough⟩ := hfuel.of_succ
  exact (h.attached henough).bind fun operand =>
    h.filters operand (henough.lower (by decide))

theorem attached_succ (h : Phrases fuel) : Recurs 3 false 0 0 Parse.attached (fuel + 1) := by
  intro enough room hfuel
  obtain ⟨enough, rfl, henough⟩ := hfuel.of_succ
  exact (h.sign henough).bind fun operand =>
    h.attachments operand henough

theorem sign_succ (h : Phrases fuel) : Recurs 2 false 0 0 Parse.sign (fuel + 1) := by
  intro enough room hfuel
  obtain ⟨enough, rfl, henough⟩ := hfuel.of_succ
  have hends : ¬Ends (some (.symbol .minus)) := nofun
  refine .accepts rfl hends (fun less hless => ?_) (h.primary henough).nested
  exact (h.sign (henough.behind hless (by decide))).bind fun operand => .pure _

theorem arguments_succ (h : Phrases fuel) : Recurs 1 true 0 0 Parse.arguments (fuel + 1) := by
  intro enough room hfuel
  obtain ⟨enough, rfl, henough⟩ := hfuel.of_succ
  refine .expect_bind "(" (.opening rfl 0) fun less hless => ?_
  exact h.moreArguments 0 false (henough.behind hless (by decide))

theorem furtherArguments_succ (h : Phrases fuel) (argument : Passing × Term) (count : Nat)
    (named : Bool) :
    Recurs 2 true 1 0 (Parse.furtherArguments · argument count named) (fuel + 1) := by
  intro enough room hfuel
  obtain ⟨enough, rfl, henough⟩ := hfuel.of_succ
  show Takes _ _ _ _ (Parse.furtherArguments _ _ _ _) (Parse.furtherArguments _ _ _ _)
  unfold Parse.furtherArguments
  by_cases hcount : argumentLimit ≤ count
  · simp only [if_pos hcount]
    exact .of_fails fun _ => ⟨_, rfl⟩
  · simp only [if_neg hcount]
    exact (h.moreArguments (count + 1) named henough).thenPure

/-- What is maybe left out between brackets. -/
theorem optional (h : Phrases fuel) {β : Type} {next again : Option Term → Parse β}
    (henough : Enough room 14 fuel enough)
    (hnext : ∀ part, Takes true 1 0 room (next part) (again part)) (absent : Bool) :
    Takes true 1 0 room
      (if absent = true then Pure.pure none >>= next
        else Parse.expression fuel >>= fun term => Pure.pure (some term) >>= next)
      (if absent = true then Pure.pure none >>= again
        else Parse.expression enough >>= fun term => Pure.pure (some term) >>= again) := by
  cases absent with
  | true => exact hnext none
  | false => exact ((h.expression henough).around 1).bind fun term => hnext (some term)

theorem subscript_succ (h : Phrases fuel) (base : Term) :
    Recurs 15 true 1 0 (Parse.subscript · base) (fuel + 1) := by
  intro enough room hfuel
  obtain ⟨enough, rfl, henough⟩ := hfuel.of_succ
  refine .glimpsesClosed fun found => h.optional henough (fun start => ?_) found
  refine .acceptsClosed rfl (fun less hless => ?_) ?_
  · refine .glimpsesClosed fun atClose => .glimpsesClosed fun atColon => ?_
    refine h.optional (henough.behind hless (by decide)) (fun stop => ?_) (atClose || atColon)
    have hclose (step : Option Term) : Takes true 1 0 less
        (expect .bracketClose "]" >>= fun _ => Pure.pure (Term.slice base start stop step))
        (expect .bracketClose "]" >>= fun _ => Pure.pure (Term.slice base start stop step)) :=
      (Takes.expect "]" (.closing rfl 0)).thenPure
    refine .acceptsClosed rfl (fun least hleast => ?_) (hclose none)
    have hbehind : Enough less 14 fuel enough := henough.behind hless (by decide)
    refine .glimpsesClosed fun atEnd => h.optional (hbehind.behind hleast (by decide)) ?_ atEnd
    exact fun step => (hclose step).fewer (by omega)
  · cases start with
    | some index => exact (Takes.expect "]" (.closing rfl 0)).thenPure
    | none => exact (Takes.expect "]" (.closing rfl 0)).bind fun _ => .fail _

/-- The arguments from one on. -/
def argumentsFrom (fuel count : Nat) (named : Bool) : Parse (List (Passing × Term)) := do
  if ← accepts .power then
    let term ← Parse.expression fuel
    Parse.furtherArguments fuel (.spreadNamed, term) count true
  else if ← accepts .times then
    let term ← Parse.expression fuel
    Parse.furtherArguments fuel (.spread, term) count named
  else
    let term ← Parse.expression fuel
    match term, ← sees .assign with
    | .name parameter, true => do
        skip
        let value ← Parse.expression fuel
        Parse.furtherArguments fuel (.name parameter, value) count true
    | _, _ =>
        if named then fail "non-keyword arg after keyword arg"
        Parse.furtherArguments fuel (.position, term) count named

/-- What an argument is, and the arguments behind it. -/
theorem argument (h : Phrases fuel) (henough : Enough room 14 fuel enough) (count : Nat)
    (named : Bool) (make : Term → Passing × Term) :
    Takes true 1 0 room
      (Parse.expression fuel >>= fun term => Parse.furtherArguments fuel (make term) count named)
      (Parse.expression enough >>= fun term =>
        Parse.furtherArguments enough (make term) count named) :=
  ((h.expression henough).around 1).bind fun term =>
    h.furtherArguments (make term) count named (henough.lower (by decide))

theorem argumentsFrom_takes (h : Phrases fuel) (henough : Enough room 14 fuel enough)
    (count : Nat) (named : Bool) :
    Takes true 1 0 room (argumentsFrom fuel count named) (argumentsFrom enough count named) := by
  refine .acceptsClosed rfl (fun less hless => ?_) (.acceptsClosed rfl (fun less hless => ?_) ?_)
  · exact h.argument (henough.behind hless (by decide)) count true (.spreadNamed, ·)
  · exact h.argument (henough.behind hless (by decide)) count named (.spread, ·)
  refine ((h.expression henough).around 1).bind fun term => ?_
  have hposition : Takes true 1 0 room
      (if named = true then
        fail "non-keyword arg after keyword arg" >>= fun _ : Unit =>
          Parse.furtherArguments fuel (.position, term) count named
        else Parse.furtherArguments fuel (.position, term) count named)
      (if named = true then
        fail "non-keyword arg after keyword arg" >>= fun _ : Unit =>
          Parse.furtherArguments enough (.position, term) count named
        else Parse.furtherArguments enough (.position, term) count named) := by
    cases named with
    | true => exact .of_fails fun _ => ⟨_, rfl⟩
    | false => exact h.furtherArguments (.position, term) count false (henough.lower (by decide))
  refine .sees ?_ ?_
  · cases term with
    | name parameter =>
        refine .skip (.mark rfl 1) fun less hless => ?_
        exact h.argument (henough.behind hless (by decide)) count true (.name parameter, ·)
    | _ => exact .of_takes hposition
  · cases term with
    | _ => exact hposition

theorem moreArguments_succ (h : Phrases fuel) (count : Nat) (named : Bool) :
    Recurs (if count = 0 then 15 else 1) true 1 0 (Parse.moreArguments · count named)
      (fuel + 1) := by
  intro enough room hfuel
  cases count with
  | zero =>
      obtain ⟨enough, rfl, henough⟩ := hfuel.of_succ
      exact .acceptsLast (.closing rfl 0) ⟨rfl, rfl⟩ (h.argumentsFrom_takes henough 0 named)
  | succ count =>
      obtain ⟨enough, rfl, henough⟩ := hfuel.of_succ
      refine .acceptsLast (.closing rfl 0) ⟨rfl, rfl⟩ ?_
      refine .expect_bind "," (.mark rfl 1) fun less hless => ?_
      refine .acceptsLast (.closing rfl 0) ⟨rfl, rfl⟩ ?_
      exact h.argumentsFrom_takes (henough.behind hless (by decide)) (count + 1) named

theorem tuple_succ (h : Phrases fuel) : Recurs 15 true 1 0 Parse.tuple (fuel + 1) := by
  intro enough room hfuel
  obtain ⟨enough, rfl, henough⟩ := hfuel.of_succ
  refine .acceptsLast (.closing rfl 0) ⟨rfl, rfl⟩ ?_
  refine ((h.expression henough).around 1).bind fun first => ?_
  refine .sees ?_ ?_
  · exact .of_takes (h.tupleItems (henough.lower (by decide))).thenPure
  · exact (Takes.expect ")" (.closing rfl 0)).thenPure

theorem tupleItems_succ (h : Phrases fuel) : Recurs 1 true 1 0 Parse.tupleItems (fuel + 1) := by
  intro enough room hfuel
  obtain ⟨enough, rfl, henough⟩ := hfuel.of_succ
  refine .acceptsLast (.closing rfl 0) ⟨rfl, rfl⟩ ?_
  refine .expect_bind "," (.mark rfl 1) fun less hless => ?_
  refine .acceptsLast (.closing rfl 0) ⟨rfl, rfl⟩ ?_
  refine ((h.expression (henough.behind hless (by decide))).around 1).bind fun item => ?_
  exact (h.tupleItems (henough.behind hless (by decide))).thenPure

theorem listItems_succ (h : Phrases fuel) (first : Bool) :
    Recurs (if first then 15 else 1) true 1 0 (Parse.listItems · first) (fuel + 1) := by
  intro enough room hfuel
  cases first with
  | true =>
      obtain ⟨enough, rfl, henough⟩ := hfuel.of_succ
      refine .acceptsLast (.closing rfl 0) ⟨rfl, rfl⟩ ?_
      refine ((h.expression henough).around 1).bind fun item => ?_
      exact (h.listItems false (henough.lower (by decide))).thenPure
  | false =>
      obtain ⟨enough, rfl, henough⟩ := hfuel.of_succ
      refine .acceptsLast (.closing rfl 0) ⟨rfl, rfl⟩ ?_
      refine .expect_bind "," (.mark rfl 1) fun less hless => ?_
      refine .acceptsLast (.closing rfl 0) ⟨rfl, rfl⟩ ?_
      refine ((h.expression (henough.behind hless (by decide))).around 1).bind fun item => ?_
      exact (h.listItems false (henough.behind hless (by decide))).thenPure

/-- The entries of a map from one on. -/
def entriesFrom (fuel : Nat) : Parse (List (Term × Term)) := do
  let key ← Parse.expression fuel
  expect .colon ":"
  let value ← Parse.expression fuel
  let rest ← Parse.mapEntries fuel false
  return (key, value) :: rest

theorem entriesFrom_takes (h : Phrases fuel) (henough : Enough room 14 fuel enough) :
    Takes true 1 0 room (entriesFrom fuel) (entriesFrom enough) := by
  refine ((h.expression henough).around 1).bind fun key => ?_
  refine .expect_bind ":" (.mark rfl 1) fun less hless => ?_
  refine ((h.expression (henough.behind hless (by decide))).around 1).bind fun value => ?_
  exact (h.mapEntries false (henough.behind hless (by decide))).thenPure

theorem mapEntries_succ (h : Phrases fuel) (first : Bool) :
    Recurs (if first then 15 else 1) true 1 0 (Parse.mapEntries · first) (fuel + 1) := by
  intro enough room hfuel
  cases first with
  | true =>
      obtain ⟨enough, rfl, henough⟩ := hfuel.of_succ
      exact .acceptsLast (.closing rfl 0) ⟨rfl, rfl⟩ (h.entriesFrom_takes henough)
  | false =>
      obtain ⟨enough, rfl, henough⟩ := hfuel.of_succ
      refine .acceptsLast (.closing rfl 0) ⟨rfl, rfl⟩ ?_
      refine .expect_bind "," (.mark rfl 1) fun less hless => ?_
      refine .acceptsLast (.closing rfl 0) ⟨rfl, rfl⟩ ?_
      exact h.entriesFrom_takes (henough.behind hless (by decide))

/-- What stands for an operator is no bracket. -/
theorem nesting_of_operator? {at_ : Level} {symbol : Symbol} {operator : Operator}
    (h : at_.operator? symbol = some operator) : symbol.nesting = 0 := by
  cases at_ <;> cases symbol <;> first | rfl | cases h

theorem operators_succ (h : Phrases fuel) (at_ : Level) (left : Term) :
    Recurs 1 false 0 0 (Parse.operators · at_ left) (fuel + 1) := by
  intro enough room hfuel
  obtain ⟨enough, rfl, henough⟩ := hfuel.of_succ
  show Takes _ _ _ _ (Parse.operators _ _ _) (Parse.operators _ _ _)
  unfold Parse.operators
  refine peek_looks.takesOpen (fun token? hend => ?_) (.pure left) fun token _ => ?_
  · cases hend <;> cases at_ <;> exact ⟨rfl, rfl⟩
  cases token with
  | symbol symbol =>
      dsimp only
      cases hfound : at_.operator? symbol with
      | none => exact .of_takes (.pure left)
      | some operator =>
          refine .skip (.mark (nesting_of_operator? hfound) 0) fun less hless => ?_
          have hrest (right : Term) : Takes false 0 0 less
              (Parse.operators fuel at_ (.operation operator left right))
              (Parse.operators enough at_ (.operation operator left right)) :=
            h.operators at_ _ (henough.behind hless (by decide))
          cases at_ with
          | sum => exact (h.level .join (henough.behind hless (by decide))).bind hrest
          | join => exact (h.level .product (henough.behind hless (by decide))).bind hrest
          | product => exact (h.level .power (henough.behind hless (by decide))).bind hrest
          | _ => exact (h.signed (henough.behind hless (by decide))).bind hrest
  | word word =>
      split
      next heq =>
        obtain rfl := Token.word.inj (Option.some.inj heq)
        refine .skip (.word "or" 0) fun less hless => ?_
        exact (h.level .both (henough.behind hless (by decide))).bind fun right =>
          h.operators .either _ (henough.behind hless (by decide))
      next heq =>
        obtain rfl := Token.word.inj (Option.some.inj heq)
        refine .skip (.word "and" 0) fun less hless => ?_
        exact (h.level .negation (henough.behind hless (by decide))).bind fun right =>
          h.operators .both _ (henough.behind hless (by decide))
      next heq => cases heq
      next => exact .of_takes (.pure left)
  | _ => exact .of_takes (.pure left)

theorem attachments_succ (h : Phrases fuel) (base : Term) :
    Recurs 2 false 0 0 (Parse.attachments · base) (fuel + 1) := by
  intro enough room hfuel
  obtain ⟨enough, rfl, henough⟩ := hfuel.of_succ
  show Takes _ _ _ _ (Parse.attachments _ _) (Parse.attachments _ _)
  unfold Parse.attachments
  refine peek_looks.takesOpen (fun token? hend => ?_) (.pure base) fun token _ => ?_
  · cases hend <;> exact ⟨rfl, rfl⟩
  split
  next heq =>
    obtain rfl := Option.some.inj heq
    refine .skip (.mark rfl 0) fun less hless => ?_
    refine .next (fun _ => ⟨_, rfl⟩) fun token => ?_
    cases token with
    | word fieldName =>
        refine .inr ⟨0, .word fieldName 0, fun least hleast => ?_⟩
        exact (h.attachments _ (henough.behind hless (by decide))).fewer (by omega)
    | int n =>
        refine .inr ⟨0, .int n 0, fun least hleast => ?_⟩
        exact (h.attachments _ (henough.behind hless (by decide))).fewer (by omega)
    | _ => exact .inl fun _ => ⟨_, rfl⟩
  next heq =>
    obtain rfl := Option.some.inj heq
    refine .skip (.opening rfl 0) fun less hless => ?_
    exact (h.subscript base (henough.behind hless (by decide))).bind fun term =>
      h.attachments term (henough.behind hless (by decide))
  next heq =>
    exact .of_takes ((h.arguments henough).bindBehind fun arguments less hless =>
      h.attachments _ (henough.behind hless (by decide)))
  next => exact .of_takes (.pure base)

theorem filters_succ (h : Phrases fuel) (operand : Term) :
    Recurs 1 false 0 0 (Parse.filters · operand) (fuel + 1) := by
  intro enough room hfuel
  obtain ⟨enough, rfl, henough⟩ := hfuel.of_succ
  have hnames (least : Nat) (hleast : least < room) : least < fuel ∧ least < enough := by
    have hfuel := henough.fuel
    have henough := henough.enough
    omega
  have hends : ¬Ends (some (.symbol .pipe)) := nofun
  refine .accepts rfl hends (fun less hless => .name fun word least hleast => ?_) ?_
  · have hbehind : Enough least 1 fuel enough :=
      (henough.behind hless (by decide : 32 ≤ 0 + 32)).behind hleast (by decide)
    have hleast := hnames least (by omega)
    refine (Takes.dottedRest word hleast.1 hleast.2).bind fun filter => ?_
    refine .glimpses nofun fun found => ?_
    cases found with
    | true => exact (h.arguments hbehind).bind fun arguments => h.filters _ hbehind
    | false => exact h.filters _ hbehind
  · refine .acceptsWord "is" (fun less hless => .passesWord "not" fun negated => ?_) (.pure operand)
    refine .name fun word least hleast => ?_
    have hbehind : Enough least 3 fuel enough :=
      (henough.behind hless (by decide : 32 ≤ 0 + 32)).behind hleast (by decide)
    have hleast := hnames least (by omega)
    refine (Takes.dottedRest word hleast.1 hleast.2).bind fun test => ?_
    let result (fuel : Nat) (arguments : List (Passing × Term)) : Parse Term :=
      let found := Term.test test operand arguments
      Parse.filters fuel (if negated then .not found else found)
    have hrest (arguments : List (Passing × Term)) :
        Takes false 0 0 least (result fuel arguments) (result enough arguments) :=
      h.filters _ (hbehind.lower (by decide))
    refine glance_looks.takesOpen (fun token? hend => ?_) (hrest []) fun token _ => ?_
    · cases hend <;> exact ⟨rfl, rfl⟩
    have hargument : Takes false 0 0 least
        (if startsTestArgument token = true then Parse.attached fuel >>= fun argument =>
          result fuel [(.position, argument)] else result fuel [])
        (if startsTestArgument token = true then Parse.attached enough >>= fun argument =>
          result enough [(.position, argument)] else result enough []) := by
      cases startsTestArgument token with
      | true => exact (h.attached hbehind).bind fun argument => hrest _
      | false => exact hrest []
    cases token with
    | symbol symbol =>
        cases symbol with
        | parenOpen => exact .of_takes ((h.arguments (hbehind.lower (by decide))).bind hrest)
        | _ => exact .of_takes hargument
    | _ => exact .of_takes hargument

theorem primary_succ (h : Phrases fuel) : Recurs 1 false 0 0 Parse.primary (fuel + 1) := by
  intro enough room hfuel
  obtain ⟨enough, rfl, henough⟩ := hfuel.of_succ
  refine .next (fun _ => ⟨_, rfl⟩) fun token => ?_
  cases token with
  | word w =>
      refine .inr ⟨0, .word w 0, fun less hless => ?_⟩
      dsimp only
      split
      next => exact .pure _
      next => split <;> [exact .pure _; split <;> exact .pure _]
  | text text escaped =>
      refine .inr ⟨0, .text text escaped 0, fun less hless => ?_⟩
      have hfuel := henough.fuel
      have henough := henough.enough
      have hjoin : Takes false 0 0 less
          (adjacentTexts fuel text >>= fun text => Pure.pure (Term.literal (.text text)))
          (adjacentTexts enough text >>= fun text => Pure.pure (Term.literal (.text text))) :=
        (Takes.adjacentTexts text (by omega) (by omega)).bind fun text => .pure _
      cases escaped with
      | true => exact hjoin
      | false =>
          refine glance_looks.takesOpen (fun token? hend => ?_)
            (.pure (.literal (.text text))) fun token _ => ?_
          · cases hend <;> exact ⟨rfl, rfl⟩
          split
          next => exact .of_takes hjoin
          next => exact .of_takes (.pure _)
  | int n => exact .inr ⟨0, .int n 0, fun _ _ => .pure _⟩
  | float x => exact .inr ⟨0, .float x 0, fun _ _ => .pure _⟩
  | symbol symbol =>
      cases symbol with
      | parenOpen =>
          refine .inr ⟨1, .opening rfl 0, fun less hless => ?_⟩
          exact (h.tuple (henough.behind hless (by decide))).opened
      | bracketOpen =>
          refine .inr ⟨1, .opening rfl 0, fun less hless => ?_⟩
          exact (h.listItems true (henough.behind hless (by decide))).thenPure.opened
      | braceOpen =>
          refine .inr ⟨1, .opening rfl 0, fun less hless => ?_⟩
          exact (h.mapEntries true (henough.behind hless (by decide))).thenPure.opened
      | _ => exact .inl fun _ => ⟨_, rfl⟩
  | _ => exact .inl fun _ => ⟨_, rfl⟩

end Phrases

/-- What the readers of expressions take. -/
theorem phrases (fuel : Nat) : Phrases fuel := by
  induction fuel with
  | zero =>
      constructor
      case level => exact fun at_ => Recurs.zero (by cases at_ <;> decide)
      case moreArguments => exact fun count named => Recurs.zero (by split <;> decide)
      case listItems => exact fun first => Recurs.zero (by split <;> decide)
      case mapEntries => exact fun first => Recurs.zero (by split <;> decide)
      all_goals intros; exact Recurs.zero (by decide)
  | succ fuel ih =>
      exact ⟨ih.expression_succ, ih.conditional_succ, ih.conditions_succ, ih.level_succ,
        ih.links_succ, ih.operators_succ, ih.signed_succ, ih.attached_succ, ih.sign_succ,
        ih.attachments_succ, ih.subscript_succ, ih.filters_succ, ih.arguments_succ,
        ih.moreArguments_succ, ih.furtherArguments_succ, ih.primary_succ, ih.tuple_succ,
        ih.tupleItems_succ, ih.listItems_succ, ih.mapEntries_succ⟩

end Parse

end RecordRecipe.Expr
