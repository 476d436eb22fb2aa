import RecordRecipe.Proofs.Expr.Path

/-!
# What readers take

A reader of tokens looks at most one token ahead of those that it takes, does not care how deeply it
is nested as long as that is not too deep, and takes brackets with what is between them. `Takes`
says so of a reader, with enough fuel, and has a rule for every way in which readers are put
together: what has been taken once is taken again in front of other tokens that end it in the same
way. Where tokens run out, all tokens end an expression that cannot stand inside of one.
-/

namespace RecordRecipe.Expr

/-! ## Brackets -/

/-- A token inside a tag leads from one number of open brackets to another. -/
inductive Token.Moves : Token → Nat → Nat → Prop where
  | opening {symbol : Symbol} (h : symbol.nesting = 1) (n : Nat) : Moves (.symbol symbol) n (n + 1)
  | closing {symbol : Symbol} (h : symbol.nesting = -1) (n : Nat) : Moves (.symbol symbol) (n + 1) n
  | mark {symbol : Symbol} (h : symbol.nesting = 0) (n : Nat) : Moves (.symbol symbol) n n
  | word (name : String) (n : Nat) : Moves (.word name) n n
  | text (content : String) (escaped : Bool) (n : Nat) : Moves (.text content escaped) n n
  | int (value n : Nat) : Moves (.int value) n n
  | float (value : Float) (n : Nat) : Moves (.float value) n n

/-- Tokens inside a tag lead from one number of open brackets to another, and none of them closes a
bracket where none is open. -/
inductive Brackets : Nat → Nat → List Token → Prop where
  | nil (n : Nat) : Brackets n n []
  | cons {before middle after : Nat} {token : Token} {rest : List Token}
      (hmoves : token.Moves before middle) (hrest : Brackets middle after rest) :
      Brackets before after (token :: rest)

/-- More brackets may be open around a token. -/
theorem Token.Moves.around {token : Token} {before after : Nat} (h : token.Moves before after)
    (n : Nat) : token.Moves (before + n) (after + n) := by
  cases h with
  | opening h => exact Nat.add_right_comm before 1 n ▸ .opening h (before + n)
  | closing h => exact Nat.add_right_comm after 1 n ▸ .closing h (after + n)
  | mark h => exact .mark h (before + n)
  | word name => exact .word name (before + n)
  | text content escaped => exact .text content escaped (before + n)
  | int value => exact .int value (before + n)
  | float value => exact .float value (before + n)

namespace Brackets

variable {before middle after : Nat} {tokens more : List Token}

theorem append (h : Brackets before middle tokens) (hmore : Brackets middle after more) :
    Brackets before after (tokens ++ more) := by
  induction h with
  | nil => exact hmore
  | cons hmoves _ ih => exact .cons hmoves (ih hmore)

/-- More brackets may be open around the tokens. -/
theorem around (h : Brackets before after tokens) (n : Nat) :
    Brackets (before + n) (after + n) tokens := by
  induction h with
  | nil => exact .nil _
  | cons hmoves _ ih => exact .cons (hmoves.around n) ih

end Brackets

namespace Parse

variable {α β : Type}

/-! ## Readers that take something -/

/-- What an expression ends at, whatever stands around it: nothing at all, or a token that cannot
stand inside an expression unless there are brackets around it. -/
inductive Ends : Option Token → Prop where
  | nothing : Ends none
  | valueEnd : Ends (some .valueEnd)
  | statementEnd : Ends (some .statementEnd)
  | parenClose : Ends (some (.symbol .parenClose))
  | comma : Ends (some (.symbol .comma))

/-- An expression ends in the same way in front of some tokens and in front of others. -/
def SameEnd (tokens others : List Token) : Prop :=
  tokens.head? = others.head? ∨ Ends tokens.head? ∧ Ends others.head?

/-- A reader takes some tokens again, in front of others and nested less deeply. One that does not
look ahead does so in front of any tokens. -/
def Repeats (start : Option Token → Prop) (closed : Bool) (room : Nat) (again : Parse α) (a : α)
    (taken rest : List Token) (depth : Nat) : Prop :=
  ∀ behind other, start (taken ++ behind).head? → (taken ++ behind).length ≤ room →
    other ≤ depth → closed = true ∨ SameEnd rest behind →
      again (standing (taken ++ behind) none other) = .ok (a, standing behind none other)

/-- Of some tokens, and maybe a fault behind them, a reader has taken the first ones. -/
structure Taken (start : Option Token → Prop) (closed : Bool) (before after room : Nat)
    (again : Parse α) (a : α) (tokens : List Token) (fault : Option Fault) (depth : Nat)
    (last : Reading) (taken rest : List Token) (left : Option Fault) : Prop where
  tokens : tokens = taken ++ rest
  last : last = standing rest left depth
  left : left = fault ∨ left = none
  brackets : Brackets before after taken
  some : closed = true → taken ≠ []
  repeats : fault = none → Repeats start closed room again a taken rest depth

/-- What a reader does in front of tokens that start in some way, of which there are not too many:
it fails for the reason that the text is malformed or for the fault behind the tokens, or it takes
some of them, and another reader takes them again. -/
structure TakesFrom (start : Option Token → Prop) (closed : Bool) (before after room : Nat)
    (reader again : Parse α) : Prop where
  error : ∀ {tokens fault depth found}, start tokens.head? → tokens.length ≤ room →
    reader (standing tokens fault depth) = .error found →
      found.kind = .malformed ∨ fault = some found
  ok : ∀ {tokens fault depth a last}, start tokens.head? → tokens.length ≤ room →
    reader (standing tokens fault depth) = .ok (a, last) →
      ∃ taken rest left,
        Taken start closed before after room again a tokens fault depth last taken rest left

/-- What a reader does in front of any tokens of which there are not too many. -/
abbrev Takes (closed : Bool) (before after room : Nat) (reader again : Parse α) : Prop :=
  TakesFrom (fun _ => True) closed before after room reader again

/-- A reader fails wherever it stands. -/
def Fails (reader : Parse α) : Prop :=
  ∀ reading, ∃ detail, reader reading = .error (.malformed detail)

theorem fails_fail (detail : String) : Fails (fail detail : Parse α) :=
  fun _ => ⟨detail, rfl⟩

/-- A sequence that gives something has gone through both of its parts. -/
theorem bind_eq_ok {first : Parse α} {next : α → Parse β} {reading last : Reading} {b : β}
    (h : (first >>= next) reading = .ok (b, last)) :
    ∃ a middle, first reading = .ok (a, middle) ∧ next a middle = .ok (b, last) := by
  change (first reading >>= fun found => next found.1 found.2) = _ at h
  cases hfirst : first reading with
  | error found => rw [hfirst] at h; cases h
  | ok found => rw [hfirst] at h; exact ⟨found.1, found.2, rfl, h⟩

/-- A sequence that fails does so in one of its parts. -/
theorem bind_eq_error {first : Parse α} {next : α → Parse β} {reading : Reading} {found : Fault}
    (h : (first >>= next) reading = .error found) : first reading = .error found ∨
      ∃ a middle, first reading = .ok (a, middle) ∧ next a middle = .error found := by
  change (first reading >>= fun result => next result.1 result.2) = _ at h
  cases hfirst : first reading with
  | error other => rw [hfirst] at h; exact .inl (congrArg _ (Except.error.inj h))
  | ok result => rw [hfirst] at h; exact .inr ⟨result.1, result.2, rfl, h⟩

/-- A construct that is nested too deeply is not read. -/
theorem nested_of_le {construct : Parse α} {tokens : List Token} {fault : Option Fault}
    {depth : Nat} (hdepth : nestingLimit ≤ depth) :
    nested construct (standing tokens fault depth) =
      .error (.malformed "template exceeds maximum recursion limits") := by
  unfold nested
  change (ite (nestingLimit ≤ depth) _ _ : Parse α) (standing tokens fault depth) = _
  rw [if_pos hdepth]
  rfl

namespace TakesFrom

variable {start : Option Token → Prop} {closed ahead : Bool} {before middle after room : Nat}
  {reader again : Parse α}

/-- A reader that fails takes nothing. -/
theorem of_fails (h : Fails reader) : TakesFrom start closed before after room reader again where
  error := by
    intro tokens fault depth found _ _ hfound
    obtain ⟨detail, hdetail⟩ := h (standing tokens fault depth)
    obtain rfl := Except.error.inj (hdetail.symm.trans hfound)
    exact .inl rfl
  ok := by
    intro tokens fault depth a last _ _ hlast
    obtain ⟨detail, hdetail⟩ := h (standing tokens fault depth)
    rw [hdetail] at hlast
    cases hlast

theorem fail (detail : String) :
    TakesFrom start closed before after room (fail detail : Parse α) again :=
  of_fails (fails_fail detail)

theorem pure (a : α) : TakesFrom start false before before room (pure a) (pure a) where
  error := by
    intro _ _ _ _ _ _ h
    cases h
  ok := by
    intro tokens fault depth b last _ _ h
    cases h
    exact ⟨[], tokens, fault, rfl, rfl, .inl rfl, .nil before, nofun, fun _ _ _ _ _ _ _ => rfl⟩

/-- What is taken in front of any tokens is taken in front of those that start in some way. -/
theorem of_takes (h : Takes closed before after room reader again) :
    TakesFrom start closed before after room reader again where
  error := fun _ => h.error trivial
  ok := by
    intro tokens fault depth a last _ hroom hlast
    obtain ⟨taken, rest, left, htaken⟩ := h.ok trivial hroom hlast
    exact ⟨taken, rest, left, htaken.tokens, htaken.last, htaken.left, htaken.brackets, htaken.some,
      fun hfault behind other _ => htaken.repeats hfault behind other trivial⟩

/-- A reader that does not look ahead may be taken for one that does. -/
theorem opened (h : TakesFrom start true before after room reader again) :
    TakesFrom start closed before after room reader again where
  error := h.error
  ok := by
    intro tokens fault depth a last hstart hroom hlast
    obtain ⟨taken, rest, left, htaken⟩ := h.ok hstart hroom hlast
    exact ⟨taken, rest, left, htaken.tokens, htaken.last, htaken.left, htaken.brackets,
      fun _ => htaken.some rfl, fun hfault behind other hbehind hlength hother _ =>
        htaken.repeats hfault behind other hbehind hlength hother (.inl rfl)⟩

/-- More brackets may be open around what is taken. -/
theorem around (h : TakesFrom start closed before after room reader again) (n : Nat) :
    TakesFrom start closed (before + n) (after + n) room reader again where
  error := h.error
  ok := by
    intro tokens fault depth a last hstart hroom hlast
    obtain ⟨taken, rest, left, htaken⟩ := h.ok hstart hroom hlast
    exact ⟨taken, rest, left, htaken.tokens, htaken.last, htaken.left, htaken.brackets.around n,
      htaken.some, htaken.repeats⟩

/-- There may be fewer tokens. -/
theorem fewer (h : TakesFrom start closed before after room reader again) {less : Nat}
    (hless : less ≤ room) : TakesFrom start closed before after less reader again where
  error := fun hstart hroom => h.error hstart (Nat.le_trans hroom hless)
  ok := by
    intro tokens fault depth a last hstart hroom hlast
    obtain ⟨taken, rest, left, htaken⟩ := h.ok hstart (Nat.le_trans hroom hless) hlast
    exact ⟨taken, rest, left, htaken.tokens, htaken.last, htaken.left, htaken.brackets,
      htaken.some, fun hfault behind other hbehind hlength =>
        htaken.repeats hfault behind other hbehind (Nat.le_trans hlength hless)⟩

/-- A sequence takes what its first part takes and then what its second part takes. Behind a first
part that takes something there are fewer tokens. -/
theorem bindBehind {next again' : α → Parse β}
    (hfirst : TakesFrom start ahead before middle room reader again)
    (hnext : ∀ a less, room = less + ahead.toNat →
      Takes closed middle after less (next a) (again' a)) :
    TakesFrom start closed before after room (reader >>= next) (again >>= again') := by
  have hahead {taken : List Token} (h : ahead = true → taken ≠ []) :
      ahead.toNat ≤ taken.length := by
    cases ahead with
    | false => exact Nat.zero_le _
    | true => exact List.length_pos_iff.mpr (h rfl)
  constructor
  · intro tokens fault depth found hstart hroom hfound
    obtain hfound | ⟨a, reading, hread, hfound⟩ := bind_eq_error hfound
    · exact hfirst.error hstart hroom hfound
    · obtain ⟨taken, rest, left, htaken⟩ := hfirst.ok hstart hroom hread
      have htakes := hahead htaken.some
      rw [htaken.tokens, List.length_append] at hroom
      rw [htaken.last] at hfound
      obtain hkind | hleft :=
        (hnext a (room - ahead.toNat) (by omega)).error trivial (by omega) hfound
      · exact .inl hkind
      · obtain hsame | hnone := htaken.left
        · exact .inr (hsame ▸ hleft)
        · cases hnone.symm.trans hleft
  · intro tokens fault depth b last hstart hroom hlast
    obtain ⟨a, reading, hread, hlast⟩ := bind_eq_ok hlast
    obtain ⟨taken, rest, left, htaken⟩ := hfirst.ok hstart hroom hread
    have htakes := hahead htaken.some
    rw [htaken.tokens, List.length_append] at hroom
    rw [htaken.last] at hlast
    obtain ⟨more, rest', left', hmore⟩ :=
      (hnext a (room - ahead.toNat) (by omega)).ok trivial (by omega) hlast
    refine ⟨taken ++ more, rest', left', ?_, hmore.last, ?_, htaken.brackets.append hmore.brackets,
      fun hclosed hnil => hmore.some hclosed (List.append_eq_nil_iff.mp hnil).2, ?_⟩
    · rw [htaken.tokens, hmore.tokens, List.append_assoc]
    · obtain hsame | hnone := hmore.left
      · exact hsame ▸ htaken.left
      · exact .inr hnone
    · intro hfault behind other hbehind hlength hother hend
      rw [List.append_assoc] at hbehind hlength ⊢
      have hnone : left = none := htaken.left.elim (fun h => h.trans hfault) id
      -- What is ahead of the first part is what the second part takes, or else what is behind both.
      have hsame : SameEnd rest (more ++ behind) := by
        rw [hmore.tokens]
        cases more with
        | nil =>
            obtain hclosed | hend := hend
            · exact absurd rfl (hmore.some hclosed)
            · exact hend
        | cons token more => exact .inl rfl
      have hagain := htaken.repeats hfault (more ++ behind) other hbehind hlength hother
        (.inr hsame)
      rw [List.length_append] at hlength
      rw [bind_of_eq_ok hagain]
      exact hmore.repeats hnone behind other trivial (by omega) hother hend

/-- A sequence takes what its first part takes and then what its second part takes. -/
theorem bind {next again' : α → Parse β}
    (hfirst : TakesFrom start ahead before middle room reader again)
    (hnext : ∀ a, Takes closed middle after room (next a) (again' a)) :
    TakesFrom start closed before after room (reader >>= next) (again >>= again') :=
  hfirst.bindBehind fun a less hless => (hnext a).fewer (by omega)

/-- Something is made of what a reader that does not look ahead gives. -/
theorem thenPure {make : α → β}
    (h : TakesFrom start true before after room reader again) :
    TakesFrom start true before after room (reader >>= fun a => Pure.pure (make a))
      (again >>= fun a => Pure.pure (make a)) where
  error := by
    intro tokens fault depth found hstart hroom hfound
    obtain hfound | ⟨a, reading, -, hfound⟩ := bind_eq_error hfound
    · exact h.error hstart hroom hfound
    · cases hfound
  ok := by
    intro tokens fault depth b last hstart hroom hlast
    obtain ⟨a, reading, hread, hlast⟩ := bind_eq_ok hlast
    cases hlast
    obtain ⟨taken, rest, left, htaken⟩ := h.ok hstart hroom hread
    refine ⟨taken, rest, left, htaken.tokens, htaken.last, htaken.left, htaken.brackets,
      htaken.some, fun hfault behind other hbehind hlength hother hend => ?_⟩
    rw [bind_of_eq_ok (htaken.repeats hfault behind other hbehind hlength hother hend)]
    rfl

/-- What is nested takes what it takes otherwise, if it is not nested too deeply. -/
theorem nested (h : TakesFrom start closed before after room reader again) :
    TakesFrom start closed before after room (nested reader) (nested again) := by
  constructor
  · intro tokens fault depth found hstart hroom hfound
    by_cases hdepth : nestingLimit ≤ depth
    · rw [nested_of_le hdepth] at hfound
      exact .inl (Except.error.inj hfound ▸ rfl)
    · rw [nested_of_lt (by omega)] at hfound
      obtain hfound | ⟨a, reading, -, hfound⟩ := bind_eq_error hfound
      · exact h.error hstart hroom hfound
      · cases hfound
  · intro tokens fault depth a last hstart hroom hlast
    by_cases hdepth : nestingLimit ≤ depth
    · rw [nested_of_le hdepth] at hlast
      cases hlast
    · rw [nested_of_lt (by omega)] at hlast
      obtain ⟨a, reading, hread, hlast⟩ := bind_eq_ok hlast
      cases hlast
      obtain ⟨taken, rest, left, htaken⟩ := h.ok hstart hroom hread
      refine ⟨taken, rest, left, htaken.tokens, ?_, htaken.left, htaken.brackets, htaken.some, ?_⟩
      · rw [htaken.last]
        rfl
      · intro hfault behind other hbehind hlength hother hend
        rw [nested_of_lt (by omega), bind_of_eq_ok
          (htaken.repeats hfault behind (other + 1) hbehind hlength (by omega) hend)]
        rfl

/-- A token that is known to be next is passed. -/
theorem skip {token : Token} {next again' : Unit → Parse β} (hmoves : token.Moves before middle)
    (hnext : ∀ less, room = less + 1 → Takes closed middle after less (next ()) (again' ())) :
    TakesFrom (· = some token) closed before after room (Parse.skip >>= next)
      (Parse.skip >>= again') := by
  constructor
  · intro tokens fault depth found hstart hroom hfound
    obtain ⟨tail, rfl⟩ := List.head?_eq_some_iff.mp hstart
    rw [List.length_cons] at hroom
    obtain ⟨less, rfl⟩ : ∃ less, room = less + 1 := ⟨room - 1, by omega⟩
    exact (hnext less rfl).error trivial (Nat.le_of_succ_le_succ hroom) hfound
  · intro tokens fault depth a last hstart hroom hlast
    obtain ⟨tail, rfl⟩ := List.head?_eq_some_iff.mp hstart
    rw [List.length_cons] at hroom
    obtain ⟨less, rfl⟩ : ∃ less, room = less + 1 := ⟨room - 1, by omega⟩
    obtain ⟨taken, rest, left, htaken⟩ :=
      (hnext less rfl).ok trivial (Nat.le_of_succ_le_succ hroom) hlast
    refine ⟨token :: taken, rest, left, ?_, htaken.last, htaken.left,
      .cons hmoves htaken.brackets, fun _ => List.cons_ne_nil _ _,
      fun hfault behind other _ hlength hother hend => ?_⟩
    · rw [htaken.tokens, List.cons_append]
    · exact htaken.repeats hfault behind other trivial (Nat.le_of_succ_le_succ hlength) hother hend

/-- A token that is known to be next is the last one that is taken. -/
theorem skipPure {token : Token} {a : α} (hmoves : token.Moves before after) :
    TakesFrom (· = some token) true before after room (Parse.skip >>= fun _ => Pure.pure a)
      (Parse.skip >>= fun _ => Pure.pure a) := by
  constructor
  · intro tokens fault depth found hstart hroom hfound
    cases hfound
  · intro tokens fault depth b last hstart hroom hlast
    obtain ⟨tail, rfl⟩ := List.head?_eq_some_iff.mp hstart
    cases hlast
    exact ⟨[token], tail, fault, rfl, rfl, .inl rfl, .cons hmoves (.nil after),
      fun _ => List.cons_ne_nil _ _, fun _ _ _ _ _ _ _ => rfl⟩

end TakesFrom

/-! ## Looking ahead -/

/-- A reader that looks at the next token and takes none. If there is a fault instead of one, it
fails for that or loses it. -/
structure Looks (look : Parse (Option Token)) : Prop where
  token : ∀ token tokens fault depth, look (standing (token :: tokens) fault depth) =
    .ok (some token, standing (token :: tokens) fault depth)
  nothing : ∀ depth, look (standing [] none depth) = .ok (none, standing [] none depth)
  fault : ∀ fault depth, look (standing [] (some fault) depth) = .error fault ∨
    look (standing [] (some fault) depth) = .ok (none, standing [] none depth)

theorem peek_looks : Looks peek :=
  ⟨fun _ _ _ _ => rfl, fun _ => rfl, fun _ _ => .inl rfl⟩

theorem glance_looks : Looks glance :=
  ⟨fun _ _ _ _ => rfl, fun _ => rfl, fun _ _ => .inr rfl⟩

namespace Looks

variable {look : Parse (Option Token)} {next again : Option Token → Parse β} {closed : Bool}
  {before after room : Nat}

/-- A reader that looks ahead goes on with what it sees, unless it fails for a fault. -/
theorem bind (hlook : Looks look) (next : Option Token → Parse β) (tokens : List Token)
    (fault : Option Fault) (depth : Nat) :
    (∃ left, (left = fault ∨ left = none) ∧ (look >>= next) (standing tokens fault depth) =
      next tokens.head? (standing tokens left depth)) ∨
    ∃ found, fault = some found ∧ (look >>= next) (standing tokens fault depth) = .error found := by
  cases tokens with
  | cons token tokens =>
      exact .inl ⟨fault, .inl rfl, bind_of_eq_ok (hlook.token token tokens fault depth)⟩
  | nil =>
      cases fault with
      | none => exact .inl ⟨none, .inl rfl, bind_of_eq_ok (hlook.nothing depth)⟩
      | some found =>
          obtain hfound | hlost := hlook.fault found depth
          · refine .inr ⟨found, rfl, ?_⟩
            change (look (standing [] (some found) depth) >>= _) = _
            rw [hfound]
            rfl
          · exact .inl ⟨none, .inr rfl, bind_of_eq_ok hlost⟩

/-- Where there is no fault, a reader that looks ahead goes on with what it sees. -/
theorem bind_none (hlook : Looks look) (tokens : List Token) (depth : Nat) :
    (look >>= next) (standing tokens none depth) =
      next tokens.head? (standing tokens none depth) := by
  cases tokens with
  | cons token tokens => exact bind_of_eq_ok (hlook.token token tokens none depth)
  | nil => exact bind_of_eq_ok (hlook.nothing depth)

/-- What is seen again in front of other tokens makes a reader go on as before. -/
structure SeenAgain (start : Option Token → Prop) (closed : Bool)
    (again : Option Token → Parse β) (tokens : List Token) : Prop where
  head : start tokens.head?
  again : ∀ taken rest behind, tokens = taken ++ rest → (closed = true → taken ≠ []) →
    closed = true ∨ SameEnd rest behind →
      start (taken ++ behind).head? ∧ again (taken ++ behind).head? = again tokens.head?

/-- A reader that looks ahead takes what the reader takes that goes on with what is seen, provided
that this is seen again. -/
theorem takes (hlook : Looks look)
    (hseen : ∀ tokens : List Token, ∃ start, SeenAgain start closed again tokens ∧
      TakesFrom start closed before after room (next tokens.head?) (again tokens.head?)) :
    Takes closed before after room (look >>= next) (look >>= again) := by
  constructor
  · intro tokens fault depth found _ hroom hfound
    obtain ⟨start, hseen, htakes⟩ := hseen tokens
    obtain ⟨left, hleft, hgoes⟩ | ⟨other, hother, hgoes⟩ :=
      hlook.bind next tokens fault depth
    · rw [hgoes] at hfound
      obtain hkind | hfault := htakes.error hseen.head hroom hfound
      · exact .inl hkind
      · obtain hsame | hnone := hleft
        · exact .inr (hsame ▸ hfault)
        · cases hnone.symm.trans hfault
    · rw [hgoes] at hfound
      exact .inr (hother.trans (congrArg _ (Except.error.inj hfound)))
  · intro tokens fault depth a last _ hroom hlast
    obtain ⟨start, hseen, htakes⟩ := hseen tokens
    obtain ⟨left, hleft, hgoes⟩ | ⟨other, hother, hgoes⟩ :=
      hlook.bind next tokens fault depth
    · rw [hgoes] at hlast
      obtain ⟨taken, rest, left', htaken⟩ := htakes.ok hseen.head hroom hlast
      refine ⟨taken, rest, left', htaken.tokens, htaken.last, ?_, htaken.brackets, htaken.some, ?_⟩
      · obtain hsame | hnone := htaken.left
        · exact hsame ▸ hleft
        · exact .inr hnone
      · intro hfault behind other _ hlength hother hend
        obtain ⟨hstart, hagain⟩ := hseen.again taken rest behind htaken.tokens htaken.some hend
        have hnone : left = none := hleft.elim (fun h => h.trans hfault) id
        rw [hlook.bind_none, hagain]
        exact htaken.repeats hnone behind other hstart hlength hother hend
    · rw [hgoes] at hlast
      cases hlast

theorem head?_append_of_ne_nil {taken : List Token} (h : taken ≠ []) (rest behind : List Token) :
    (taken ++ behind).head? = (taken ++ rest).head? := by
  cases taken with
  | nil => exact absurd rfl h
  | cons token taken => rfl

/-- A reader that looks ahead and takes something does what the reader does that goes on with what
is seen. -/
theorem takesClosed (hlook : Looks look)
    (hnext : ∀ token?, TakesFrom (· = token?) true before after room (next token?) (again token?)) :
    Takes true before after room (look >>= next) (look >>= again) := by
  refine hlook.takes fun tokens => ⟨(· = tokens.head?), ⟨rfl, ?_⟩, hnext tokens.head?⟩
  intro taken rest behind htokens htaken _
  have hhead : (taken ++ behind).head? = tokens.head? := by
    rw [htokens]
    exact head?_append_of_ne_nil (htaken rfl) rest behind
  exact ⟨hhead, congrArg again hhead⟩

/-- A reader that looks ahead and stops at all tokens that end an expression does otherwise what the
reader does that goes on with what is seen. -/
theorem takesOpen (hlook : Looks look) {stop stop' : Parse β}
    (hend : ∀ token?, Ends token? → next token? = stop ∧ again token? = stop')
    (hstop : Takes false before after room stop stop')
    (htoken : ∀ token, ¬Ends (some token) →
      TakesFrom (· = some token) false before after room (next (some token)) (again (some token))) :
    Takes false before after room (look >>= next) (look >>= again) := by
  refine hlook.takes fun tokens => ?_
  by_cases hhead : Ends tokens.head?
  · refine ⟨fun _ => True, ⟨trivial, ?_⟩, ?_⟩
    · intro taken rest behind htokens _ hsame
      refine ⟨trivial, ?_⟩
      have hends : Ends (taken ++ behind).head? := by
        cases taken with
        | nil =>
            obtain rfl : tokens = rest := htokens
            obtain hclosed | hsame | ⟨-, hends⟩ := hsame
            · cases hclosed
            · exact hsame ▸ hhead
            · exact hends
        | cons token taken =>
            rw [htokens] at hhead
            exact hhead
      rw [(hend _ hends).2, (hend _ hhead).2]
    · rw [(hend _ hhead).1, (hend _ hhead).2]
      exact hstop
  · obtain ⟨token, htoken?⟩ : ∃ token, tokens.head? = some token := by
      cases htokens : tokens.head? with
      | none => exact absurd (htokens ▸ .nothing) hhead
      | some token => exact ⟨token, rfl⟩
    refine ⟨(· = some token), ⟨htoken?, ?_⟩, ?_⟩
    · intro taken rest behind htokens _ hsame
      have hheads : (taken ++ behind).head? = tokens.head? := by
        cases taken with
        | nil =>
            obtain rfl : tokens = rest := htokens
            obtain hclosed | hsame | ⟨hends, -⟩ := hsame
            · cases hclosed
            · exact hsame.symm
            · exact absurd hends hhead
        | cons token taken => rw [htokens]; rfl
      exact ⟨hheads.trans htoken?, congrArg again hheads⟩
    · rw [htoken?] at hhead ⊢
      exact htoken token hhead

end Looks

/-! ## Single tokens -/

/-- Is a token a given symbol? -/
def isSymbol (symbol : Symbol) : Option Token → Bool
  | some (.symbol s) => s = symbol
  | _ => false

/-- Is a token a given word? -/
def isWord (word : String) : Option Token → Bool
  | some (.word w) => w = word
  | _ => false

theorem eq_of_isSymbol {symbol : Symbol} {token? : Option Token}
    (h : isSymbol symbol token? = true) : token? = some (.symbol symbol) := by
  unfold isSymbol at h
  split at h
  next s => rw [of_decide_eq_true h]
  next => cases h

theorem eq_of_isWord {word : String} {token? : Option Token} (h : isWord word token? = true) :
    token? = some (.word word) := by
  unfold isWord at h
  split at h
  next w => rw [of_decide_eq_true h]
  next => cases h

theorem sees_bind (symbol : Symbol) (next : Bool → Parse β) :
    sees symbol >>= next = peek >>= fun token? => next (isSymbol symbol token?) := by
  unfold sees
  rw [bind_assoc]
  refine congrArg (peek >>= ·) (funext fun token? => ?_)
  rcases token? with _ | token
  · rfl
  · cases token <;> rfl

theorem glimpses_bind (symbol : Symbol) (next : Bool → Parse β) :
    glimpses symbol >>= next = glance >>= fun token? => next (isSymbol symbol token?) := by
  unfold glimpses
  rw [bind_assoc]
  refine congrArg (glance >>= ·) (funext fun token? => ?_)
  rcases token? with _ | token
  · rfl
  · cases token <;> rfl

theorem seesWord_bind (word : String) (next : Bool → Parse β) :
    seesWord word >>= next = peek >>= fun token? => next (isWord word token?) := by
  unfold seesWord
  rw [bind_assoc]
  refine congrArg (peek >>= ·) (funext fun token? => ?_)
  rcases token? with _ | token
  · rfl
  · cases token <;> rfl

/-- Pass a token if it is the right one, and go on with whether it was. -/
def passIf (found : Bool) (next : Bool → Parse β) : Parse β :=
  if found then skip >>= fun _ => next true else next false

theorem accepts_bind (symbol : Symbol) (next : Bool → Parse β) :
    accepts symbol >>= next =
      peek >>= fun token? => passIf (isSymbol symbol token?) next := by
  unfold accepts
  rw [bind_assoc, sees_bind]
  refine congrArg (peek >>= ·) (funext fun token? => ?_)
  cases isSymbol symbol token? <;> rfl

theorem acceptsWord_bind (word : String) (next : Bool → Parse β) :
    acceptsWord word >>= next =
      peek >>= fun token? => passIf (isWord word token?) next := by
  unfold acceptsWord
  rw [bind_assoc, seesWord_bind]
  refine congrArg (peek >>= ·) (funext fun token? => ?_)
  cases isWord word token? <;> rfl

theorem next_bind (next : Option Token → Parse β) :
    Parse.next >>= next = peek >>= fun token? => skip >>= fun _ => next token? := by
  unfold Parse.next
  rw [bind_assoc]
  refine congrArg (peek >>= ·) (funext fun token? => ?_)
  rw [bind_assoc]
  rfl

/-- A symbol that does not end an expression is not found where one ends. -/
theorem isSymbol_of_ends {symbol : Symbol} (hends : ¬Ends (some (.symbol symbol)))
    {token? : Option Token} (h : Ends token?) : isSymbol symbol token? = false := by
  rw [← Bool.not_eq_true]
  intro hsymbol
  exact hends (eq_of_isSymbol hsymbol ▸ h)

/-- No word is found where an expression ends. -/
theorem isWord_of_ends (word : String) {token? : Option Token} (h : Ends token?) :
    isWord word token? = false := by
  cases h <;> rfl

namespace Takes

variable {symbol : Symbol} {next again : Bool → Parse β} {closed : Bool}
  {before middle after room : Nat}

/-- A symbol is passed if it is next and does not end an expression. -/
theorem accepts (hmark : symbol.nesting = 0) (hends : ¬Ends (some (.symbol symbol)))
    (htrue : ∀ less, room = less + 1 → Takes false before after less (next true) (again true))
    (hfalse : Takes false before after room (next false) (again false)) :
    Takes false before after room (accepts symbol >>= next) (accepts symbol >>= again) := by
  rw [accepts_bind, accepts_bind]
  refine peek_looks.takesOpen (fun token? hend => ?_) hfalse fun token _ => ?_
  · rw [isSymbol_of_ends hends hend]
    exact ⟨rfl, rfl⟩
  · cases hsymbol : isSymbol symbol (some token) with
    | false => exact .of_takes hfalse
    | true =>
        obtain rfl := Option.some.inj (eq_of_isSymbol hsymbol)
        exact .skip (.mark hmark before) htrue

/-- A word is passed if it is next. -/
theorem acceptsWord (word : String)
    (htrue : ∀ less, room = less + 1 → Takes false before after less (next true) (again true))
    (hfalse : Takes false before after room (next false) (again false)) :
    Takes false before after room (acceptsWord word >>= next) (acceptsWord word >>= again) := by
  rw [acceptsWord_bind, acceptsWord_bind]
  refine peek_looks.takesOpen (fun token? hend => ?_) hfalse fun token _ => ?_
  · rw [isWord_of_ends word hend]
    exact ⟨rfl, rfl⟩
  · cases hword : isWord word (some token) with
    | false => exact .of_takes hfalse
    | true =>
        obtain rfl := Option.some.inj (eq_of_isWord hword)
        exact .skip (.word word before) htrue

/-- It does not matter whether a word is passed if what is behind it is taken either way. -/
theorem passesWord (word : String)
    (hnext : ∀ found, Takes false before after room (next found) (again found)) :
    Takes false before after room (Parse.acceptsWord word >>= next)
      (Parse.acceptsWord word >>= again) :=
  .acceptsWord word (fun _ _ => (hnext true).fewer (by omega)) (hnext false)

/-- Between brackets any symbol is passed if it is next. -/
theorem acceptsClosed (hmark : symbol.nesting = 0)
    (htrue : ∀ less, room = less + 1 → Takes true before after less (next true) (again true))
    (hfalse : Takes true before after room (next false) (again false)) :
    Takes true before after room (Parse.accepts symbol >>= next)
      (Parse.accepts symbol >>= again) := by
  rw [accepts_bind, accepts_bind]
  refine peek_looks.takesClosed fun token? => ?_
  cases hsymbol : isSymbol symbol token? with
  | false => exact .of_takes hfalse
  | true =>
      obtain rfl := eq_of_isSymbol hsymbol
      exact .skip (.mark hmark before) htrue

/-- Between brackets the symbol that closes them is passed if it is next, and is the last one. -/
theorem acceptsLast {b : β} (hmoves : (Token.symbol symbol).Moves before after)
    (htrue : next true = Pure.pure b ∧ again true = Pure.pure b)
    (hfalse : Takes true before after room (next false) (again false)) :
    Takes true before after room (Parse.accepts symbol >>= next)
      (Parse.accepts symbol >>= again) := by
  rw [accepts_bind, accepts_bind]
  refine peek_looks.takesClosed fun token? => ?_
  cases hsymbol : isSymbol symbol token? with
  | false => exact .of_takes hfalse
  | true =>
      obtain rfl := eq_of_isSymbol hsymbol
      unfold passIf
      rw [htrue.1, htrue.2]
      exact .skipPure hmoves

/-- A symbol that has to be next is passed. -/
theorem expect (description : String) (hmoves : (Token.symbol symbol).Moves before after) :
    Takes true before after room (expect symbol description) (expect symbol description) :=
  acceptsLast hmoves ⟨rfl, rfl⟩ (.fail _)

/-- A symbol that has to be next is passed, and what is behind it is taken. -/
theorem expect_bind (description : String) {next again : Unit → Parse β}
    (hmoves : (Token.symbol symbol).Moves before middle)
    (hnext : ∀ less, room = less + 1 → Takes true middle after less (next ()) (again ())) :
    Takes true before after room (Parse.expect symbol description >>= next)
      (Parse.expect symbol description >>= again) := by
  unfold Parse.expect
  rw [bind_assoc, bind_assoc, accepts_bind, accepts_bind]
  refine peek_looks.takesClosed fun token? => ?_
  cases hsymbol : isSymbol symbol token? with
  | false => exact .of_fails fun _ => ⟨_, rfl⟩
  | true =>
      obtain rfl := eq_of_isSymbol hsymbol
      exact .skip hmoves hnext

/-- Between brackets it may be asked whether any symbol is next. -/
theorem sees (htrue : TakesFrom (· = some (.symbol symbol)) true before after room (next true)
      (again true))
    (hfalse : Takes true before after room (next false) (again false)) :
    Takes true before after room (sees symbol >>= next) (sees symbol >>= again) := by
  rw [sees_bind, sees_bind]
  refine peek_looks.takesClosed fun token? => ?_
  cases hsymbol : isSymbol symbol token? with
  | false => exact .of_takes hfalse
  | true => exact eq_of_isSymbol hsymbol ▸ htrue

/-- Between brackets it may be asked whether any symbol is next, where a fault does not show. -/
theorem glimpsesClosed (hnext : ∀ found, Takes true before after room (next found) (again found)) :
    Takes true before after room (glimpses symbol >>= next) (glimpses symbol >>= again) := by
  rw [glimpses_bind, glimpses_bind]
  exact glance_looks.takesClosed fun token? => .of_takes (hnext _)

/-- It may be asked whether a symbol is next that does not end an expression. -/
theorem glimpses (hends : ¬Ends (some (.symbol symbol)))
    (hnext : ∀ found, Takes false before after room (next found) (again found)) :
    Takes false before after room (Parse.glimpses symbol >>= next)
      (Parse.glimpses symbol >>= again) := by
  rw [glimpses_bind, glimpses_bind]
  refine glance_looks.takesOpen (fun token? hend => ?_) (hnext false) fun token _ =>
    .of_takes (hnext _)
  rw [isSymbol_of_ends hends hend]
  exact ⟨rfl, rfl⟩

end Takes

/-- A reader of the next token goes on behind it. -/
theorem next_cons (next : Option Token → Parse β) (token : Token) (tokens : List Token)
    (fault : Option Fault) (depth : Nat) :
    (Parse.next >>= next) (standing (token :: tokens) fault depth) =
      next (some token) (standing tokens fault depth) := by
  rw [next_bind, bind_of_eq_ok (peek_looks.token token tokens fault depth)]
  rfl

namespace Takes

variable {before after room : Nat}

/-- The next token is taken, whatever it is, unless the reader fails for it. -/
theorem next {next again : Option Token → Parse β} (hnone : Fails (next none))
    (hsome : ∀ token, Fails (next (some token)) ∨ ∃ middle, token.Moves before middle ∧
      ∀ less, room = less + 1 →
        Takes false middle after less (next (some token)) (again (some token))) :
    Takes false before after room (Parse.next >>= next) (Parse.next >>= again) := by
  constructor
  · intro tokens fault depth found _ hroom hfound
    cases tokens with
    | cons token tokens =>
        rw [next_cons] at hfound
        rw [List.length_cons] at hroom
        obtain hfails | ⟨middle, -, htakes⟩ := hsome token
        · obtain ⟨detail, hdetail⟩ := hfails (standing tokens fault depth)
          exact .inl (Except.error.inj (hdetail.symm.trans hfound) ▸ rfl)
        · exact (htakes (room - 1) (by omega)).error trivial (by omega) hfound
    | nil =>
        obtain ⟨_, -, hgoes⟩ | ⟨other, hother, hgoes⟩ := peek_looks.bind
          (fun token? => skip >>= fun _ => next token?) [] fault depth
        · rw [next_bind, hgoes] at hfound
          obtain ⟨detail, hdetail⟩ := hnone (standing [] _ depth)
          exact .inl (Except.error.inj (hdetail.symm.trans hfound) ▸ rfl)
        · rw [next_bind, hgoes] at hfound
          exact .inr (hother.trans (congrArg _ (Except.error.inj hfound)))
  · intro tokens fault depth a last _ hroom hlast
    cases tokens with
    | cons token tokens =>
        rw [next_cons] at hlast
        rw [List.length_cons] at hroom
        obtain hfails | ⟨middle, hmoves, htakes⟩ := hsome token
        · obtain ⟨detail, hdetail⟩ := hfails (standing tokens fault depth)
          cases hdetail.symm.trans hlast
        · obtain ⟨taken, rest, left, htaken⟩ :=
            (htakes (room - 1) (by omega)).ok trivial (by omega) hlast
          refine ⟨token :: taken, rest, left, ?_, htaken.last, htaken.left,
            .cons hmoves htaken.brackets, nofun, ?_⟩
          · rw [htaken.tokens, List.cons_append]
          · intro hfault behind other _ hlength hother hend
            rw [List.cons_append, List.length_cons] at hlength
            rw [List.cons_append, next_cons]
            exact htaken.repeats hfault behind other trivial (by omega) hother hend
    | nil =>
        obtain ⟨_, -, hgoes⟩ | ⟨other, hother, hgoes⟩ := peek_looks.bind
          (fun token? => skip >>= fun _ => next token?) [] fault depth
        · rw [next_bind, hgoes] at hlast
          obtain ⟨detail, hdetail⟩ := hnone (standing [] _ depth)
          cases hdetail.symm.trans hlast
        · rw [next_bind, hgoes] at hlast
          cases hlast

/-- A name is taken. -/
theorem name {next again : String → Parse β}
    (hnext : ∀ word less, room = less + 1 →
      Takes false before after less (next word) (again word)) :
    Takes false before after room (name >>= next) (name >>= again) := by
  unfold Parse.name
  rw [bind_assoc, bind_assoc]
  refine Takes.next (fun reading => ⟨_, rfl⟩) fun token => ?_
  cases token with
  | word word => exact .inr ⟨before, .word word before, hnext word⟩
  | _ => exact .inl fun reading => ⟨_, rfl⟩

/-- The names behind a name are taken. -/
theorem dottedRest {fuel enough : Nat} (read : String) (hfuel : room < fuel)
    (henough : room < enough) :
    Takes false before before room (dottedRest fuel read) (dottedRest enough read) := by
  induction fuel generalizing enough room read with
  | zero => omega
  | succ fuel ih =>
      obtain ⟨enough, rfl⟩ : ∃ less, enough = less + 1 := ⟨enough - 1, by omega⟩
      refine Takes.accepts rfl nofun (fun less hless => ?_) (.pure read)
      exact .name fun word less' hless' => ih _ (by omega) (by omega)

/-- Adjacent texts are taken. -/
theorem adjacentTexts {fuel enough : Nat} (read : String) (hfuel : room < fuel)
    (henough : room < enough) :
    Takes false before before room (adjacentTexts fuel read) (adjacentTexts enough read) := by
  induction fuel generalizing enough room read with
  | zero => omega
  | succ fuel ih =>
      obtain ⟨enough, rfl⟩ : ∃ less, enough = less + 1 := ⟨enough - 1, by omega⟩
      refine peek_looks.takesOpen (fun token? hend => ?_) (.pure read) fun token _ => ?_
      · cases hend <;> exact ⟨rfl, rfl⟩
      · cases token with
        | text more escaped =>
            exact .skip (.text more escaped before) fun less hless => ih _ (by omega) (by omega)
        | _ => exact .pure read

/-- A comparison is taken if one is next. -/
theorem takeComparison {next again : Option Comparison → Parse β}
    (hnone : Takes false before after room (next none) (again none))
    (hsome : ∀ comparison less, room = less + 1 →
      Takes false before after less (next (some comparison)) (again (some comparison))) :
    Takes false before after room (takeComparison >>= next) (takeComparison >>= again) := by
  unfold Parse.takeComparison
  rw [bind_assoc, bind_assoc]
  refine peek_looks.takesOpen (fun token? hend => ?_) hnone fun token _ => ?_
  · cases hend <;> exact ⟨rfl, rfl⟩
  · split
    next heq =>
      obtain rfl := Option.some.inj heq
      rw [bind_assoc, bind_assoc]
      exact .skip (.word "in" before) fun less hless => hsome .within less hless
    next heq =>
      obtain rfl := Option.some.inj heq
      simp only [bind_assoc]
      refine .skip (.word "not" before) fun less hless => ?_
      refine .acceptsWord "in" (fun least hleast => ?_) ?_
      · exact (hsome .notWithin less hless).fewer (by omega)
      · exact .of_fails fun _ => ⟨_, rfl⟩
    next symbol heq =>
      obtain rfl := Option.some.inj heq
      cases hfound : comparison? symbol with
      | none => exact .of_takes hnone
      | some comparison =>
          have hmark : symbol.nesting = 0 := by cases symbol <;> first | rfl | cases hfound
          change TakesFrom _ false before after room (skip >>= fun _ => next (some comparison))
            (skip >>= fun _ => again (some comparison))
          exact .skip (.mark hmark before) (hsome comparison)
    next => exact .of_takes hnone

end Takes

end Parse

end RecordRecipe.Expr
