import RecordRecipe.Proofs.Expr.Taking

/-!
# Tokens in front of the end of a tag

What follows a text inside a tag, be it a parenthesis or the end of the tag, does not change the
tokens of the text, as long as the tag does not end in the text itself. It does not where the
brackets around the text stay open, and where no part of the text looks like the end of the tag.
-/

namespace RecordRecipe.Expr

/-- Characters that continue no token: the first of them is a closing parenthesis or a greater
sign, and no text ends in them. -/
structure Stops (behind : List Char) : Prop where
  head : ∃ c rest, behind = c :: rest ∧ (c = ')' ∨ c = '>')
  unquoted : ∀ quote, quote = '\x27' ∨ quote = '\x22' → quoted? quote behind = none
  unescaped : ∀ quote, quote = '\x27' ∨ quote = '\x22' → quoted? quote ('\\' :: behind) = none

/-- The end of a value tag. -/
theorem stops_value : Stops ['>', '>'] where
  head := ⟨'>', ['>'], rfl, .inr rfl⟩
  unquoted := by rintro _ (rfl | rfl) <;> decide
  unescaped := by rintro _ (rfl | rfl) <;> decide

/-- The end of a statement tag behind a parenthesis. -/
theorem stops_statement : Stops [')', ' ', '%', '>'] where
  head := ⟨')', [' ', '%', '>'], rfl, .inl rfl⟩
  unquoted := by rintro _ (rfl | rfl) <;> decide
  unescaped := by rintro _ (rfl | rfl) <;> decide

/-! ## Numbers -/

section

variable {behind : List Char}

/-- No number goes on behind its text. -/
theorem Stops.numberChars_behind (h : Stops behind) (part : NumberPart) :
    numberChars part behind = ([], part, behind) := by
  obtain ⟨c, rest, rfl, rfl | rfl⟩ := h.head
  · cases part <;> simp [numberChars, NumberPart.next?]
  · cases part <;> simp [numberChars, NumberPart.next?]

/-- A digit that may have a sign in front of it. -/
theorem Stops.splitSign_append (h : Stops behind) (text : List Char) :
    (Numeral.splitSign (text ++ behind)).2.head?.any Char.isDigit =
      (Numeral.splitSign text).2.head?.any Char.isDigit := by
  obtain ⟨c, rest, rfl, hc⟩ := h.head
  have hdigit : c.isDigit = false := by obtain rfl | rfl := hc <;> rfl
  have hsign : Numeral.splitSign (c :: rest) = (false, c :: rest) := by
    obtain rfl | rfl := hc <;> rfl
  cases text with
  | nil =>
      rw [List.nil_append, hsign]
      exact hdigit
  | cons sign text =>
      have hother (hplus : sign ≠ '+') (hminus : sign ≠ '-') (more : List Char) :
          Numeral.splitSign (sign :: more) = (false, sign :: more) := by
        unfold Numeral.splitSign
        split
        next heq => exact absurd (List.cons.inj heq).1 hplus
        next heq => exact absurd (List.cons.inj heq).1 hminus
        next => rfl
      by_cases hplus : sign = '+'
      · subst hplus
        cases text with
        | nil => exact hdigit
        | cons => rfl
      by_cases hminus : sign = '-'
      · subst hminus
        cases text with
        | nil => exact hdigit
        | cons => rfl
      rw [List.cons_append, hother hplus hminus, hother hplus hminus]
      rfl

theorem Stops.startsExponent_append (h : Stops behind) (text : List Char) :
    startsExponent (text ++ behind) = startsExponent text := by
  cases text with
  | nil =>
      obtain ⟨c, rest, rfl, rfl | rfl⟩ := h.head
      · rfl
      · rfl
  | cons mark text =>
      unfold startsExponent
      exact congrArg (_ && ·) (h.splitSign_append text)

theorem Stops.startsAttribute_append (h : Stops behind) (text : List Char) :
    startsAttribute (text ++ behind) = startsAttribute text := by
  unfold startsAttribute
  rw [h.startsExponent_append]
  obtain ⟨c, rest, rfl, hc⟩ := h.head
  cases text with
  | nil => obtain rfl | rfl := hc <;> rfl
  | cons first text => rfl

theorem Stops.next?_append (h : Stops behind) (part : NumberPart) (c : Char) (text : List Char) :
    part.next? c (text ++ behind) = part.next? c text := by
  cases part with
  | whole =>
      unfold NumberPart.next?
      rw [h.startsAttribute_append]
  | _ => rfl

theorem Stops.numberChars_append (h : Stops behind) (part : NumberPart) (text : List Char) :
    numberChars part (text ++ behind) =
      ((numberChars part text).1, (numberChars part text).2.1,
        (numberChars part text).2.2 ++ behind) := by
  induction text generalizing part with
  | nil => exact h.numberChars_behind part
  | cons c text ih =>
      rw [List.cons_append]
      unfold numberChars
      rw [h.next?_append]
      cases part.next? c text with
      | none => rfl
      | some part =>
          dsimp only
          rw [ih part]

theorem numberBase_of_ne {first : Char} (hfirst : first ≠ '0') (text : List Char) :
    numberBase (first :: text) = (.whole, first :: text) := by
  unfold numberBase
  split
  next heq => exact absurd (List.cons.inj heq).1 hfirst
  next => rfl

theorem Stops.numberBase_append (h : Stops behind) (first : Char) (text : List Char) :
    numberBase (first :: text ++ behind) =
      ((numberBase (first :: text)).1, (numberBase (first :: text)).2 ++ behind) := by
  by_cases hfirst : first = '0'
  · subst hfirst
    cases text with
    | nil =>
        obtain ⟨c, rest, rfl, rfl | rfl⟩ := h.head
        · rfl
        · rfl
    | cons second text =>
        simp only [List.cons_append, numberBase]
        split
        next => rfl
        next => split <;> [rfl; split <;> rfl]
  · rw [numberBase_of_ne hfirst, List.cons_append, numberBase_of_ne hfirst]

/-- A number is read as such in front of other characters. -/
theorem Stops.number_append (h : Stops behind) (first : Char) (text : List Char) :
    number (first :: text ++ behind) =
      (number (first :: text)).map fun read => (read.1, read.2 ++ behind) := by
  unfold number
  rw [h.numberBase_append]
  dsimp only
  rw [h.numberChars_append]
  generalize numberChars (numberBase (first :: text)).1 (numberBase (first :: text)).2 = read
  obtain ⟨chars, last, rest⟩ := read
  dsimp only
  split
  next => rfl
  next =>
    split
    next =>
      split
      next => split <;> rfl
      next => rfl
    next => split <;> rfl

end

/-! ## Tokens -/

section

variable {behind : List Char}

theorem Stops.doubleSymbol?_append (h : Stops behind) (first : Char) (text : List Char) :
    doubleSymbol? (first :: text ++ behind) = doubleSymbol? (first :: text) := by
  cases text with
  | nil =>
      obtain ⟨c, rest, rfl, rfl | rfl⟩ := h.head
      · unfold doubleSymbol?
        split <;> simp_all
      · unfold doubleSymbol?
        split <;> simp_all
  | cons second text =>
      simp only [List.cons_append]
      unfold doubleSymbol?
      split <;> first | rfl | (split <;> simp_all)

/-- A character that is neither the closing quote nor a backslash belongs to the text. -/
theorem quoted?_cons {quote c : Char} (hclose : c ≠ quote) (hescape : c ≠ '\\')
    (rest : List Char) :
    quoted? quote (c :: rest) = (quoted? quote rest).map fun parts => (c :: parts.1, parts.2) := by
  rw [quoted?, if_neg hclose, if_neg hescape]
  exact fun _ _ heq => absurd heq hescape

/-- The closing quote ends the text. -/
theorem quoted?_quote {quote : Char} (hquote : quote = '\x27' ∨ quote = '\x22')
    (rest : List Char) : quoted? quote (quote :: rest) = some ([], rest) := by
  obtain rfl | rfl := hquote
  · rfl
  · rfl

/-- A text that is closed is read as such in front of other characters, and one that is not closed
is not closed in them. -/
theorem Stops.quoted?_append (h : Stops behind) {quote : Char}
    (hquote : quote = '\x27' ∨ quote = '\x22') (text : List Char) :
    quoted? quote (text ++ behind) =
      (quoted? quote text).map fun parts => (parts.1, parts.2 ++ behind) := by
  fun_induction quoted? quote text with
  | case1 => exact h.unquoted quote hquote
  | case2 c rest ih =>
      simp only [List.cons_append, quoted?, ih, Option.map_map]
      rfl
  | case3 rest _ => exact quoted?_quote hquote (rest ++ behind)
  | case4 rest hshape _ =>
      cases rest with
      | nil => exact h.unescaped quote hquote
      | cons c rest => exact (hshape c rest rfl rfl).elim
  | case5 c rest _ hclose hescape ih =>
      rw [List.cons_append, quoted?_cons hclose hescape, ih, Option.map_map, Option.map_map]
      rfl

/-- A symbol of two characters has two characters. -/
theorem two_le_of_doubleSymbol? {text : List Char} {symbol : Symbol}
    (h : doubleSymbol? text = some symbol) : 2 ≤ text.length := by
  unfold doubleSymbol? at h
  split at h <;> first | exact Nat.le_add_left 2 _ | cases h

/-- The characters of a name are the same in front of others that belong to no name. -/
theorem Stops.nameChars_append (h : Stops behind) (text : List Char) :
    (text ++ behind).takeWhile isNameChar = text.takeWhile isNameChar ∧
      (text ++ behind).dropWhile isNameChar = text.dropWhile isNameChar ++ behind := by
  induction text with
  | nil =>
      obtain ⟨stop, rest, rfl, rfl | rfl⟩ := h.head
      · exact ⟨rfl, rfl⟩
      · exact ⟨rfl, rfl⟩
  | cons c text ih =>
      cases hc : isNameChar c with
      | true => simp [hc, ih.1, ih.2]
      | false => simp [hc]

/-- The token at the start of a text is the same in front of other characters. -/
theorem Stops.innerToken_append (h : Stops behind) (first : Char) (text : List Char) :
    innerToken (first :: text ++ behind) =
      (innerToken (first :: text)).map fun read => (read.1, read.2 ++ behind) := by
  unfold innerToken
  rw [h.doubleSymbol?_append]
  cases hsymbol : doubleSymbol? (first :: text) with
  | some symbol =>
      have hlength := two_le_of_doubleSymbol? hsymbol
      dsimp only
      rw [List.drop_append_of_le_length hlength]
      rfl
  | none =>
      rw [List.cons_append]
      dsimp only
      split
      next hquote =>
        rw [h.quoted?_append (by simpa using hquote)]
        cases quoted? first text with
        | none => rfl
        | some parts =>
            dsimp only [Option.map_some]
            cases unescape (parts.1.length + 1) none parts.1 with
            | none => rfl
            | some plain => rfl
      next =>
        split
        next => exact h.number_append first text
        next =>
          cases singleSymbol? first with
          | some symbol => rfl
          | none =>
              dsimp only
              obtain ⟨htake, hdrop⟩ := h.nameChars_append (first :: text)
              rw [← List.cons_append, htake, hdrop]
              split <;> rfl

end

/-! ## What a token takes -/

/-- Of some characters the first ones have been read. -/
structure ReadFrom (text rest : List Char) : Prop where
  suffix : rest <:+ text
  shorter : rest.length < text.length

theorem numberChars_suffix (part : NumberPart) (text : List Char) :
    (numberChars part text).2.2 <:+ text := by
  induction text generalizing part with
  | nil => exact List.suffix_rfl
  | cons c text ih =>
      unfold numberChars
      cases part.next? c text with
      | none => exact List.suffix_rfl
      | some part => exact (ih part).trans (List.suffix_cons c text)

/-- The digits of a number begin at its start or behind its base. -/
theorem numberBase_cases (text : List Char) :
    numberBase text = (.whole, text) ∨
      ∃ first second rest base, text = first :: second :: rest ∧
        numberBase text = (.radix base, rest) := by
  unfold numberBase
  split
  next c rest =>
    split
    next => exact .inr ⟨'0', c, rest, 16, rfl, rfl⟩
    next =>
      split
      next => exact .inr ⟨'0', c, rest, 8, rfl, rfl⟩
      next =>
        split
        next => exact .inr ⟨'0', c, rest, 2, rfl, rfl⟩
        next => exact .inl rfl
  next => exact .inl rfl

/-- A number takes its first digit. -/
theorem numberChars_readFrom {first : Char} (hfirst : first.isDigit = true) (text : List Char) :
    ReadFrom (first :: text)
      (numberChars (numberBase (first :: text)).1 (numberBase (first :: text)).2).2.2 := by
  obtain hbase | ⟨_, second, rest, base, htext, hbase⟩ := numberBase_cases (first :: text)
  · have hnext : NumberPart.whole.next? first text = some .whole := by
      have hne (other : Char) (hother : other.isDigit = false) : first ≠ other := by
        rintro rfl
        cases hother.symm.trans hfirst
      simp [NumberPart.next?, hfirst, hne '.' rfl, hne 'e' rfl, hne 'E' rfl]
    have hrest : (numberChars .whole (first :: text)).2.2 = (numberChars .whole text).2.2 := by
      rw [numberChars, hnext]
    have hsuffix := numberChars_suffix .whole text
    rw [hbase, hrest]
    exact ⟨hsuffix.trans (List.suffix_cons first text),
      Nat.lt_succ_of_le hsuffix.length_le⟩
  · obtain ⟨rfl, rfl⟩ := List.cons.inj htext
    have hsuffix := numberChars_suffix (.radix base) rest
    rw [hbase]
    exact ⟨hsuffix.trans ⟨[first, second], rfl⟩,
      Nat.lt_of_le_of_lt hsuffix.length_le (Nat.lt_add_of_pos_right Nat.two_pos)⟩

theorem quoted?_suffix {quote : Char} {text : List Char} {parts : List Char × List Char}
    (h : quoted? quote text = some parts) : parts.2 <:+ text := by
  fun_induction quoted? quote text generalizing parts with
  | case1 => cases h
  | case2 c rest ih =>
      obtain ⟨inner, hinner, rfl⟩ := Option.map_eq_some_iff.mp h
      exact (ih hinner).trans ⟨['\\', c], rfl⟩
  | case3 rest =>
      cases h
      exact List.suffix_cons _ _
  | case4 => cases h
  | case5 c rest _ _ _ ih =>
      obtain ⟨inner, hinner, rfl⟩ := Option.map_eq_some_iff.mp h
      exact (ih hinner).trans (List.suffix_cons c rest)

/-- What is read as a number is one, and what is not is malformed. -/
theorem number_cases (text : List Char) : (∃ detail, number text = .error (.malformed detail)) ∨
    ∃ token, number text =
      .ok (token, (numberChars (numberBase text).1 (numberBase text).2).2.2) ∧
        ((∃ n, token = .int n) ∨ ∃ x, token = .float x) := by
  unfold number
  dsimp only
  generalize numberChars (numberBase text).1 (numberBase text).2 = read
  obtain ⟨chars, last, rest⟩ := read
  dsimp only
  split
  next => exact .inl ⟨_, rfl⟩
  next =>
    split
    next =>
      split
      next n _ =>
        split
        next => exact .inr ⟨_, rfl, .inl ⟨n, rfl⟩⟩
        next => exact .inl ⟨_, rfl⟩
      next => exact .inl ⟨_, rfl⟩
    next =>
      split
      next x _ => exact .inr ⟨_, rfl, .inr ⟨x, rfl⟩⟩
      next => exact .inl ⟨_, rfl⟩

/-- A symbol stands inside a tag. -/
theorem symbol_moves (symbol : Symbol) :
    ∃ before after, (Token.symbol symbol).Moves before after := by
  cases symbol with
  | parenOpen | bracketOpen | braceOpen => exact ⟨0, 1, .opening rfl 0⟩
  | parenClose | bracketClose | braceClose => exact ⟨1, 0, .closing rfl 0⟩
  | _ => exact ⟨0, 0, .mark rfl 0⟩

/-- A token inside a tag takes characters and is none that stands outside of tags. Where there is
none, the text is malformed or has a bad escape. -/
theorem innerToken_cases (text : List Char) :
    (∃ fault, innerToken text = .error fault ∧
      (fault.kind = .malformed ∨ fault.kind = .badEscape)) ∨
    ∃ token rest, innerToken text = .ok (token, rest) ∧ ReadFrom text rest ∧
      ∃ before after, token.Moves before after := by
  unfold innerToken
  split
  next symbol hsymbol =>
    have hlength := two_le_of_doubleSymbol? hsymbol
    refine .inr ⟨_, _, rfl, ⟨List.drop_suffix 2 _, ?_⟩, symbol_moves symbol⟩
    rw [List.length_drop]
    omega
  next => exact .inl ⟨_, rfl, .inl rfl⟩
  next c rest _ =>
    have hrest : ReadFrom (c :: rest) rest := ⟨List.suffix_cons c rest, Nat.lt_succ_self _⟩
    split
    next =>
      split
      next => exact .inl ⟨_, rfl, .inl rfl⟩
      next content behind hparts =>
        have hsuffix := quoted?_suffix hparts
        split
        next =>
          exact .inr ⟨_, _, rfl, ⟨hsuffix.trans hrest.suffix,
            Nat.lt_succ_of_le hsuffix.length_le⟩, 0, 0, .text _ _ 0⟩
        next => exact .inl ⟨_, rfl, .inr rfl⟩
    next =>
      split
      next hdigit =>
        obtain ⟨detail, hnumber⟩ | ⟨token, hnumber, htoken⟩ := number_cases (c :: rest)
        · exact .inl ⟨_, hnumber, .inl rfl⟩
        · refine .inr ⟨token, _, hnumber, numberChars_readFrom hdigit rest, 0, 0, ?_⟩
          obtain ⟨n, rfl⟩ | ⟨x, rfl⟩ := htoken
          · exact .int n 0
          · exact .float x 0
      next =>
        split
        next symbol _ => exact .inr ⟨_, _, rfl, hrest, symbol_moves symbol⟩
        next =>
          split
          next hstart =>
            have hname : isNameChar c = true := by
              simp only [isNameStart, Bool.or_eq_true] at hstart
              simp only [isNameChar, Char.isAlphanum, Bool.or_eq_true]
              exact hstart.imp_left .inl
            rw [List.dropWhile_cons_of_pos hname]
            have hsuffix := List.dropWhile_suffix (l := rest) isNameChar
            exact .inr ⟨_, _, rfl, ⟨hsuffix.trans hrest.suffix,
              Nat.lt_succ_of_le hsuffix.length_le⟩, 0, 0, .word _ 0⟩
          next => exact .inl ⟨_, rfl, .inl rfl⟩

/-! ## The tokens of a tag -/

/-- How a token changes the number of open brackets. -/
def Token.nesting : Token → Int
  | .symbol sign => sign.nesting
  | _ => 0

theorem Token.Moves.nesting {token : Token} {before after : Nat} (h : token.Moves before after) :
    (after : Int) = before + token.nesting := by
  cases h with
  | opening h => rw [Token.nesting, h, Int.natCast_succ]
  | closing h => rw [Token.nesting, h, Int.natCast_succ]; omega
  | mark h => rw [Token.nesting, h, Int.add_zero]
  | _ => exact (Int.add_zero _).symm

/-- No token closes more than one bracket. -/
theorem Token.neg_one_le_nesting (token : Token) : -1 ≤ token.nesting := by
  cases token with
  | symbol sign => cases sign <;> decide
  | _ => exact (by decide : (-1 : Int) ≤ 0)

namespace Lexed

/-- How the tokens change the number of open brackets. -/
def nesting (lexed : Lexed) : Int :=
  lexed.tokens.foldr (fun token behind => token.nesting + behind) 0

/-- Tokens and those behind them, which are not reached if there is a fault. -/
def andThen (lexed next : Lexed) : Lexed :=
  match lexed.fault with
  | some _ => lexed
  | none => ⟨lexed.tokens ++ next.tokens, next.fault⟩

theorem cons_andThen (token : Token) (lexed next : Lexed) :
    (lexed.cons token).andThen next = (lexed.andThen next).cons token := by
  obtain ⟨tokens, _ | fault⟩ := lexed
  · rfl
  · rfl

/-- A fault is the one in the tokens if there is none behind them. -/
theorem andThen_fault (lexed : Lexed) (tokens : List Token) :
    (lexed.andThen ⟨tokens, none⟩).fault = lexed.fault := by
  obtain ⟨_, _ | fault⟩ := lexed
  · rfl
  · rfl

theorem cons_nesting (token : Token) (lexed : Lexed) :
    (lexed.cons token).nesting = token.nesting + lexed.nesting :=
  rfl

/-- The tokens of a text inside a tag that does not end in it: so many brackets are open around it
that it cannot close them. -/
def within (text : List Char) : Lexed :=
  lex (text.length + 1) (.inside .statement (text.length + 1)) text

end Lexed

theorem Brackets.nesting {before after : Nat} {tokens : List Token}
    (h : Brackets before after tokens) (fault : Option Fault) :
    (after : Int) = before + Lexed.nesting ⟨tokens, fault⟩ := by
  induction h with
  | nil => exact (Int.add_zero _).symm
  | @cons before middle after token rest hmoves hrest ih =>
      have hcons : Lexed.nesting ⟨token :: rest, fault⟩ = _ :=
        Lexed.cons_nesting token ⟨rest, fault⟩
      rw [hcons, ih, hmoves.nesting, Int.add_assoc]

/-- A bracket that is open around tokens is closed behind them, if they close only their own. -/
theorem Brackets.closed_behind {before after : Nat} {tokens read rest last : List Token}
    (h : Brackets before after tokens) (hread : Brackets (before + 1) 0 read)
    (htokens : read ++ rest = tokens ++ last) :
    ∃ more, read = tokens ++ more ∧ Brackets (after + 1) 0 more ∧ more ++ rest = last := by
  induction h generalizing read with
  | nil => exact ⟨read, rfl, hread, htokens⟩
  | @cons before middle after token tokens hmoves _ ih =>
      cases hread with
      | @cons _ middle' _ token' read hmoves' hread =>
          obtain ⟨rfl, hrest⟩ := List.cons.inj htokens
          obtain rfl : middle' = middle + 1 := by
            have hmiddle := hmoves.nesting
            have hmiddle' := hmoves'.nesting
            omega
          obtain ⟨more, rfl, hmore, hlast⟩ := ih hread hrest
          exact ⟨more, rfl, hmore, hlast⟩

section

variable {tag : Tag} {nesting : Int} {c : Char} {rest : List Char}

/-- A blank is no token. -/
theorem lex_blank (h : isTagBlank c = true) (fuel : Nat) :
    lex (fuel + 1) (.inside tag nesting) (c :: rest) = lex fuel (.inside tag nesting) rest := by
  rw [lex, if_pos h]

/-- Where the tag does not end, a token is read. -/
theorem lex_token (h : isTagBlank c = false)
    (hopen : nesting = 0 → closing? tag (c :: rest) = none) {token : Token} {behind : List Char}
    (htoken : innerToken (c :: rest) = .ok (token, behind)) (fuel : Nat) :
    lex (fuel + 1) (.inside tag nesting) (c :: rest) =
      (lex fuel (.inside tag (nesting + token.nesting)) behind).cons token := by
  have hclosed : (if nesting = 0 then closing? tag (c :: rest) else none) = none := by
    split
    next hzero => exact hopen hzero
    next => rfl
  rw [lex, if_neg (by simp [h]), hclosed, htoken]
  cases token with
  | symbol symbol => rfl
  | _ => simp only [Token.nesting, Int.add_zero]

/-- Where the tag does not end and no token is, the reading stops. -/
theorem lex_fault (h : isTagBlank c = false)
    (hopen : nesting = 0 → closing? tag (c :: rest) = none) {fault : Fault}
    (hfault : innerToken (c :: rest) = .error fault) (fuel : Nat) :
    lex (fuel + 1) (.inside tag nesting) (c :: rest) = .stop fault := by
  have hclosed : (if nesting = 0 then closing? tag (c :: rest) else none) = none := by
    split
    next hzero => exact hopen hzero
    next => rfl
  rw [lex, if_neg (by simp [h]), hclosed, hfault]

end

/-- A tag does not end in a text: either nothing in the text looks like its end, or a bracket around
the text stays open. -/
def StaysOpen (tag : Tag) (nesting : Int) (behind text : List Char) (tokens : List Token) : Prop :=
  (∀ part, part <:+ text → part ≠ [] → closing? tag (part ++ behind) = none) ∨
    ∃ before after : Nat, nesting = before + 1 ∧ Brackets before after tokens

namespace StaysOpen

variable {tag : Tag} {nesting : Int} {behind text rest : List Char} {tokens : List Token}

/-- A tag that stays open does not end where the text begins. -/
theorem closing?_eq_none {c : Char} (h : StaysOpen tag nesting behind (c :: text) tokens)
    (hzero : nesting = 0) : closing? tag (c :: text ++ behind) = none := by
  obtain hparts | ⟨before, after, hnesting, -⟩ := h
  · exact hparts (c :: text) List.suffix_rfl (List.cons_ne_nil c text)
  · omega

/-- A tag stays open behind what gives no token. -/
theorem of_suffix (h : StaysOpen tag nesting behind text tokens) (hrest : rest <:+ text) :
    StaysOpen tag nesting behind rest tokens :=
  h.imp_left fun hparts part hpart => hparts part (hpart.trans hrest)

/-- A tag stays open behind a token. -/
theorem of_token {token : Token} (h : StaysOpen tag nesting behind text (token :: tokens))
    (hrest : rest <:+ text) : StaysOpen tag (nesting + token.nesting) behind rest tokens := by
  obtain hparts | ⟨before, after, rfl, hbrackets⟩ := h
  · exact .inl fun part hpart => hparts part (hpart.trans hrest)
  · cases hbrackets with
    | @cons _ middle _ _ _ hmoves hbrackets =>
        have hmiddle := hmoves.nesting
        exact .inr ⟨middle, after, by omega, hbrackets⟩

end StaysOpen

/-- The tokens of a text are followed by those behind it, if the tag does not end in the text. -/
theorem lex_append {behind : List Char} (hstops : Stops behind) {tag : Tag} {fuel deep : Nat}
    {nesting high : Int} {text : List Char} (hfuel : (text ++ behind).length < fuel)
    (hdeep : text.length < deep) (hhigh : text.length < high)
    (hopen : StaysOpen tag nesting behind text (lex deep (.inside .statement high) text).tokens) :
    ∃ more, behind.length < more ∧ lex fuel (.inside tag nesting) (text ++ behind) =
      (lex deep (.inside .statement high) text).andThen (lex more
        (.inside tag (nesting + (lex deep (.inside .statement high) text).nesting)) behind) := by
  induction fuel generalizing deep nesting high text with
  | zero => exact absurd hfuel (Nat.not_lt_zero _)
  | succ fuel ih =>
      obtain ⟨deep, rfl⟩ : ∃ less, deep = less + 1 := ⟨deep - 1, by omega⟩
      cases text with
      | nil =>
          refine ⟨fuel + 1, hfuel, ?_⟩
          show _ = Lexed.andThen ⟨[], none⟩ (lex (fuel + 1) (.inside tag (nesting + 0)) behind)
          rw [Int.add_zero]
          rfl
      | cons c text =>
          have hnone := hopen.closing?_eq_none
          have hnever : high = 0 → closing? .statement (c :: text) = none := by
            intro hzero
            rw [hzero] at hhigh
            omega
          rw [List.length_cons] at hdeep hhigh
          rw [List.length_append, List.length_cons] at hfuel
          cases hblank : isTagBlank c with
          | true =>
              rw [lex_blank hblank] at hopen ⊢
              rw [List.cons_append, lex_blank hblank]
              exact ih (by rw [List.length_append]; omega) (by omega) (by omega)
                (hopen.of_suffix (List.suffix_cons c text))
          | false =>
              have happend := hstops.innerToken_append c text
              obtain ⟨fault, hfault, -⟩ | ⟨token, rest, htoken, hread, before, after, hmoves⟩ :=
                innerToken_cases (c :: text)
              · rw [hfault] at happend
                rw [List.cons_append] at happend hnone ⊢
                rw [lex_fault hblank hnever hfault, lex_fault hblank hnone happend]
                exact ⟨behind.length + 1, Nat.lt_succ_self _, rfl⟩
              · rw [htoken] at happend
                rw [lex_token hblank hnever htoken] at hopen ⊢
                rw [List.cons_append] at happend hnone ⊢
                rw [lex_token hblank hnone happend]
                have hshorter := hread.shorter
                have hleast := token.neg_one_le_nesting
                rw [List.length_cons] at hshorter
                obtain ⟨more, hmore, hlex⟩ :=
                  ih (by rw [List.length_append]; omega) (by omega) (by omega)
                    (hopen.of_token hread.suffix)
                refine ⟨more, hmore, ?_⟩
                rw [hlex, Lexed.cons_andThen, Lexed.cons_nesting, Int.add_assoc]

/-- The tokens of a text inside a tag that does not end in it are followed by those behind it. -/
theorem lex_within {behind : List Char} (hstops : Stops behind) {tag : Tag} {fuel : Nat}
    {nesting : Int} {text : List Char} (hfuel : (text ++ behind).length < fuel)
    (hopen : StaysOpen tag nesting behind text (Lexed.within text).tokens) :
    ∃ more, behind.length < more ∧ lex fuel (.inside tag nesting) (text ++ behind) =
      (Lexed.within text).andThen
        (lex more (.inside tag (nesting + (Lexed.within text).nesting)) behind) :=
  lex_append hstops hfuel (Nat.lt_succ_self _) (Int.lt_succ _) hopen

/-- The tokens of a text that no tag ends stand inside tags, and the fault behind them is that the
text is malformed or has a bad escape. -/
theorem lex_inside {deep : Nat} {high : Int} {text : List Char} (hdeep : text.length < deep)
    (hhigh : text.length < high) :
    (∀ token ∈ (lex deep (.inside .statement high) text).tokens,
      ∃ before after, token.Moves before after) ∧
    ∀ fault ∈ (lex deep (.inside .statement high) text).fault,
      fault.kind = .malformed ∨ fault.kind = .badEscape := by
  induction deep generalizing high text with
  | zero => exact absurd hdeep (Nat.not_lt_zero _)
  | succ deep ih =>
      cases text with
      | nil => exact ⟨nofun, nofun⟩
      | cons c text =>
          have hnever : high = 0 → closing? .statement (c :: text) = none := by
            intro hzero
            rw [hzero] at hhigh
            omega
          rw [List.length_cons] at hdeep hhigh
          cases hblank : isTagBlank c with
          | true =>
              rw [lex_blank hblank]
              exact ih (by omega) (by omega)
          | false =>
              obtain ⟨fault, hfault, hkind⟩ | ⟨token, rest, htoken, hread, hmoves⟩ :=
                innerToken_cases (c :: text)
              · rw [lex_fault hblank hnever hfault]
                exact ⟨nofun, fun _ hmem => Option.some.inj hmem ▸ hkind⟩
              · have hshorter := hread.shorter
                have hleast := token.neg_one_le_nesting
                rw [List.length_cons] at hshorter
                rw [lex_token hblank hnever htoken]
                have hlength : rest.length < deep := by omega
                have hlength' : (rest.length : Int) < high + token.nesting := by omega
                obtain ⟨htokens, hfaults⟩ := ih hlength hlength'
                refine ⟨fun other hother => ?_, hfaults⟩
                obtain rfl | hother := List.mem_cons.mp hother
                · exact hmoves
                · exact htokens other hother

end RecordRecipe.Expr
