import RecordRecipe.Proofs.Sink.Dot

/-!
# Escaped texts and the names of nodes

Between quotes, a backslash and a quote are each written as a pair that a backslash begins. A
reader of pairs reads exactly what has been escaped, and gives back the text. The name of a node is
an escaped table, a space and an id; a table may hold spaces and digits itself, but an id holds no
space, so that the last space tells where the table ends. `Sink.nodeName_tells_row` puts the two
together: names tell rows apart.
-/

namespace RecordRecipe.Dot

/-! ## Escaping as replacement -/

/-- Write a piece for each occurrence of a character. -/
def replaceChar (c : Char) (piece text : String) : String :=
  String.ofList (text.toList.flatMap fun d => if d = c then piece.toList else [d])

theorem toList_replaceChar (c : Char) (piece text : String) :
    (replaceChar c piece text).toList =
      text.toList.flatMap fun d => if d = c then piece.toList else [d] :=
  String.toList_ofList

/-- Escaping replaces all backslashes and then all quotes. Character by character this is the same,
since the backslashes that come in front of quotes are not escaped again. -/
theorem dotEscape_eq_replaceChar (text : String) :
    Sink.dotEscape text = replaceChar '\x22' "\\\"" (replaceChar '\\' "\\\\" text) := by
  have hchar (c : Char) : Sink.dotEscapeChar c =
      (if c = '\\' then "\\\\".toList else [c]).flatMap fun d =>
        if d = '\x22' then "\\\"".toList else [d] := by
    unfold Sink.dotEscapeChar
    split_ifs with hbackslash hquote
    · rfl
    · simp [hquote]
    · simp [hquote]
  rw [replaceChar, toList_replaceChar, List.flatMap_assoc, Sink.dotEscape]
  simp only [← hchar]

/-! ## Reading pairs -/

/-- Read a text between quotes. A pair of a backslash and a character that may be escaped stands for
that character. There is no reading if a backslash begins no such pair, or if a quote stands
alone. -/
def readPairs? : List Char → Option (List Char)
  | [] => some []
  | '\\' :: '\\' :: rest => (readPairs? rest).map ('\\' :: ·)
  | '\\' :: '\x22' :: rest => (readPairs? rest).map ('\x22' :: ·)
  | c :: rest => if c = '\\' ∨ c = '\x22' then none else (readPairs? rest).map (c :: ·)

/-- The text that has been escaped. -/
def unescaped? (written : String) : Option String :=
  (readPairs? written.toList).map String.ofList

theorem readPairs?_flatMap (text : List Char) :
    readPairs? (text.flatMap Sink.dotEscapeChar) = some text := by
  induction text with
  | nil => rfl
  | cons c text ih =>
      rw [List.flatMap_cons, Sink.dotEscapeChar]
      split_ifs with hbackslash hquote
      · simp [readPairs?, ih, hbackslash]
      · simp [readPairs?, ih, hquote]
      · simp [readPairs?, ih, hbackslash, hquote]

/-- What can be read has been escaped. -/
theorem eq_flatMap_of_readPairs? {written text : List Char} (h : readPairs? written = some text) :
    written = text.flatMap Sink.dotEscapeChar := by
  fun_induction readPairs? written generalizing text with
  | case1 =>
      cases h
      rfl
  | case2 rest ih | case3 rest ih =>
      obtain ⟨text, hrest, rfl⟩ := Option.map_eq_some_iff.mp h
      rw [ih hrest]
      rfl
  | case4 => cases h
  | case5 c rest _ _ hplain ih =>
      obtain ⟨text, hrest, rfl⟩ := Option.map_eq_some_iff.mp h
      obtain ⟨hbackslash, hquote⟩ := not_or.mp hplain
      rw [List.flatMap_cons, ← ih hrest, Sink.dotEscapeChar, if_neg hbackslash, if_neg hquote]
      rfl

/-- Reading accepts what escaping produces, and nothing else. -/
theorem unescaped?_eq_some_iff {written text : String} :
    unescaped? written = some text ↔ written = Sink.dotEscape text := by
  rw [unescaped?, Option.map_eq_some_iff, Sink.dotEscape]
  constructor
  · rintro ⟨chars, hread, rfl⟩
    rw [String.toList_ofList, ← eq_flatMap_of_readPairs? hread, String.ofList_toList]
  · rintro rfl
    exact ⟨text.toList, by rw [String.toList_ofList, readPairs?_flatMap], String.ofList_toList⟩

example : unescaped? "C:\\\\new \\\"x\\\"" = some "C:\\new \"x\"" ∧
    unescaped? "C:\\new" = none := by decide

theorem quote_inj {content other : String} (h : quote content = quote other) :
    content = other := by
  have hchars := congrArg String.toList h
  simp only [quote, String.toList_append] at hchars
  exact String.toList_inj.mp (List.append_cancel_left (List.append_cancel_right hchars))

end RecordRecipe.Dot

namespace RecordRecipe.Sink

/-- Two nodes have the same name only if they have the same table and the same id, whatever spaces,
quotes, backslashes or digits the tables hold. Escaping replaces backslashes and then quotes.
Reading pairs is its inverse, on exactly the texts that have been escaped; so different texts are
escaped differently. In what has been escaped every quote is, and no backslash waits for a
character. -/
theorem nodeName_tells_row (table other : String) (id number : Nat) (text written : String) :
    (nodeName table (toString id) = nodeName other (toString number) ↔
      table = other ∧ id = number) ∧
    dotEscape text = Dot.replaceChar '\x22' "\\\"" (Dot.replaceChar '\\' "\\\\" text) ∧
    (Dot.unescaped? written = some text ↔ written = dotEscape text) ∧
    Function.Injective dotEscape ∧
    Dot.IsClosed (dotEscape text) := by
  refine ⟨⟨fun h => ?_, fun ⟨htable, hid⟩ => by rw [htable, hid]⟩,
    Dot.dotEscape_eq_replaceChar text, Dot.unescaped?_eq_some_iff, fun first second h => ?_,
    Dot.isClosed_dotEscape text⟩
  · rw [nodeName_eq_quote, nodeName_eq_quote] at h
    exact Dot.nodeText_inj (Dot.quote_inj h)
  · exact Dot.dotEscape_injective h

end RecordRecipe.Sink
