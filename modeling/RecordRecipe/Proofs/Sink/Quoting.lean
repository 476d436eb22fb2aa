import RecordRecipe.Proofs.Sink.Dot

/-!
# Strings in the lines of graphs

The lines of a graph hold names and labels in quotes, which are put together from the texts of a
recipe. A scanner knows nothing of how they were put together: a string ends at the first quote that
no backslash escapes. `Sink.dot_lines_delimited` says when the strings of a line end where the sink
has ended them: those of an edge always do, and so does every label, whose lines read back as the
texts of the row; the name of a node does if and only if what the row shows under `id`, which is not
escaped, is closed.
-/

namespace RecordRecipe.Dot

/-! ## Lines taken apart -/

/-- Take a text apart at the quotes that open and close its strings: by turns what stands outside of
strings and what stands in them. In a string, a backslash that is not escaped itself escapes the
character behind it. -/
def parts (inside escaped : Bool) : List Char → List (List Char)
  | [] => [[]]
  | c :: rest =>
      if c = '\x22' ∧ escaped = false then [] :: parts (!inside) false rest
      else (parts inside (inside && c = '\\' && !escaped) rest).modifyHead (c :: ·)

/-- The parts of a line. -/
def lineParts (line : String) : List String :=
  (parts false false line.toList).map String.ofList

variable {escaped : Bool} {rest : List Char} {more : List (List Char)}

theorem modifyHead_cons_eq_iff {c : Char} {content : List Char} {found : List (List Char)} :
    found.modifyHead (c :: ·) = (c :: content) :: more ↔ found = content :: more := by
  cases found <;> simp

/-- A string ends at the quote behind its content if and only if its content is closed. -/
theorem parts_inside_append_eq_iff {content : List Char} :
    parts true escaped (content ++ '\x22' :: rest) = content :: more ↔
      scan escaped content = some false ∧ parts false false rest = more := by
  induction content generalizing escaped with
  | nil =>
      cases escaped with
      | false => simp [parts, scan]
      | true =>
          have hhead : ∀ found : List (List Char),
              found.modifyHead ('\x22' :: ·) ≠ [] :: more := fun found => by
            cases found <;> simp
          simp [parts, scan, hhead]
  | cons c content ih =>
      rw [List.cons_append, parts, scan]
      split
      next => simp
      next => rw [modifyHead_cons_eq_iff, Bool.true_and, ih]

/-- What stands outside of strings goes on up to the next quote. -/
theorem parts_outside_append_eq_iff {bare : List Char} (h : '\x22' ∉ bare) :
    parts false false (bare ++ '\x22' :: rest) = bare :: more ↔ parts true false rest = more := by
  induction bare with
  | nil => simp [parts]
  | cons c bare ih =>
      obtain ⟨hc, hbare⟩ := List.ne_and_not_mem_of_not_mem_cons h
      rw [List.cons_append, parts, if_neg fun hquote => hc hquote.1.symm, Bool.false_and,
        Bool.false_and, modifyHead_cons_eq_iff, ih hbare]

theorem parts_outside {bare : List Char} (h : '\x22' ∉ bare) : parts false false bare = [bare] := by
  induction bare with
  | nil => rfl
  | cons c bare ih =>
      obtain ⟨hc, hbare⟩ := List.ne_and_not_mem_of_not_mem_cons h
      rw [parts, if_neg fun hquote => hc hquote.1.symm, Bool.false_and, Bool.false_and, ih hbare]
      rfl

/-- The parts that the line of a node or an edge is meant to have. -/
def Statement.parts : Statement → List String
  | node name label => ["  ", name, " [label=", label, "];\n"]
  | edge source target label => ["  ", source, " -> ", target, " [label=", label, "];\n"]

/-- Every string of the line ends at the quote that has been written to close it. -/
def Statement.Delimited (statement : Statement) : Prop :=
  lineParts statement.text = statement.parts

instance (statement : Statement) : Decidable statement.Delimited :=
  inferInstanceAs (Decidable (_ = _))

theorem map_ofList_eq_iff {pieces : List (List Char)} {texts : List String} :
    pieces.map String.ofList = texts ↔ pieces = texts.map String.toList := by
  constructor
  · rintro rfl
    simp
  · rintro rfl
    simp

/-- A line is taken apart as it is meant to be if and only if its texts are closed. -/
theorem Statement.delimited_iff (statement : Statement) :
    statement.Delimited ↔ statement.IsClosed := by
  rw [Delimited, lineParts, map_ofList_eq_iff]
  cases statement with
  | node name label =>
      have htext : (node name label).text.toList = "  ".toList ++ '\x22' :: (name.toList ++
          '\x22' :: (" [label=".toList ++ '\x22' :: (label.toList ++ '\x22' :: "];\n".toList))) := by
        simp [Statement.text, quote]
      rw [htext]
      simp only [Statement.parts, List.map_cons, List.map_nil]
      rw [parts_outside_append_eq_iff (by decide), parts_inside_append_eq_iff,
        parts_outside_append_eq_iff (by decide), parts_inside_append_eq_iff,
        parts_outside (by decide)]
      simp [Statement.IsClosed, Dot.IsClosed]
  | edge source target label =>
      have htext : (edge source target label).text.toList = "  ".toList ++ '\x22' ::
          (source.toList ++ '\x22' :: (" -> ".toList ++ '\x22' :: (target.toList ++ '\x22' ::
            (" [label=".toList ++ '\x22' :: (label.toList ++ '\x22' :: "];\n".toList))))) := by
        simp [Statement.text, quote]
      rw [htext]
      simp only [Statement.parts, List.map_cons, List.map_nil]
      rw [parts_outside_append_eq_iff (by decide), parts_inside_append_eq_iff,
        parts_outside_append_eq_iff (by decide), parts_inside_append_eq_iff,
        parts_outside_append_eq_iff (by decide), parts_inside_append_eq_iff,
        parts_outside (by decide)]
      simp [Statement.IsClosed, Dot.IsClosed]

example : lineParts "  \"A \\\"1\" [x];" = ["  ", "A \\\"1", " [x];"] := by decide

/-! ## Labels read back -/

/-- The lines of a label: `\n` breaks a line, and any other character behind a backslash stands for
itself. -/
def brokenLines (escaped : Bool) : List Char → List (List Char)
  | [] => [[]]
  | c :: rest =>
      if c = 'n' ∧ escaped = true then [] :: brokenLines false rest
      else if c = '\\' ∧ escaped = false then brokenLines true rest
      else (brokenLines false rest).modifyHead (c :: ·)

/-- The lines of a label, as texts. -/
def labelLines (label : String) : List String :=
  (brokenLines false label.toList).map String.ofList

theorem brokenLines_mark : brokenLines false ("\\n".toList ++ rest) = [] :: brokenLines false rest := by
  simp [brokenLines]

theorem brokenLines_dotEscapeChar (c : Char) :
    brokenLines false (Sink.dotEscapeChar c ++ rest) =
      (brokenLines false rest).modifyHead (c :: ·) := by
  unfold Sink.dotEscapeChar
  split_ifs with hbackslash hquote
  · simp [brokenLines, hbackslash]
  · simp [brokenLines, hquote]
  · simp [brokenLines, hbackslash]

/-- A text that has been escaped goes on the line that it stands on. -/
theorem brokenLines_dotEscape (content : String) :
    brokenLines false ((Sink.dotEscape content).toList ++ rest) =
      (brokenLines false rest).modifyHead (content.toList ++ ·) := by
  unfold Sink.dotEscape
  rw [String.toList_ofList]
  induction content.toList with
  | nil => cases hrest : brokenLines false rest <;> simp [hrest]
  | cons c chars ih =>
      rw [List.flatMap_cons, List.append_assoc, brokenLines_dotEscapeChar, ih]
      cases brokenLines false rest <;> rfl

/-- Each field of a label has a line of its own. -/
theorem brokenLines_labelParts (fields : Assoc FieldValue) :
    brokenLines false (String.join (fields.map Sink.labelPart)).toList =
      [] :: fields.map fun field => (field.1 ++ ": " ++ field.2.display).toList := by
  induction fields with
  | nil => rfl
  | cons field fields ih =>
      have htext : (String.join ((field :: fields).map Sink.labelPart)).toList = "\\n".toList ++
          ((Sink.dotEscape field.1).toList ++ ((Sink.dotEscape ": ").toList ++
            ((Sink.dotEscape field.2.display).toList ++
              (String.join (fields.map Sink.labelPart)).toList))) := by
        have hcolon : Sink.dotEscape ": " = ": " := by decide
        simp [Sink.labelPart, hcolon]
      rw [htext, brokenLines_mark, brokenLines_dotEscape, brokenLines_dotEscape,
        brokenLines_dotEscape, ih]
      simp

/-- The lines of a node's label are the table with what is shown as the id, and each other field with
its value. -/
theorem labelLines_nodeLabel (table : String) (row : EncodedRow) :
    labelLines (Sink.nodeLabel table row) = (table ++ "(" ++ Sink.idText row ++ ")") ::
      (row.drop "id").map fun field => field.1 ++ ": " ++ field.2.display := by
  rw [labelLines, map_ofList_eq_iff, Sink.nodeLabel, String.toList_append, brokenLines_dotEscape,
    brokenLines_labelParts]
  simp only [List.modifyHead_cons, List.append_nil, List.map_cons, List.map_map, Function.comp_def]

example : labelLines (Sink.nodeLabel "Odd\"Table" [("id", .ofInt 1), ("path", .text "C:\\new \"x\"")]) =
    ["Odd\"Table(1)", "path: C:\\new \"x\""] := by decide

theorem labelLines_dotEscape (content : String) :
    labelLines (Sink.dotEscape content) = [content] := by
  have hlines : brokenLines false ((Sink.dotEscape content).toList ++ []) =
      (brokenLines false []).modifyHead (content.toList ++ ·) := brokenLines_dotEscape content
  rw [List.append_nil] at hlines
  rw [labelLines, map_ofList_eq_iff, hlines]
  simp [brokenLines]

/-! ## Values that need no escaping -/

theorem isClosed_digits {digits : List Char} (h : ∀ c ∈ digits, c.isDigit = true) :
    IsClosed (String.ofList digits) :=
  isClosed_of_plain fun c hc => by
    have hdigit := h c (by rwa [String.toList_ofList] at hc)
    constructor <;> (rintro rfl; exact absurd hdigit (by decide))

theorem isClosed_padded (width n : Nat) : IsClosed (Text.padded width n) := by
  refine isClosed_digits fun c hc => ?_
  obtain hzero | hdigit := List.mem_append.mp hc
  · rw [List.eq_of_mem_replicate hzero]
    rfl
  · exact Nat.isDigit_of_mem_toDigits (by omega) (by omega) hdigit

theorem isClosed_date (day : Calendar.Date) : IsClosed day.text := by
  have hyear : IsClosed (Calendar.yearText day.year) := by
    unfold Calendar.yearText
    split_ifs
    · exact isClosed_padded _ _
    · exact IsClosed.append (by decide) (isClosed_padded _ _)
    · exact IsClosed.append (by decide) (isClosed_padded _ _)
  have hhyphen : IsClosed "-" := by decide
  exact (((hyear.append hhyphen).append (isClosed_padded _ _)).append hhyphen).append
    (isClosed_padded _ _)

theorem isClosed_moment (time : Calendar.Moment) : IsClosed time.text := by
  have hspace : IsClosed " " := by decide
  have hcolon : IsClosed ":" := by decide
  exact (((((isClosed_date _).append hspace).append (isClosed_padded _ _)).append hcolon).append
    (isClosed_padded _ _)).append hcolon |>.append (isClosed_padded _ _)

theorem isClosed_toString_int (n : Int) : IsClosed (toString n) :=
  isClosed_of_plain fun c hc => by
    have hnumeral := JsonValue.isNumberChar_of_mem_isNumeral (JsonValue.isNumeral_toString n) c hc
    constructor <;> (rintro rfl; exact absurd hnumeral (by decide))

/-- Digits, zeros and a point are all that a number without an exponent is written with. -/
theorem mem_positional {digits : List Char} (hdigits : ∀ c ∈ digits, c.isDigit = true)
    {places : Int} : ∀ c ∈ Decimal.positional false digits places, c.isDigit = true ∨ c = '.' := by
  intro c hc
  have hzero {count : Nat} (h : c ∈ List.replicate count '0') : c.isDigit = true := by
    rw [List.eq_of_mem_replicate h]
    rfl
  simp only [Decimal.positional, Bool.false_eq_true, if_false, List.append_nil] at hc
  split at hc
  next =>
    simp only [List.mem_cons, List.mem_append] at hc
    obtain rfl | rfl | h | h := hc
    · exact .inl rfl
    · exact .inr rfl
    · exact .inl (hzero h)
    · exact .inl (hdigits c h)
  next =>
    split at hc
    next =>
      obtain h | h := List.mem_append.mp hc
      · exact .inl (hdigits c h)
      · exact .inl (hzero h)
    next =>
      simp only [List.mem_append, List.mem_cons] at hc
      obtain h | rfl | h := hc
      · exact .inl (hdigits c (List.mem_of_mem_take h))
      · exact .inr rfl
      · exact .inl (hdigits c (List.mem_of_mem_drop h))

theorem isClosed_float (x : Float) : IsClosed (Decimal.Layout.field.format x) := by
  unfold Decimal.Layout.format
  split
  next => split_ifs <;> decide
  next v _ =>
    have hclosed {text : List Char} (h : ∀ c ∈ text, c.isDigit = true ∨ c = '.') (sign : Bool) :
        IsClosed (String.ofList (if sign then '-' :: text else text)) := by
      refine isClosed_of_plain fun c hc => ?_
      have hplain : c = '-' ∨ c.isDigit = true ∨ c = '.' := by
        cases sign with
        | false => exact .inr (h c (by simpa using hc))
        | true => exact (List.mem_cons.mp (by simpa using hc)).imp_right (h c)
      obtain rfl | hdigit | rfl := hplain
      · decide
      · constructor <;> (rintro rfl; exact absurd hdigit (by decide))
      · decide
    refine hclosed ?_ v.negative
    split
    · show ∀ c ∈ ['0'], c.isDigit = true ∨ c = '.'
      exact List.forall_mem_singleton.mpr (.inl rfl)
    · exact mem_positional fun c hc => Nat.isDigit_of_mem_toDigits (by omega) (by omega) hc

/-- What a row shows under `id` is closed unless that is a text or a row. -/
theorem isClosed_idText {row : EncodedRow} (htext : ∀ content, row.find? "id" ≠ some (.text content))
    (hrow : ∀ target, row.find? "id" ≠ some (.row target)) : IsClosed (Sink.idText row) := by
  unfold Sink.idText
  split
  next value hvalue =>
    cases value with
    | null => decide
    | bool flag => cases flag <;> decide
    | int n => exact isClosed_toString_int _
    | float x => exact isClosed_float x
    | text content => exact absurd hvalue (htext content)
    | date day => exact isClosed_date day
    | moment time => exact isClosed_moment time
    | row target => exact absurd hvalue (hrow target)
  next => decide

end RecordRecipe.Dot

namespace RecordRecipe

open RecordRecipe.Dot (IsClosed Statement labelLines lineParts nodeText)

/-- The label of a node or an edge. -/
def Dot.Statement.label : Statement → String
  | node _ label => label
  | edge _ _ label => label

theorem Row.isClosed_edges (row : Row) : ∀ edge ∈ row.edges, edge.IsClosed := by
  intro edge hedge
  obtain ⟨reference, _, rfl⟩ := List.mem_map.mp hedge
  exact ⟨Dot.isClosed_nodeText _ (Dot.isClosed_toString _),
    Dot.isClosed_nodeText _ (Dot.isClosed_toString _), Dot.isClosed_dotEscape _⟩

/-- The name of a node is closed only if what the row shows under `id` is. -/
theorem Dot.isClosed_nodeText_iff (table id : String) : IsClosed (nodeText table id) ↔ IsClosed id := by
  refine ⟨fun h => ?_, Dot.isClosed_nodeText table⟩
  have hspace : IsClosed " " := by decide
  have hbefore := (Dot.isClosed_dotEscape table).append hspace
  unfold IsClosed nodeText at *
  rwa [String.toList_append, Dot.scan_append, hbefore] at h

namespace Sink

/-- The graph sink writes a stored row as the line of its node, and a row as the lines of its edges and
of its node. In the line of an edge, whatever the texts of the recipe are, every string ends at the
quote that has been written to close it, and its label reads back as the field. In the line of a node
this holds if and only if the text under `id` is closed, as it is unless a text or a row stands there;
the label reads back as the table and the text under `id`, and each other field with its value, with
a line break in front of each field and nowhere else. -/
theorem dot_lines_delimited (table : String) (encoded : EncodedRow) (row : Row) (state : Drawing) :
    (∃ last, dot.store table encoded state = (.ok (), last) ∧
      last.start.text = state.start.text ++ (nodeOf table encoded).text) ∧
    (∃ last, dot.write row state = (.ok (), last) ∧
      last.start.text = state.start.text ++
        String.join ((row.edges ++ [nodeOf row.table row.drawn]).map Statement.text)) ∧
    (∀ edge ∈ row.edges, edge.Delimited) ∧
    row.edges.map (fun edge => labelLines edge.label) =
      (visibleReferences row.fields).map (fun reference => [reference.1]) ∧
    ((nodeOf table encoded).Delimited ↔ IsClosed (idText encoded)) ∧
    (IsClosed (idText encoded) ∨
      (∃ content, encoded.find? "id" = some (.text content)) ∨
      ∃ target, encoded.find? "id" = some (.row target)) ∧
    labelLines (nodeOf table encoded).label =
      (table ++ "(" ++ idText encoded ++ ")") ::
        (encoded.drop "id").map fun field => field.1 ++ ": " ++ field.2.display := by
  refine ⟨⟨_, rfl, ?_⟩, dot_write row state, fun edge hedge => ?_, ?_, ?_, ?_, ?_⟩
  · rw [Drawing.start_write, ← nodeLine_eq]
    rfl
  · exact edge.delimited_iff.mpr (row.isClosed_edges edge hedge)
  · rw [Row.edges, List.map_map]
    exact List.map_congr_left fun reference _ => Dot.labelLines_dotEscape reference.1
  · rw [Statement.delimited_iff]
    exact (and_iff_left (Dot.isClosed_label table encoded)).trans (Dot.isClosed_nodeText_iff _ _)
  · by_contra hopen
    simp only [not_or, not_exists] at hopen
    exact hopen.1 (Dot.isClosed_idText hopen.2.1 hopen.2.2)
  · exact Dot.labelLines_nodeLabel table encoded

end Sink

namespace Recipe

/-- A recipe that gives a row a text under `id`, in which a quote ends the name of the node. -/
def torn : Recipe where
  file := "recipe.yml"
  options := []
  groups := []
  templates :=
    [.mk "A" none none
      [.mk "id" (.value ⟨.text "1\"; \"B 1", "recipe.yml", 3⟩) "recipe.yml" 3] [] "recipe.yml" 1]

/-- The line of a node whose name ends before its last quote: the line declares a second node. -/
theorem dot_line_of_torn :
    (torn.generate once Sink.dot {}).1.isOk = true ∧
    ∃ node : Statement,
      (torn.generate once Sink.dot {}).2.text = Dot.opening ++ node.text ∧
      node.parts = ["  ", "A 1\"; \"B 1", " [label=", "A(1\\\"; \\\"B 1)", "];\n"] ∧
      lineParts node.text = ["  ", "A 1", "; ", "B 1", " [label=", "A(1\\\"; \\\"B 1)", "];\n"] ∧
      ¬ node.Delimited := by
  refine ⟨by decide +kernel, .node "A 1\"; \"B 1" "A(1\\\"; \\\"B 1)", ?_⟩
  decide +kernel

end Recipe

end RecordRecipe
