import RecordRecipe.Sink.Dot
import RecordRecipe.Proofs.Decimal.Layout
import RecordRecipe.Proofs.Expr.Lookup

/-!
# Reading graphs

The graph sink writes nodes and edges one behind the other, between an opening line and a closing
brace. Names and labels stand in quotes; a text in quotes ends at the first quote that is not
escaped, whatever it was meant to be. Reading gives back the nodes and edges of every graph whose
texts are closed, as those that have been escaped are: `Dot.graph?_text`. Nodes that are named by a
table and a number have different names for different rows: `Dot.nodeText_inj`.
-/

namespace RecordRecipe.Dot

/-! ## Graphs -/

/-- A node or an edge, with its texts as they are written between the quotes. -/
inductive Statement where
  | node (name label : String)
  | edge (source target label : String)
deriving DecidableEq

/-- A text in quotes. -/
def quote (content : String) : String := "\"" ++ content ++ "\""

/-- How a node or an edge is written. -/
def Statement.text : Statement → String
  | node name label => "  " ++ quote name ++ " [label=" ++ quote label ++ "];\n"
  | edge source target label =>
      "  " ++ quote source ++ " -> " ++ quote target ++ " [label=" ++ quote label ++ "];\n"

/-- The name that a node declares. -/
def Statement.name? : Statement → Option String
  | node name _ => some name
  | edge _ _ _ => none

/-- The source, the target and the label of an edge. -/
def Statement.ends? : Statement → Option (String × String × String)
  | node _ _ => none
  | edge source target label => some (source, target, label)

/-- The text before all nodes and edges. -/
def opening : String := "digraph synthgen \x7b\n  node [shape=box];\n"

/-- The text behind all nodes and edges. -/
def closing : String := "\x7d\n"

/-- How a graph is written. -/
def text (graph : List Statement) : String :=
  opening ++ String.join (graph.map Statement.text) ++ closing

/-! ## The reader -/

/-- Read the characters up to the quote that ends them, and what stands behind it. A backslash that is
not escaped itself escapes the character behind it. -/
def readContent? (escaped : Bool) : List Char → Option (List Char × List Char)
  | [] => none
  | c :: rest =>
      if c = '\x22' ∧ escaped = false then some ([], rest)
      else (readContent? (c = '\\' && !escaped) rest).map fun read => (c :: read.1, read.2)

/-- Read a piece that has to stand here. -/
def expect? (piece : String) (text : List Char) : Option (List Char) :=
  if piece.toList.isPrefixOf text then some (text.drop piece.toList.length) else none

/-- Read a text in quotes. -/
def readQuoted? (text : List Char) : Option (String × List Char) := do
  let (content, rest) ← readContent? false (← expect? "\"" text)
  return (String.ofList content, rest)

/-- Read a label and the end of its line. -/
def readLabel? (text : List Char) : Option (String × List Char) := do
  let (label, rest) ← readQuoted? (← expect? " [label=" text)
  return (label, ← expect? "];\n" rest)

/-- Read a node or an edge. -/
def readStatement? (text : List Char) : Option (Statement × List Char) := do
  let (name, rest) ← readQuoted? (← expect? "  " text)
  match expect? " -> " rest with
  | some rest =>
      let (target, rest) ← readQuoted? rest
      let (label, rest) ← readLabel? rest
      return (.edge name target label, rest)
  | none =>
      let (label, rest) ← readLabel? rest
      return (.node name label, rest)

/-- Read nodes and edges up to the end of a graph, as many as the given number at most. -/
def readStatements? : Nat → List Char → Option (List Statement)
  | 0, text => if text = closing.toList then some [] else none
  | left + 1, text =>
      if text = closing.toList then some []
      else do
        let (statement, rest) ← readStatement? text
        return statement :: (← readStatements? left rest)

/-- Read a graph. -/
def graph? (text : String) : Option (List Statement) := do
  readStatements? text.length (← expect? opening text.toList)

/-! ## Closed texts -/

/-- Go through a text between quotes: gives whether a backslash still escapes what comes behind, unless
a quote ends the text before. -/
def scan (escaped : Bool) : List Char → Option Bool
  | [] => some escaped
  | c :: rest =>
      if c = '\x22' ∧ escaped = false then none else scan (c = '\\' && !escaped) rest

/-- All quotes in a text are escaped, and no backslash waits for a character. -/
def IsClosed (content : String) : Prop := scan false content.toList = some false

instance (content : String) : Decidable (IsClosed content) :=
  inferInstanceAs (Decidable (_ = _))

theorem scan_append (escaped : Bool) (first rest : List Char) :
    scan escaped (first ++ rest) = (scan escaped first).bind fun escaped => scan escaped rest := by
  induction first generalizing escaped with
  | nil => rfl
  | cons c first ih =>
      rw [List.cons_append, scan, scan]
      split
      next => rfl
      next => exact ih _

/-- Closed texts may be put together. -/
theorem IsClosed.append {first rest : String} (hfirst : IsClosed first) (hrest : IsClosed rest) :
    IsClosed (first ++ rest) := by
  unfold IsClosed at *
  rw [String.toList_append, scan_append, hfirst]
  exact hrest

theorem IsClosed.join {pieces : List String} (h : ∀ piece ∈ pieces, IsClosed piece) :
    IsClosed (String.join pieces) := by
  induction pieces with
  | nil => decide
  | cons piece pieces ih =>
      obtain ⟨hpiece, hpieces⟩ := List.forall_mem_cons.mp h
      rw [String.join_cons]
      exact hpiece.append (ih hpieces)

/-- A text without quotes and backslashes is closed. -/
theorem isClosed_of_plain {content : String}
    (h : ∀ c ∈ content.toList, c ≠ '\x22' ∧ c ≠ '\\') : IsClosed content := by
  unfold IsClosed
  generalize content.toList = chars at h
  induction chars with
  | nil => rfl
  | cons c chars ih =>
      obtain ⟨⟨hquote, hbackslash⟩, hchars⟩ := List.forall_mem_cons.mp h
      simp only [scan, hquote, hbackslash, false_and, if_false, decide_false, Bool.false_and]
      exact ih hchars

/-- What has been escaped is closed. -/
theorem isClosed_dotEscape (content : String) : IsClosed (Sink.dotEscape content) := by
  unfold IsClosed Sink.dotEscape
  rw [String.toList_ofList]
  generalize content.toList = chars
  induction chars with
  | nil => rfl
  | cons c chars ih =>
      have hfirst : scan false (Sink.dotEscapeChar c) = some false := by
        unfold Sink.dotEscapeChar
        split_ifs with hbackslash hquote
        · rfl
        · rfl
        · simp [scan, hbackslash, hquote]
      rw [List.flatMap_cons, scan_append, hfirst]
      exact ih

/-! ## Reading what has been written -/

variable {rest : List Char}

theorem expect?_append (piece : String) : expect? piece (piece.toList ++ rest) = some rest := by
  simp [expect?]

/-- A closed text is read up to the quote that has been written behind it. -/
theorem readContent?_append {escaped : Bool} {content : List Char}
    (h : scan escaped content = some false) :
    readContent? escaped (content ++ '\x22' :: rest) = some (content, rest) := by
  induction content generalizing escaped with
  | nil =>
      obtain rfl : escaped = false := Option.some.inj h
      simp [readContent?]
  | cons c content ih =>
      rw [scan] at h
      split at h
      next => cases h
      next hopen =>
        rw [List.cons_append, readContent?, if_neg hopen, ih h]
        rfl

theorem readQuoted?_append {content : String} (h : IsClosed content) :
    readQuoted? ((quote content).toList ++ rest) = some (content, rest) := by
  have htext : (quote content).toList ++ rest =
      "\"".toList ++ (content.toList ++ '\x22' :: rest) := by
    simp [quote]
  rw [htext, readQuoted?, expect?_append]
  simp [readContent?_append h]

theorem readLabel?_append {label : String} (h : IsClosed label) :
    readLabel? ((" [label=" ++ quote label ++ "];\n").toList ++ rest) = some (label, rest) := by
  simp only [String.toList_append, List.append_assoc]
  rw [readLabel?, expect?_append]
  simp only [Option.bind_eq_bind, Option.bind_some, readQuoted?_append h]
  rw [expect?_append]
  rfl

/-- The texts of a node or an edge are closed. -/
def Statement.IsClosed : Statement → Prop
  | node name label => Dot.IsClosed name ∧ Dot.IsClosed label
  | edge source target label =>
      Dot.IsClosed source ∧ Dot.IsClosed target ∧ Dot.IsClosed label

theorem readStatement?_append {statement : Statement} (h : statement.IsClosed) :
    readStatement? (statement.text.toList ++ rest) = some (statement, rest) := by
  cases statement with
  | node name label =>
      obtain ⟨hname, hlabel⟩ := h
      have htext : (Statement.node name label).text.toList ++ rest = "  ".toList ++
          ((quote name).toList ++ ((" [label=" ++ quote label ++ "];\n").toList ++ rest)) := by
        simp [Statement.text]
      have harrow : expect? " -> " ((" [label=" ++ quote label ++ "];\n").toList ++ rest) = none := by
        simp [expect?]
      rw [htext, readStatement?, expect?_append]
      simp only [Option.bind_eq_bind, Option.bind_some, readQuoted?_append hname, harrow,
        readLabel?_append hlabel, pure]
  | edge source target label =>
      obtain ⟨hsource, htarget, hlabel⟩ := h
      have htext : (Statement.edge source target label).text.toList ++ rest = "  ".toList ++
          ((quote source).toList ++ (" -> ".toList ++ ((quote target).toList ++
            ((" [label=" ++ quote label ++ "];\n").toList ++ rest)))) := by
        simp [Statement.text]
      rw [htext, readStatement?, expect?_append]
      simp only [Option.bind_eq_bind, Option.bind_some, readQuoted?_append hsource, expect?_append,
        readQuoted?_append htarget, readLabel?_append hlabel, pure]

/-- A node or an edge is not taken for the end of the graph. -/
theorem text_append_ne_closing (statement : Statement) (rest : List Char) :
    statement.text.toList ++ rest ≠ closing.toList := by
  cases statement <;> simp [Statement.text, closing]

theorem readStatements?_append {graph : List Statement}
    (h : ∀ statement ∈ graph, statement.IsClosed) {left : Nat} (hleft : graph.length ≤ left) :
    readStatements? left ((String.join (graph.map Statement.text)).toList ++ closing.toList) =
      some graph := by
  induction graph generalizing left with
  | nil => cases left <;> simp [readStatements?]
  | cons statement graph ih =>
      obtain ⟨hstatement, hgraph⟩ := List.forall_mem_cons.mp h
      cases left with
      | zero => cases hleft
      | succ left =>
          have htext : (String.join ((statement :: graph).map Statement.text)).toList ++
              closing.toList = statement.text.toList ++
                ((String.join (graph.map Statement.text)).toList ++ closing.toList) := by
            simp
          have hrest := ih hgraph (Nat.le_of_succ_le_succ hleft)
          rw [htext, readStatements?, if_neg (text_append_ne_closing _ _)]
          simp only [readStatement?_append hstatement, hrest, Option.bind_eq_bind,
            Option.bind_some, pure]

/-- A graph has no more nodes and edges than its text has characters. -/
theorem length_le_length_text (graph : List Statement) : graph.length ≤ (text graph).length := by
  have hlength : graph.length ≤ (String.join (graph.map Statement.text)).length := by
    induction graph with
    | nil => exact Nat.zero_le _
    | cons statement graph ih =>
        have hstatement : 1 ≤ statement.text.length := by
          have hmargin : "  ".length = 2 := rfl
          cases statement <;> simp only [Statement.text, String.length_append, hmargin] <;> omega
        rw [List.map_cons, String.join_cons, String.length_append, List.length_cons]
        omega
  rw [text, String.length_append, String.length_append]
  omega

/-- A graph whose texts are closed is read as it has been written. -/
theorem graph?_text {graph : List Statement} (h : ∀ statement ∈ graph, statement.IsClosed) :
    graph? (text graph) = some graph := by
  have htext : (text graph).toList = opening.toList ++
      ((String.join (graph.map Statement.text)).toList ++ closing.toList) := by
    simp [text]
  rw [graph?, htext, expect?_append]
  exact readStatements?_append h (length_le_length_text graph)

/-! ## Names -/

/-- Undo escaping: a backslash that is not escaped itself is left out. -/
def unescape (escaped : Bool) : List Char → List Char
  | [] => []
  | c :: rest =>
      if c = '\\' ∧ escaped = false then unescape true rest else c :: unescape false rest

theorem unescape_dotEscapeChar (c : Char) :
    unescape false (Sink.dotEscapeChar c ++ rest) = c :: unescape false rest := by
  unfold Sink.dotEscapeChar
  split_ifs with hbackslash hquote
  · simp [unescape, hbackslash]
  · simp [unescape, hquote]
  · simp [unescape, hbackslash]

/-- What has been escaped is found again. -/
theorem unescape_dotEscape (content : String) :
    unescape false (Sink.dotEscape content).toList = content.toList := by
  unfold Sink.dotEscape
  rw [String.toList_ofList]
  induction content.toList with
  | nil => rfl
  | cons c chars ih => rw [List.flatMap_cons, unescape_dotEscapeChar, ih]

theorem dotEscape_injective {first second : String}
    (h : Sink.dotEscape first = Sink.dotEscape second) : first = second := by
  have hchars := congrArg (fun content => unescape false content.toList) h
  simp only [unescape_dotEscape] at hchars
  exact String.toList_inj.mp hchars

/-- The text of the name of a node. -/
def nodeText (table id : String) : String := Sink.dotEscape table ++ " " ++ id

theorem nodeText_id_inj {table id other : String} (h : nodeText table id = nodeText table other) :
    id = other := by
  have hchars := congrArg String.toList h
  simp only [nodeText, String.toList_append] at hchars
  exact String.toList_inj.mp (List.append_cancel_left hchars)

theorem isDigit_of_mem_toString {id : Nat} {c : Char} (h : c ∈ (toString id).toList) :
    c.isDigit = true := by
  have hdigits : (toString id).toList = Nat.toDigits 10 id := toList_toString_ofNat id
  rw [hdigits] at h
  exact Nat.isDigit_of_mem_toDigits (by omega) (by omega) h

/-- A table and a number can be told from the name of their node: the number is what stands behind the
last space. -/
theorem nodeText_inj {table other : String} {id number : Nat}
    (h : nodeText table (toString id) = nodeText other (toString number)) :
    table = other ∧ id = number := by
  have hspace (id : Nat) : ' ' ∉ (toString id).toList.reverse := fun hmem =>
    absurd (isDigit_of_mem_toString (List.mem_reverse.mp hmem)) (by decide)
  have hsplit (table : String) (id : Nat) :
      Text.splitOnce ' ' (nodeText table (toString id)).toList.reverse =
        some ((toString id).toList.reverse, (Sink.dotEscape table).toList.reverse) := by
    have hchars : (nodeText table (toString id)).toList.reverse =
        (toString id).toList.reverse ++ ' ' :: (Sink.dotEscape table).toList.reverse := by
      simp [nodeText]
    rw [hchars, Text.splitOnce_append (hspace id)]
  have hboth := hsplit table id
  rw [h, hsplit other number] at hboth
  obtain ⟨hids, htables⟩ := Prod.mk.inj (Option.some.inj hboth)
  constructor
  · exact (dotEscape_injective (String.toList_inj.mp (List.reverse_inj.mp htables))).symm
  · have hdigits : (toString (number : Int)).toList = (toString (id : Int)).toList :=
      List.reverse_inj.mp hids
    have hread := Numeral.readInt?_toString (id : Int)
    rw [← hdigits, Numeral.readInt?_toString] at hread
    exact (Int.ofNat.inj (Option.some.inj hread)).symm

end RecordRecipe.Dot
