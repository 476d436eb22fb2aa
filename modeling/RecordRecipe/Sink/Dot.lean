import RecordRecipe.Sink.Basic

/-!
# Rows as a graph

A drawing in the Graphviz language: a node per row and an edge per reference. Names and labels
stand in quotes, in which the backslash and the quote are escaped; the two characters of a line
break mark are put between the parts of a label and nowhere else.
-/

namespace RecordRecipe.Sink

/-- How a character is written between quotes. -/
def dotEscapeChar (c : Char) : List Char :=
  if c = '\\' then ['\\', '\\'] else if c = '\x22' then ['\\', '\x22'] else [c]

/-- The characters of a text as they are written between quotes. -/
def dotEscape (text : String) : String :=
  String.ofList (text.toList.flatMap dotEscapeChar)

/-- The name of a node: the table, a space and the id's text, in quotes. -/
def nodeName (table id : String) : String :=
  "\"" ++ dotEscape table ++ " " ++ id ++ "\""

/-- The edge of a reference. -/
def edgeLine (source : String) (field : String) (target : RowRef) : String :=
  "  " ++ source ++ " -> " ++ nodeName target.table (toString target.id) ++ " [label=\"" ++
    dotEscape field ++ "\"];\n"

/-- The edges of the written references among some fields. -/
def edgeLines (source : String) : Assoc FieldValue → String
  | [] => ""
  | (name, .row target) :: rest =>
      (if isHidden name then "" else edgeLine source name target) ++ edgeLines source rest
  | _ :: rest => edgeLines source rest

/-- The text of the value under `id`. -/
def idText (row : EncodedRow) : String :=
  match row.find? "id" with
  | some id => id.display
  | none => ""

/-- The part of a label that shows a field. -/
def labelPart (field : String × FieldValue) : String :=
  "\\n" ++ dotEscape field.1 ++ ": " ++ dotEscape field.2.display

/-- The label of a row: table and id, then its other fields, each on a line of its own. -/
def nodeLabel (table : String) (row : EncodedRow) : String :=
  dotEscape (table ++ "(" ++ idText row ++ ")") ++
    String.join ((row.drop "id").map labelPart)

/-- The node of a row. -/
def nodeLine (table : String) (row : EncodedRow) : String :=
  "  " ++ nodeName table (idText row) ++ " [label=\"" ++ nodeLabel table row ++ "\"];\n"

/-- What a drawing has come to. -/
structure Drawing where
  text : String := ""
  started : Bool := false

/-- Open the graph unless it is open. -/
def Drawing.start (state : Drawing) : Drawing :=
  if state.started then state
  else { text := state.text ++ "digraph synthgen \x7b\n  node [shape=box];\n", started := true }

/-- Add text to the graph. -/
def Drawing.write (more : String) (state : Drawing) : Drawing :=
  { state.start with text := state.start.text ++ more }

/-- Writes a graph. A row's edges come before its node. -/
def dot : Sink Drawing where
  name := "dot"
  encoders := .flat
  store := fun table row => Action.modify (Drawing.write (nodeLine table row))
  close := Action.modify (Drawing.write "\x7d\n")
  write := fun row => do
    Action.modify (Drawing.write (edgeLines (nodeName row.table (toString row.id)) row.fields))
    let encoded ← Action.lift (encodeFields "dot" .flat row.fields [("id", .ofInt row.id)])
    Action.modify (Drawing.write (nodeLine row.table encoded))

end RecordRecipe.Sink
