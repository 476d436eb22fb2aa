import RecordRecipe.Sink.Basic
import RecordRecipe.Text.Json

/-!
# Rows as a JSON array

The array is written piece by piece: it is opened by the first row, every further row follows a
comma, and closing it writes what is still missing. Each row is an object that names its table
under `_table`.
-/

namespace RecordRecipe

/-- A value in a JSON document. A reference is the id of its row; numbers that are not finite are
null. -/
def FieldValue.toJson : FieldValue → JsonValue
  | .null => .null
  | .bool flag => .bool flag
  | .int n => .number (toString n.toInt)
  | .float x => if x.isFinite then .number (Decimal.Layout.json.format x) else .null
  | .text content => .string content
  | .date day => .string day.text
  | .moment time => .string time.text
  | .row target => .number (toString target.id)

namespace Sink

/-- The object of a row: its table, then its fields. A field named `_table` takes the place of the
table. -/
def rowObject (table : String) (row : EncodedRow) : JsonValue :=
  .object ((Assoc.putAll row [("_table", .text table)]).map fun field =>
    (field.1, field.2.toJson))

/-- What an array of rows has come to. -/
structure JsonArray where
  text : String := ""
  rows : Nat := 0
  batch : BatchCounter := {}

/-- Add text to the array. -/
def JsonArray.write (more : String) (state : JsonArray) : JsonArray :=
  { state with text := state.text ++ more }

/-- Add a row. -/
def JsonArray.addRow (table : String) (row : EncodedRow) (state : JsonArray) : JsonArray :=
  let separator := if state.rows = 0 then "[\n" else ",\n"
  { state.write (separator ++ (rowObject table row).compact) with rows := state.rows + 1 }

/-- Writes rows as one JSON array. -/
def json : Sink JsonArray where
  name := "json"
  counter? := fun state => some state.batch
  setCounter := fun batch state => { state with batch := batch }
  store := fun table row => Action.modify (JsonArray.addRow table row)
  close := Action.modify fun state =>
    state.write (if state.rows = 0 then "[]\n" else "\n]\n")

end Sink

end RecordRecipe
