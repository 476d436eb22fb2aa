import RecordRecipe.Sink.Basic

/-!
# Rows as lines of text

One line per row: the table and, in parentheses, the names and values of its fields.
-/

namespace RecordRecipe.Sink

/-- A field as `name=value`. -/
def assignment (field : String × FieldValue) : String :=
  field.1 ++ "=" ++ field.2.display

/-- The line of a row. -/
def rowLine (table : String) (row : EncodedRow) : String :=
  table ++ "(" ++ Text.joinWith ", " (row.map assignment) ++ ")\n"

/-- Writes a line per row to a text. -/
def lines : Sink String where
  name := "debug"
  store := fun table row => Action.modify (· ++ rowLine table row)

end RecordRecipe.Sink
