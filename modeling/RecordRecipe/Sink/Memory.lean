import RecordRecipe.Sink.Basic

/-!
# Rows kept in memory

Keeps the tables and every row, and counts the other calls.
-/

namespace RecordRecipe.Sink

/-- What has been kept. -/
structure Kept where
  tables : Tables := []
  /-- The rows with their tables, the latest first. -/
  latest : List (String × EncodedRow) := []
  flushes : Nat := 0
  commits : Nat := 0
  closed : Bool := false
  batch : BatchCounter := {}

/-- The rows in the order of writing. -/
def Kept.rows (state : Kept) : List (String × EncodedRow) :=
  state.latest.reverse

/-- The rows of one table in the order of writing. -/
def Kept.table (name : String) (state : Kept) : List EncodedRow :=
  (state.rows.filter fun row => row.1 = name).map Prod.snd

/-- Keeps rows. -/
def memory : Sink Kept where
  name := "memory"
  declare := fun tables => Action.modify fun state => { state with tables := tables }
  counter? := fun state => some state.batch
  setCounter := fun batch state => { state with batch := batch }
  store := fun table row =>
    Action.modify fun state => { state with latest := (table, row) :: state.latest }
  flush := Action.modify fun state => { state with flushes := state.flushes + 1 }
  commit := Action.modify fun state => { state with commits := state.commits + 1 }
  close := Action.modify fun state => { state with closed := true }

end RecordRecipe.Sink
