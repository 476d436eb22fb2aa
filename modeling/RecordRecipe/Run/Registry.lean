import RecordRecipe.Function.Eager
import RecordRecipe.Mapping.Order

/-!
# The registry of a run

What a run remembers: the last id and the number of rows of every table, the rows that can be
addressed by a name, the fields of every row, the references seen so far, and the position in the
stream of random numbers. A row is known by the order of its making.
-/

namespace RecordRecipe

open RecordRecipe.Random (Generator)

/-- Numbers that count up from one, by name. -/
abbrev Counters := Assoc Nat

namespace Counters

/-- The last number of a name; zero before the first. -/
def value (name : String) (counters : Counters) : Nat := (counters.find? name).getD 0

/-- Count up. -/
def increment (name : String) (counters : Counters) : Counters :=
  counters.put name (value name counters + 1)

/-- The next number of a name, and the counters behind it. -/
def next (name : String) (counters : Counters) : Nat × Counters :=
  (value name counters + 1, increment name counters)

end Counters

/-- What a run remembers. -/
structure Registry where
  /-- The last id of every table. -/
  ids : Counters := []
  /-- How many rows of every table have been started. -/
  totals : Counters := []
  /-- The latest row under every nickname. -/
  nicknames : Assoc RowRef := []
  /-- The latest row of every table. -/
  latest : Assoc RowRef := []
  /-- The references seen, sorted and without repetitions. -/
  dependencies : List Dependency := []
  /-- The fields of the rows in the order of making. -/
  rows : Array (Assoc FieldValue) := #[]
  generator : Generator

namespace Registry

/-- The fields of a row. A row that the run has not made has none. -/
def fieldsOf (registry : Registry) (row : RowRef) : Assoc FieldValue :=
  match row.origin with
  | .made index => registry.rows.getD index []
  | .given _ => []

/-- A field of a row; the id is always there. -/
def field? (registry : Registry) (row : RowRef) (name : String) : Option FieldValue :=
  if name = "id" then some (.ofInt row.id) else (registry.fieldsOf row).find? name

/-- Set a field of a row. -/
def setField (row : RowRef) (name : String) (value : FieldValue) (registry : Registry) :
    Registry :=
  match row.origin with
  | .made index => { registry with rows := registry.rows.modify index (Assoc.put name value) }
  | .given _ => registry

/-- The row that a function finds under a name: that of the nickname, or else the latest row of the
table. -/
def findObject (registry : Registry) (name : String) : Option RowRef :=
  registry.nicknames.find? name <|> registry.latest.find? name

/-- The row that an expression sees under a name: the latest row of the table, or else that of the
nickname. -/
def visibleObject (registry : Registry) (name : String) : Option RowRef :=
  registry.latest.find? name <|> registry.nicknames.find? name

/-- Let the nickname stand for a row. -/
def nickname (name : Option String) (row : RowRef) (registry : Registry) : Registry :=
  match name with
  | some name => { registry with nicknames := registry.nicknames.put name row }
  | none => registry

/-- Make a new row of a table, which becomes the latest. -/
def startRow (table : String) (name : Option String) (registry : Registry) :
    RowRef × Registry :=
  let (id, ids) := registry.ids.next table
  let row : RowRef := ⟨.made registry.rows.size, table, id⟩
  let registry := { registry with
    ids := ids
    totals := registry.totals.increment table
    rows := registry.rows.push [] }.nickname name row
  (row, { registry with latest := registry.latest.put table row })

/-- The reference that a field holds, if sinks see the field. -/
def dependency? (table : String) (field : String × FieldValue) : Option Dependency :=
  match field with
  | (name, .row target) => if isHidden name then none else some ⟨table, target.table, name⟩
  | _ => none

/-- Note the references that a row holds. -/
def noteReferences (row : RowRef) (registry : Registry) : Registry :=
  let found := (registry.fieldsOf row).filterMap (dependency? row.table)
  { registry with
    dependencies := found.foldl (fun all item => Dependency.insert item all)
      registry.dependencies }

end Registry

end RecordRecipe
