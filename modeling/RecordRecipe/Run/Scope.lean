import RecordRecipe.Function.Inline
import RecordRecipe.Run.Registry

/-!
# What can be seen from a row

A template is used in an activation: it has a row that is being built and rows around it. Names in
expressions, names in front of a dot and the arguments of functions are looked up from there.
Functions in the structure of a recipe see the run itself; those in expressions see a snapshot,
taken when the expression is about to be evaluated.
-/

namespace RecordRecipe

open Calendar (Date)
open RecordRecipe.Expr (Scope Value)

/-- What is given for a whole run. -/
structure Setting where
  options : Assoc FieldValue
  today : Date
  fake : FakeSource

/-- A use of a template beneath some rows. -/
structure Activation where
  table : String
  /-- How many rows the activation has started. -/
  started : Nat := 0
  /-- The row that is being built. -/
  row : Option RowRef := none
  /-- The id of the row that is being built. -/
  currentId : Option Nat := none
  /-- The rows around the activation, the nearest first. -/
  enclosing : List RowRef := []

namespace Activation

/-- The activation while its row of some number is being built. -/
def ofRow (table : String) (enclosing : List RowRef) (number : Nat) (row : RowRef) :
    Activation where
  table := table
  started := number
  row := some row
  currentId := some row.id
  enclosing := enclosing

/-- The rows around an activation of a friend or of a child record. -/
def rows (activation : Activation) : List RowRef :=
  activation.row.toList ++ activation.enclosing

/-- The nearest of some rows that belongs to a table. -/
def nearest? (rows : List RowRef) (table : String) : Option RowRef :=
  rows.find? fun row => row.table = table

/-- The nearest enclosing row of a table. -/
def ancestor? (activation : Activation) (table : String) : Option RowRef :=
  nearest? activation.enclosing table

/-- The run as functions see it. -/
def host (setting : Setting) (activation : Activation) (registry : Registry) : Host where
  today := setting.today
  findObject := registry.findObject
  counterTotal := fun name => registry.totals.value name
  ancestor := activation.ancestor?
  fake := setting.fake

end Activation

/-- The run at a moment, as far as functions may ask about it. -/
structure Snapshot where
  today : Date
  fake : FakeSource
  objects : Assoc RowRef
  totals : Counters
  enclosing : List RowRef

namespace Snapshot

/-- Take a snapshot. Nicknames take the place of tables of the same name. -/
def take (setting : Setting) (activation : Activation) (registry : Registry) : Snapshot where
  today := setting.today
  fake := setting.fake
  objects := Assoc.putAll registry.nicknames registry.latest
  totals := registry.totals
  enclosing := activation.enclosing

/-- The snapshot as functions see it. -/
def host (snapshot : Snapshot) : Host where
  today := snapshot.today
  findObject := fun name => snapshot.objects.find? name
  counterTotal := fun name => snapshot.totals.value name
  ancestor := Activation.nearest? snapshot.enclosing
  fake := snapshot.fake

end Snapshot

namespace Activation

/-- A variable that every expression has. -/
def builtin? (setting : Setting) (activation : Activation) (name : String) : Option Value :=
  if name = Expr.runName then some .run
  else match name with
  | "fake" => some (.fake none)
  | "today" => some (.date setting.today)
  | "number" => some (.ofInt activation.started)
  | "this" => activation.row.map Value.row
  | "id" => activation.currentId.map fun id => .ofInt id
  | _ => none

/-- A field of the row that is being built. -/
def ownField? (activation : Activation) (registry : Registry) (name : String) :
    Option FieldValue :=
  activation.row.bind fun row => (registry.fieldsOf row).find? name

/-- A variable of an expression: a field of the row, a variable that every expression has, the
nearest row of a table around it, a row in view, or an option. -/
def valueOf? (setting : Setting) (activation : Activation) (registry : Registry)
    (name : String) : Option Value :=
  (activation.ownField? registry name).map Value.ofField <|>
    activation.builtin? setting name <|>
    (activation.ancestor? name).map Value.row <|>
    (registry.visibleObject name).map Value.row <|>
    (setting.options.find? name).map Value.ofField

/-- What an expression sees. -/
def scope (setting : Setting) (activation : Activation) (registry : Registry) : Scope where
  valueOf? := activation.valueOf? setting registry
  fieldOf := registry.field?
  fake := setting.fake
  function? := (Snapshot.take setting activation registry).host.inline?

/-- The row that a name in front of a dot stands for: the row itself, one that a field of it
references, the nearest enclosing row of a table, or a row in view. -/
def rowNamed? (activation : Activation) (registry : Registry) (name : String) : Option RowRef :=
  if name = "this" then activation.row
  else (activation.row.bind fun row => (registry.field? row name).bind FieldValue.row?) <|>
    activation.ancestor? name <|> registry.visibleObject name

end Activation

end RecordRecipe
