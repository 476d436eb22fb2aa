import RecordRecipe.Assoc
import RecordRecipe.Calendar.Moment
import RecordRecipe.Decimal.Layout

/-!
# Field values

What a field of a record may hold. A reference names its row by identity, not by contents: two
rows with the same fields are different rows.
-/

namespace RecordRecipe

open Calendar (Date Moment)

/-- The identity of a row: one that a caller handed in, or one that a run has made, in the order
of making. -/
inductive Origin where
  | given (index : Nat)
  | made (index : Nat)
deriving DecidableEq, Repr

/-- A reference to a row. Table and id never change once the row exists. -/
structure RowRef where
  origin : Origin
  table : String
  id : Nat
deriving DecidableEq, Repr

/-- The table with the id in parentheses. -/
def RowRef.text (row : RowRef) : String :=
  row.table ++ "(" ++ toString row.id ++ ")"

/-- The value of a field. -/
inductive FieldValue where
  | null
  | bool (flag : Bool)
  | int (n : Int64)
  | float (x : Float)
  | text (content : String)
  | date (date : Date)
  | moment (moment : Moment)
  | row (target : RowRef)

namespace FieldValue

instance : Inhabited FieldValue := ⟨null⟩

/-- The integer with a value in `Int`, reduced to 64 signed bits. -/
def ofInt (n : Int) : FieldValue := .int (Int64.ofInt n)

/-- The name of a value's type, as messages give it. -/
def typeName : FieldValue → String
  | null => "null"
  | bool _ => "bool"
  | int _ => "int"
  | float _ => "float"
  | text _ => "string"
  | date _ => "date"
  | moment _ => "datetime"
  | row _ => "row"

/-- Does the value hold as a condition? Null, zero and the empty text do not. -/
def isTruthy : FieldValue → Bool
  | null => false
  | bool flag => flag
  | int n => n != 0
  | float x => x != 0
  | text content => content != ""
  | date _ | moment _ | row _ => true

/-- Is the value null? -/
def isNull : FieldValue → Bool
  | null => true
  | _ => false

/-- The text that a value is. -/
def text? : FieldValue → Option String
  | text content => some content
  | _ => none

/-- The row that a value references. -/
def row? : FieldValue → Option RowRef
  | row target => some target
  | _ => none

/-- The number that a value is. -/
def float? : FieldValue → Option Float
  | int n => some (Decimal.ofInt n.toInt)
  | float x => some x
  | _ => none

/-- How a value is written in text. -/
def display : FieldValue → String
  | null => "null"
  | bool flag => if flag then "true" else "false"
  | int n => toString n.toInt
  | float x => Decimal.Layout.field.format x
  | text content => content
  | .date day => day.text
  | .moment time => time.text
  | row target => target.text

/-- Equality of values of one type; rows are equal when they are one row, and not-a-number differs
from itself. -/
def same : FieldValue → FieldValue → Bool
  | null, null => true
  | bool a, bool b => a == b
  | int a, int b => a == b
  | float a, float b => a == b
  | text a, text b => a == b
  | date a, date b => a == b
  | moment a, moment b => a == b
  | row a, row b => a.origin == b.origin
  | _, _ => false

end FieldValue

/-- A finished row as a sink receives it: the fields in order, without the id. -/
structure Row where
  table : String
  id : Nat
  fields : Assoc FieldValue

/-- A field that expressions see and sinks do not: its name starts with two underscores. -/
def isHidden (name : String) : Bool :=
  "__".toList.isPrefixOf name.toList

/-- The tables of a recipe with their written fields, in order of first mention. -/
abbrev Tables := Assoc (List String)

end RecordRecipe
