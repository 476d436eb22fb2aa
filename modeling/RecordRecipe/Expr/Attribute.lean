import RecordRecipe.Expr.Order

/-!
# Attributes and items

What a value holds under a name, an index or a path of both. A row is looked into through a function
that knows the fields of rows.
-/

namespace RecordRecipe.Expr

/-- How the fields of rows are looked up. -/
abbrev FieldLookup := RowRef → String → Option FieldValue

/-- A field of a date. -/
def dateField? (date : Calendar.Date) : String → Option Value
  | "year" => some (.ofInt date.year)
  | "month" => some (.ofNat date.month)
  | "day" => some (.ofNat date.day)
  | _ => none

/-- A field of a moment. -/
def momentField? (moment : Calendar.Moment) : String → Option Value
  | "hour" => some (.ofNat moment.hour)
  | "minute" => some (.ofNat moment.minute)
  | "second" => some (.ofNat moment.second)
  | name => dateField? moment.date name

namespace Value

/-- An attribute of a value. Rows, dates and moments have theirs apart from their entries. -/
def attribute? (fieldOf : FieldLookup) (value : Value) (name : String) : Option Value :=
  match value with
  | row target => (fieldOf target name).map ofField
  | .date day => dateField? day name
  | .moment time => momentField? time name
  | other => findValue? (text name) other.mapEntries

/-- The position that an index stands for among a number of items; a negative one counts from the
end. -/
def positionAt? (length : Nat) (index : Value) : Option Nat :=
  match index.int? with
  | none => none
  | some n =>
      if 0 ≤ n then some n.toNat
      else if length < n.natAbs then none else some (length - n.natAbs)

/-- The value under a subscript. -/
def subscript? (fieldOf : FieldLookup) (value index : Value) : Option Value :=
  match value, index with
  | list items, _ => (positionAt? items.length index).bind fun position => items[position]?
  | iterable count item, _ =>
      (positionAt? count index).bind fun position =>
        if position < count then some (item position) else none
  | text content, _ =>
      let chars := content.toList
      (positionAt? chars.length index).bind fun position => chars[position]?.map ofChar
  | row _, text name | .date _, text name | .moment _, text name => value.attribute? fieldOf name
  | _, _ => findValue? index value.mapEntries

/-- The index that a part of a path stands for. -/
def pathIndex? (part : String) : Option Nat :=
  Numeral.readNat? 64 part.toList

/-- The value at the end of a path of attributes and indices. Nothing is found behind a value that
is not there. -/
def atPath? (fieldOf : FieldLookup) : List String → Value → Option Value
  | [], value => some value
  | part :: rest, value =>
      if value.isUndefined then none
      else
        let found := match pathIndex? part with
          | some index => value.subscript? fieldOf (ofNat index)
          | none => value.attribute? fieldOf part
        atPath? fieldOf rest (found.getD (undefined false))

end Value

end RecordRecipe.Expr
