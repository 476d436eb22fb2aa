import RecordRecipe.Expr.Fault
import RecordRecipe.Expr.Number
import RecordRecipe.Expr.Tree
import RecordRecipe.Error
import RecordRecipe.Text.Printable
import RecordRecipe.Value

/-!
# Values of expressions

An expression may give more than a field can hold: undefined values, lists, maps, functions. Rows,
dates and moments are opaque here: as maps they are empty, so they all equal one another.
`Value.ofField` and `Value.toField` pass between the two worlds.
-/

namespace RecordRecipe.Expr

open Calendar (Date Moment)

/-- A value of an expression. -/
inductive Value where
  /-- Nothing; a silent one may be printed. -/
  | undefined (silent : Bool)
  | null
  | bool (flag : Bool)
  | number (number : Number)
  | text (content : String)
  | list (items : List Value)
  /-- Items that are produced when they are asked for, as those of a range: how many there are, and
  each of them by its position. -/
  | iterable (count : Nat) (item : Nat → Value)
  /-- Entries in the order of their keys. -/
  | map (entries : List (Value × Value))
  | row (target : RowRef)
  | date (date : Date)
  | moment (moment : Moment)
  /-- The supply of fake data, for a locale. -/
  | fake (locale : Option String)
  /-- The run that the expression is evaluated in. -/
  | run
  | function (name : String)
  /-- A macro with the number of the closure that holds the variables around it. -/
  | routine (name : String) (parameters : List Parameter) (body : List Statement) (closure : Nat)
  /-- Variables that outlive the places where they are set, by the number of their set. -/
  | space (number : Nat)
  /-- The state of a loop: its number, the position, the number of items where it is known, the
  number of recursive loops around it, and the items next to the current one. -/
  | loop (number index : Nat) (length : Option Nat) (depth : Nat) (previous next : Value)

/-- The kinds of values, in their order. -/
inductive Kind where
  | undefined
  | null
  | bool
  | number
  | text
  | list
  | map
  | iterable
  | plain
deriving DecidableEq, Repr

namespace Kind

/-- The name of a kind in messages about operators. -/
def words : Kind → String
  | undefined => "undefined"
  | null => "none"
  | bool => "bool"
  | number => "number"
  | text => "string"
  | list => "sequence"
  | map => "map"
  | iterable => "iterator"
  | plain => "plain object"

/-- The name of a kind in messages about fields. -/
def label : Kind → String
  | undefined => "Undefined"
  | null => "None"
  | bool => "Bool"
  | number => "Number"
  | text => "String"
  | list => "Seq"
  | map => "Map"
  | iterable => "Iterable"
  | plain => "Plain"

/-- The place of a kind in the order of values. -/
def rank : Kind → Nat
  | undefined => 0
  | null => 1
  | bool => 2
  | number => 3
  | text => 4
  | list => 6
  | map => 7
  | iterable => 8
  | plain => 9

end Kind

namespace Value

instance : Inhabited Value := ⟨null⟩

/-- The kind of a value. -/
def kind : Value → Kind
  | undefined _ => .undefined
  | null => .null
  | bool _ => .bool
  | number _ => .number
  | text _ => .text
  | list _ => .list
  | iterable _ _ => .iterable
  | map _ | row _ | date _ | moment _ | fake _ | run | space _ | routine _ _ _ _
  | loop _ _ _ _ _ _ => .map
  | function _ => .plain

/-- The value that is not there. -/
def missing : Value := undefined false

/-- An integer that has been calculated. -/
def ofInt (n : Int) : Value := number (.ofInt n)

/-- An integer that has been written down or counted. -/
def ofNat (n : Nat) : Value := number (.ofNat n)

/-- One character as a text. -/
def ofChar (c : Char) : Value := text (String.singleton c)

/-- Given items as ones that are produced. -/
def produced (items : List Value) : Value :=
  let array := items.toArray
  iterable array.size fun position => array.getD position null

/-- Is the value undefined? -/
def isUndefined : Value → Bool
  | undefined _ => true
  | _ => false

/-- Is the value one that is not there and may not pass in silence? -/
def isMissing : Value → Bool
  | undefined silent => !silent
  | _ => false

/-- Does the value hold as a condition? Empty things do not, and opaque ones count as empty. -/
def isTrue : Value → Bool
  | undefined _ | null => false
  | bool flag => flag
  | number n => !n.isZero
  | text content => content != ""
  | list items => !items.isEmpty
  | iterable count _ => count != 0
  | map entries => !entries.isEmpty
  | row _ | date _ | moment _ | fake _ | run | space _ => false
  | function _ | routine _ _ _ _ | loop _ _ _ _ _ _ => true

/-- The text that a value is. -/
def text? : Value → Option String
  | text content => some content
  | _ => none

/-- The value as a number, if it is one in some guise. -/
def number? : Value → Option Number
  | bool flag => some (.ofNat (if flag then 1 else 0))
  | number n => some n
  | _ => none

/-- The value as an integer, if it is one in some guise. -/
def int? (value : Value) : Option Int := value.number?.bind Number.int?

/-- A character inside quoted text. -/
def quotedChar (c : Char) : String :=
  match c with
  | '\x22' => "\\\""
  | '\\' => "\\\\"
  | '\n' => "\\n"
  | '\r' => "\\r"
  | '\t' => "\\t"
  | '\x00' => "\\0"
  | c =>
      if Text.isPrintable c then String.singleton c
      else "\\u\x7b" ++ String.ofList (Nat.toDigits 16 c.toNat) ++ "\x7d"

/-- A text in double quotes. -/
def quoted (content : String) : String :=
  "\"" ++ String.join (content.toList.map quotedChar) ++ "\""

/-- How a loop is written: where it stands and how many items it has. -/
def loopText (index : Nat) (length : Option Nat) : String :=
  "<loop " ++ toString index ++ "/" ++ (length.map toString).getD "?" ++ ">"

mutual

/-- How a value is written as text. -/
def display : Value → String
  | undefined _ => ""
  | null => "None"
  | bool flag => if flag then "True" else "False"
  | number n => n.display Decimal.Layout.expression
  | text content => content
  | list items => "[" ++ Text.joinWith ", " (nestedItems items) ++ "]"
  | iterable count item =>
      "[" ++ Text.joinWith ", " ((List.range count).map fun i => nested (item i)) ++ "]"
  | map entries => "\x7b" ++ Text.joinWith ", " (nestedEntries entries) ++ "\x7d"
  | row target => target.text
  | .date day => day.text
  | .moment time => time.text
  | fake _ | run | space _ => "\x7b\x7d"
  | function name => "<function " ++ name ++ ">"
  | routine name _ _ _ => "<macro " ++ name ++ ">"
  | loop _ index length _ _ _ => loopText index length

/-- How a value is written inside a list or a map: texts are quoted. -/
def nested : Value → String
  | undefined _ => "undefined"
  | text content => quoted content
  | null => "None"
  | bool flag => if flag then "True" else "False"
  | number n => n.display Decimal.Layout.nested
  | list items => "[" ++ Text.joinWith ", " (nestedItems items) ++ "]"
  | iterable count item =>
      "[" ++ Text.joinWith ", " ((List.range count).map fun i => nested (item i)) ++ "]"
  | map entries => "\x7b" ++ Text.joinWith ", " (nestedEntries entries) ++ "\x7d"
  | row target => target.text
  | .date day => day.text
  | .moment time => time.text
  | fake _ | run | space _ => "\x7b\x7d"
  | function name => "<function " ++ name ++ ">"
  | routine name _ _ _ => "<macro " ++ name ++ ">"
  | loop _ index length _ _ _ => loopText index length

/-- The items of a list as they are written in it. -/
def nestedItems : List Value → List String
  | [] => []
  | item :: rest => nested item :: nestedItems rest

/-- The entries of a map as they are written in it. -/
def nestedEntries : List (Value × Value) → List String
  | [] => []
  | (key, value) :: rest => (nested key ++ ": " ++ nested value) :: nestedEntries rest

end

/-- A field's value as a value of expressions. -/
def ofField : FieldValue → Value
  | .null => null
  | .bool flag => bool flag
  | .int n => number (.int n.toInt .signed64)
  | .float x => number (.ofFloat x)
  | .text content => text content
  | .date day => .date day
  | .moment time => .moment time
  | .row target => row target

/-- A value of expressions as a field's value. A number becomes an integer where that loses
nothing, and lists, maps and functions have no place in a field. -/
def toField (value : Value) : Except Error FieldValue :=
  match value with
  | undefined _ | null => .ok .null
  | bool flag => .ok (.bool flag)
  | number n =>
      match n.int? with
      | some whole => .ok (if Numeral.fitsInt64 whole then .ofInt whole else .float n.toFloat)
      | none => .ok (.float n.toFloat)
  | text content => .ok (.text content)
  | row target => .ok (.row target)
  | .date day => .ok (.date day)
  | .moment time => .ok (.moment time)
  | other =>
      .error (.value ("unexpected value \x60" ++ other.display ++ "\x60 of type " ++
        other.kind.label ++ "; fields may only hold null, bool, int, float, string, date, " ++
        "datetime or row values"))

end Value

end RecordRecipe.Expr
