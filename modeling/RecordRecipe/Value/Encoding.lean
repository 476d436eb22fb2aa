import RecordRecipe.Value
import RecordRecipe.Error

/-!
# Encoding values for sinks

A sink stores values of some kinds and says how. A reference has no kind of its own: it is
flattened to the id of its row first. A kind that the sink's table lacks cannot be written.
-/

namespace RecordRecipe

/-- The kinds of flattened values. -/
inductive Kind where
  | null
  | bool
  | int
  | float
  | text
  | date
  | moment
deriving DecidableEq, Repr

namespace Kind

/-- The kind of a value; a reference counts as the integer that it is flattened to. -/
def of : FieldValue → Kind
  | .null => null
  | .bool _ => bool
  | .int _ | .row _ => int
  | .float _ => float
  | .text _ => text
  | .date _ => date
  | .moment _ => moment

/-- The name of a kind. -/
def name : Kind → String
  | null => "null"
  | bool => "bool"
  | int => "int"
  | float => "float"
  | text => "string"
  | date => "date"
  | moment => "datetime"

end Kind

/-- What becomes of a value that is stored. -/
inductive Encoding where
  /-- The value itself. -/
  | keep
  /-- A flag becomes one or zero. -/
  | flagAsInt
  /-- The value's text. -/
  | asText
deriving DecidableEq, Repr

/-- Carry out an encoding. -/
def Encoding.apply : Encoding → FieldValue → FieldValue
  | keep, value => value
  | flagAsInt, .bool flag => .int (if flag then 1 else 0)
  | flagAsInt, value => value
  | asText, value => .text value.display

/-- The kinds that a sink can store, with their encodings. -/
abbrev EncoderTable := List (Kind × Encoding)

namespace EncoderTable

/-- Every kind is stored as it is. -/
def plain : EncoderTable :=
  [(.null, .keep), (.bool, .keep), (.int, .keep), (.float, .keep), (.text, .keep), (.date, .keep),
   (.moment, .keep)]

/-- For flat text: flags become one and zero, dates and moments become text. -/
def flat : EncoderTable :=
  [(.null, .keep), (.bool, .flagAsInt), (.int, .keep), (.float, .keep), (.text, .keep),
   (.date, .asText), (.moment, .asText)]

/-- The encoding of a kind. -/
def find? (kind : Kind) : EncoderTable → Option Encoding
  | [] => none
  | (candidate, encoding) :: rest => if candidate = kind then some encoding else find? kind rest

end EncoderTable

/-- Replace a reference by the id of its row, reduced to 64 signed bits. -/
def FieldValue.flatten : FieldValue → FieldValue
  | .row target => .ofInt target.id
  | value => value

/-- Encode a value for a sink. -/
def FieldValue.encode (sink : String) (encoders : EncoderTable) (value : FieldValue) :
    Except Error FieldValue :=
  let flat := value.flatten
  match encoders.find? (Kind.of flat) with
  | some encoding => .ok (encoding.apply flat)
  | none => .error (.noEncoder (Kind.of flat).name sink)

/-- A row as a sink stores it: the id first, then the written fields. -/
abbrev EncodedRow := Assoc FieldValue

/-- Encode the written fields of a row into a row that has been started. -/
def encodeFields (sink : String) (encoders : EncoderTable) :
    Assoc FieldValue → EncodedRow → Except Error EncodedRow
  | [], encoded => .ok encoded
  | (name, value) :: rest, encoded =>
      if isHidden name then encodeFields sink encoders rest encoded
      else match value.encode sink encoders with
        | .ok stored => encodeFields sink encoders rest (encoded.put name stored)
        | .error error => .error error

/-- Encode a row: its id, then its written fields in order. A field named `id` takes the place of
the id. -/
def Row.encode (sink : String) (encoders : EncoderTable) (row : Row) : Except Error EncodedRow :=
  match (FieldValue.ofInt row.id).encode sink encoders with
  | .ok id => encodeFields sink encoders row.fields [("id", id)]
  | .error error => .error error

end RecordRecipe
