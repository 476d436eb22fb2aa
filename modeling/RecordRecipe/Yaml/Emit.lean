import RecordRecipe.Yaml.Pen

/-!
# Writing YAML

Block documents of texts, lists and maps. Empty lists and maps are written in flow style, the items
of a list are not indented under their key, and a key that cannot share its line with a colon stands
behind a question mark.
-/

namespace RecordRecipe.Yaml

/-- A document to be written. -/
inductive Document where
  | text (content : String)
  | list (items : List Document)
  | map (entries : List (String × Document))

namespace Document

/-- The column of what is nested in a construct; the whole document is nested in none. -/
def deeper : Option Nat → Nat
  | none => 0
  | some column => column + Pen.step

/-- Write a key up to its value. -/
def writeKey (column : Nat) (key : String) (pen : Pen) : Pen :=
  let start := pen.indent column
  let inner := column + Pen.step
  if isSimpleKey key then (start.text true inner key).colon
  else (((start.mark '?').text false inner key).indent column).mark ':'

mutual

/-- Write a document inside a construct that starts at a column. The items of a list that is the
value of a key start where the key does, unless they share its line. -/
def writeNode (column : Option Nat) (ofKey : Bool) : Document → Pen → Pen
  | text content, pen => pen.text false (column.getD 0 + Pen.step) content
  | list [], pen => pen.brackets "[]"
  | list items, pen =>
      let own := if ofKey && !pen.fresh then column.getD 0 else deeper column
      writeItems own items pen
  | map [], pen => pen.brackets "\x7b\x7d"
  | map entries, pen => writeEntries (deeper column) entries pen

/-- Write the items of a list, each behind a hyphen at a column. -/
def writeItems (column : Nat) : List Document → Pen → Pen
  | [], pen => pen
  | item :: rest, pen =>
      writeItems column rest (writeNode (some column) false item ((pen.indent column).mark '-'))

/-- Write the entries of a map, each at a column. -/
def writeEntries (column : Nat) : List (String × Document) → Pen → Pen
  | [], pen => pen
  | (key, value) :: rest, pen =>
      writeEntries column rest (writeNode (some column) true value (writeKey column key pen))

end

/-- The text of a whole document. -/
def write (document : Document) : String :=
  ((writeNode none false document {}).indent 0).written

end Document

end RecordRecipe.Yaml
