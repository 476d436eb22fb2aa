import RecordRecipe.Value
import RecordRecipe.Numeral

/-!
# Texts that are numbers

Every plain text of a recipe becomes a number if it reads as one: an integer of 64 signed bits,
else a floating-point number. Blanks around the number do not matter; any other text stays exactly
as it was written.
-/

namespace RecordRecipe.FieldValue

/-- A character of a number: a digit, a sign, a point or an exponent mark. -/
def isNumeralChar (c : Char) : Bool :=
  c.isDigit || c = '+' || c = '-' || c = '.' || c = 'e' || c = 'E'

/-- Could these characters be a number: numeral characters alone, at least one of them a digit? -/
def looksNumeric (text : List Char) : Bool :=
  text.any Char.isDigit && text.all isNumeralChar

/-- The number that a text is, or else the text itself. -/
def ofText (content : String) : FieldValue :=
  let number := Text.trimChars content.toList
  if looksNumeric number then
    match Numeral.readInt64? number with
    | some n => .int n
    | none =>
        match Numeral.readFloat? number with
        | some x => .float x
        | none => .text content
  else .text content

/-- The value of an option given as text: a number, a truth value in any case, or the text. -/
def ofOptionText (content : String) : FieldValue :=
  match ofText content with
  | .text kept =>
      let lower := kept.map Char.toLower
      if lower = "true" then .bool true
      else if lower = "false" then .bool false
      else .text kept
  | number => number

end RecordRecipe.FieldValue
