/-!
# A place in a YAML text

A `Cursor` stands before the characters that are left to read and knows its line, its column and
whether anything but blanks has been read on the line so far. The end of the text reads as the
character with code 0.
-/

namespace RecordRecipe.Yaml

/-- Why a text is not YAML, and the line where that shows. -/
structure Fault where
  reason : String
  line : Nat
deriving DecidableEq, Repr

/-- A space or a tab. -/
def isSpace (c : Char) : Bool := c = ' ' || c = '\t'

/-- A character that ends a line. -/
def isBreak (c : Char) : Bool := c = '\n' || c = '\r'

/-- The end of a line or of the text. -/
def isLineEnd (c : Char) : Bool := isBreak c || c = '\x00'

/-- A character that ends a word: a blank, a line break or the end of the text. -/
def isGap (c : Char) : Bool := isSpace c || isLineEnd c

/-- The punctuation of flow collections. -/
def isFlowMark (c : Char) : Bool :=
  c = ',' || c = '[' || c = ']' || c = '\x7b' || c = '\x7d'

/-- A character of a handle or a directive name: a letter, a digit, a dash or an underscore. -/
def isWordChar (c : Char) : Bool := c.isAlphanum || c = '-' || c = '_'

/-- What is left to read, and where that stands. Lines count from one, columns from zero. -/
structure Cursor where
  rest : List Char
  line : Nat := 1
  column : Nat := 0
  index : Nat := 0
  /-- Nothing but blanks so far on this line. -/
  fresh : Bool := true
deriving Repr

namespace Cursor

/-- The next character. -/
def peek (cursor : Cursor) : Char := cursor.rest.headD '\x00'

/-- The character some places on. -/
def peekAt (n : Nat) (cursor : Cursor) : Char := cursor.rest[n]?.getD '\x00'

/-- The column as an integer, to compare with an indentation that may be negative. -/
def indent (cursor : Cursor) : Int := cursor.column

/-- A fault at the cursor's line. -/
def fault (reason : String) (cursor : Cursor) : Fault := ⟨reason, cursor.line⟩

/-- Pass a number of blanks. -/
def passBlanks (n : Nat) (cursor : Cursor) : Cursor :=
  { cursor with
    rest := cursor.rest.drop n, column := cursor.column + n, index := cursor.index + n }

/-- Pass a number of characters that are content of their line. -/
def pass (n : Nat) (cursor : Cursor) : Cursor :=
  { cursor.passBlanks n with fresh := cursor.fresh && n == 0 }

/-- Pass a line break; a carriage return and a line feed are one. -/
def passBreak (cursor : Cursor) : Cursor :=
  let width := match cursor.rest with
    | '\r' :: '\n' :: _ => 2
    | c :: _ => if isBreak c then 1 else 0
    | [] => 0
  if width = 0 then cursor
  else { rest := cursor.rest.drop width, line := cursor.line + 1, index := cursor.index + width }

/-- The characters up to the first that fails a test. -/
def run (test : Char → Bool) (cursor : Cursor) : List Char := cursor.rest.takeWhile test

/-- Pass the characters up to the first that fails a test. No line break may satisfy it. -/
def passRun (test : Char → Bool) (cursor : Cursor) : Cursor := cursor.pass (cursor.run test).length

/-- Pass the blanks in front. -/
def passSpaces (cursor : Cursor) : Cursor := cursor.passBlanks (cursor.run isSpace).length

/-- Pass the rest of the line. -/
def passLine (cursor : Cursor) : Cursor := cursor.passRun fun c => !isLineEnd c

/-- Pass blanks of one kind and then a comment, which must stand behind a blank. -/
def passTrailing (blank : Char → Bool) (cursor : Cursor) : Except Fault Cursor :=
  let blanks := cursor.run blank
  let cursor := cursor.passBlanks blanks.length
  if cursor.peek = '#' then
    if blanks.isEmpty then
      .error (cursor.fault "comments must be separated from other tokens by whitespace")
    else .ok cursor.passLine
  else .ok cursor

/-- Pass blanks and a comment behind them. -/
def passToLineEnd (cursor : Cursor) : Except Fault Cursor := cursor.passTrailing isSpace

/-- Three equal marks at the cursor with a gap behind them. -/
def atMarker (mark : Char) (cursor : Cursor) : Bool :=
  cursor.peek = mark && cursor.peekAt 1 = mark && cursor.peekAt 2 = mark &&
    isGap (cursor.peekAt 3)

/-- The start or the end mark of a document at the beginning of a line. -/
def atDocumentMarker (cursor : Cursor) : Bool :=
  cursor.column = 0 && (cursor.atMarker '-' || cursor.atMarker '.')

end Cursor

end RecordRecipe.Yaml
