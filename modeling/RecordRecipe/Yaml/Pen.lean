import RecordRecipe.Yaml.Quoting

/-!
# Writing lines

A pen writes marks and texts one after the other. It knows the column and what has been written
last, and so breaks a line, indents it and keeps marks apart only where that is needed.
-/

namespace RecordRecipe.Yaml

/-- What has been written, and where the pen stands. -/
structure Pen where
  written : String := ""
  column : Nat := 0
  /-- Is what follows kept apart from what has been written? -/
  apart : Bool := true
  /-- Does the line hold nothing but indentation and marks? -/
  fresh : Bool := true

namespace Pen

/-- Write a character inside a line. -/
def put (pen : Pen) (c : Char) : Pen :=
  { pen with written := pen.written.push c, column := pen.column + 1 }

/-- Write a character that ends a line. -/
def endLine (pen : Pen) (c : Char) : Pen :=
  { pen with written := pen.written.push c, column := 0 }

/-- Write characters inside a line. -/
def putAll (pen : Pen) (text : List Char) : Pen := text.foldl put pen

/-- Write a space unless what follows is kept apart. -/
def separate (pen : Pen) : Pen := if pen.apart then pen else pen.put ' '

/-- Stand behind a text or a bracket. -/
def settled (pen : Pen) : Pen := { pen with apart := false, fresh := false }

/-- Go to a column, on a new line unless the pen stands before it already. -/
def indent (pen : Pen) (column : Nat) : Pen :=
  let behind := column < pen.column || (pen.column = column && !pen.apart)
  let pen := if !pen.fresh || behind then pen.endLine '\n' else pen
  let pen := pen.putAll (List.replicate (column - pen.column) ' ')
  { pen with apart := true, fresh := true }

/-- Write the mark of an item, a key or a value at the start of a line. What follows may stand on
the same line. -/
def mark (pen : Pen) (c : Char) : Pen :=
  { pen.separate.put c with apart := false }

/-- Write the colon behind a key. -/
def colon (pen : Pen) : Pen := (pen.put ':').settled

/-- Write brackets with nothing between them. -/
def brackets (pen : Pen) (text : String) : Pen := (pen.separate.putAll text.toList).settled

/-- Write a plain text, in front of which a space stands unless it is empty. -/
def plain (pen : Pen) (text : List Char) : Pen :=
  ((if text.isEmpty then pen else pen.separate).putAll text).settled

/-- Write the characters of a text in single quotes. What stands behind a line end is indented; the
flag tells whether one has just been written. -/
def singleQuotedChars (column : Nat) : Bool → List Char → Pen → Pen
  | atBreak, [], pen => if atBreak then pen.indent column else pen
  | atBreak, c :: rest, pen =>
      if endsLine c then
        singleQuotedChars column true rest { pen.endLine c with fresh := true }
      else
        let pen := if atBreak then pen.indent column else pen
        let pen := if c = '\x27' then pen.put c else pen
        singleQuotedChars column false rest { pen.put c with fresh := false }

/-- Write a text in single quotes. -/
def singleQuoted (pen : Pen) (column : Nat) (text : List Char) : Pen :=
  let opened := (pen.separate.put '\x27').settled
  ((singleQuotedChars column false text opened).put '\x27').settled

/-- Write a text in double quotes. -/
def doubleQuoted (pen : Pen) (text : List Char) : Pen :=
  ((pen.separate.put '\x22').putAll (text.flatMap doubleQuotedChar ++ ['\x22'])).settled

/-- The width of a step of indentation. -/
def step : Nat := 2

/-- How the lines of a literal text start and end, as far as that has to be said: the indentation if
the text starts with a blank, and whether no line end or more than one stands at the end. -/
def literalHints (text : List Char) : List Char :=
  let start := if text.head?.any fun c => c = ' ' || endsLine c then Nat.toDigits 10 step else []
  let finish := match text.reverse with
    | [] => ['-']
    | last :: before =>
        if !endsLine last then ['-']
        else match before with
          | [] => ['+']
          | c :: _ => if endsLine c then ['+'] else []
  start ++ finish

/-- Write the lines of a literal text; the flag tells whether a line end has just been written. -/
def literalLines (column : Nat) : Bool → List Char → Pen → Pen
  | _, [], pen => pen
  | atBreak, c :: rest, pen =>
      if endsLine c then literalLines column true rest { pen.endLine c with fresh := true }
      else
        let pen := if atBreak then pen.indent column else pen
        literalLines column false rest { pen.put c with fresh := false }

/-- Write a text in literal style. -/
def literal (pen : Pen) (column : Nat) (text : List Char) : Pen :=
  let head := (pen.separate.putAll ('|' :: literalHints text)).endLine '\n'
  literalLines column true text { head with apart := true, fresh := true }

/-- Write a text; further lines of it start at a column. -/
def text (pen : Pen) (simpleKey : Bool) (column : Nat) (content : String) : Pen :=
  let chars := content.toList
  match quotingOf simpleKey content with
  | .plain => pen.plain chars
  | .single => pen.singleQuoted column chars
  | .double => pen.doubleQuoted chars
  | .literal => pen.literal column chars

end Pen

end RecordRecipe.Yaml
