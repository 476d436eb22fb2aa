/-!
# JSON documents

A document is written compactly, or over several lines with two spaces for each level. In a
string the quote, the backslash and the control characters are escaped, and nothing else is.
-/

namespace RecordRecipe

/-- A JSON value. A number is kept as its text. -/
inductive JsonValue where
  | null
  | bool (flag : Bool)
  | number (text : String)
  | string (content : String)
  | array (items : List JsonValue)
  | object (members : List (String × JsonValue))

namespace JsonValue

/-- A digit of a hexadecimal number, in lower case. -/
def hexDigit (n : Nat) : Char :=
  Char.ofNat (if n < 10 then 48 + n else 87 + n)

/-- How a character of a string is written. -/
def escapeChar (c : Char) : List Char :=
  if c = '\x22' then ['\\', '\x22']
  else if c = '\\' then ['\\', '\\']
  else if c = '\n' then ['\\', 'n']
  else if c = '\r' then ['\\', 'r']
  else if c = '\t' then ['\\', 't']
  else if c = '\x08' then ['\\', 'b']
  else if c = '\x0c' then ['\\', 'f']
  else if c.toNat < 32 then ['\\', 'u', '0', '0', hexDigit (c.toNat / 16), hexDigit (c.toNat % 16)]
  else [c]

/-- The characters between the quotes of a string. -/
def escape (content : List Char) : List Char :=
  content.flatMap escapeChar

/-- A string in quotes. -/
def quote (content : String) : String :=
  "\"" ++ String.ofList (escape content.toList) ++ "\""

mutual

/-- The document without any white space. -/
def compact : JsonValue → String
  | null => "null"
  | bool flag => if flag then "true" else "false"
  | number text => text
  | string content => quote content
  | array items => "[" ++ compactItems items ++ "]"
  | object members => "\x7b" ++ compactMembers members ++ "\x7d"

/-- The items of an array between commas. -/
def compactItems : List JsonValue → String
  | [] => ""
  | [item] => compact item
  | item :: next :: rest => compact item ++ "," ++ compactItems (next :: rest)

/-- The members of an object between commas. -/
def compactMembers : List (String × JsonValue) → String
  | [] => ""
  | [(name, value)] => quote name ++ ":" ++ compact value
  | (name, value) :: next :: rest =>
      quote name ++ ":" ++ compact value ++ "," ++ compactMembers (next :: rest)

end

/-- A line break and the indentation of a level. -/
def newline (level : Nat) : String :=
  "\n" ++ String.ofList (List.replicate (2 * level) ' ')

mutual

/-- The document over several lines. -/
def pretty (level : Nat) : JsonValue → String
  | null => "null"
  | bool flag => if flag then "true" else "false"
  | number text => text
  | string content => quote content
  | array [] => "[]"
  | array (item :: rest) =>
      "[" ++ newline (level + 1) ++ pretty (level + 1) item ++ prettyItems (level + 1) rest ++
        newline level ++ "]"
  | object [] => "\x7b\x7d"
  | object ((name, value) :: rest) =>
      "\x7b" ++ newline (level + 1) ++ quote name ++ ": " ++ pretty (level + 1) value ++
        prettyMembers (level + 1) rest ++ newline level ++ "\x7d"

/-- The further items of an array, each on a line of its own. -/
def prettyItems (level : Nat) : List JsonValue → String
  | [] => ""
  | item :: rest => "," ++ newline level ++ pretty level item ++ prettyItems level rest

/-- The further members of an object, each on a line of its own. -/
def prettyMembers (level : Nat) : List (String × JsonValue) → String
  | [] => ""
  | (name, value) :: rest =>
      "," ++ newline level ++ quote name ++ ": " ++ pretty level value ++
        prettyMembers level rest

end

end JsonValue

end RecordRecipe
