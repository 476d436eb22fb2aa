import RecordRecipe.Expr.Value
import RecordRecipe.Text.Case

/-!
# Filters of texts

What filters make of the characters of a text: other letters, other parts, pieces, lines.
-/

namespace RecordRecipe.Expr

namespace Value

/-- The first letter of every word in upper case, all others in lower case; words end at blanks
and at punctuation. -/
def titleChars : Bool → List Char → List Char
  | _, [] => []
  | capital, c :: rest =>
      let punctuation := 0x21 ≤ c.toNat && c.toNat < 0x7F && !c.isAlphanum
      if punctuation || Text.isBlank c then c :: titleChars true rest
      else (if capital then Text.upperChars c else Text.lowerChars c) ++ titleChars false rest

/-- The first character in upper case, all others in lower case. -/
def capitalizeChars : List Char → List Char
  | [] => []
  | c :: rest => Text.upperChars c ++ Text.lower rest

/-- Replace every occurrence of a pattern, from left to right. Occurrences of the empty pattern lie
between all characters and at both ends. -/
def replaceChars (pattern new : List Char) : Nat → List Char → List Char
  | 0, chars => chars
  | _ + 1, [] => if pattern.isEmpty then new else []
  | fuel + 1, c :: rest =>
      if pattern.isEmpty then new ++ c :: replaceChars pattern new fuel rest
      else if pattern.isPrefixOf (c :: rest) then
        new ++ replaceChars pattern new fuel ((c :: rest).drop pattern.length)
      else c :: replaceChars pattern new fuel rest

/-- The pieces between the occurrences of a separator, at most as many as given. The empty
separator stands between all characters and at both ends. -/
def splitChars (separator : List Char) : Nat → Nat → List Char → List Char → List (List Char)
  | 0, _, piece, chars => [piece.reverse ++ chars]
  | _ + 1, pieces, piece, [] =>
      if separator.isEmpty && 1 < pieces then [piece.reverse, []] else [piece.reverse]
  | fuel + 1, pieces, piece, c :: rest =>
      if pieces ≤ 1 then [piece.reverse ++ c :: rest]
      else if separator.isEmpty then
        piece.reverse :: splitChars separator fuel (pieces - 1) [c] rest
      else if separator.isPrefixOf (c :: rest) then
        piece.reverse ::
          splitChars separator fuel (pieces - 1) [] ((c :: rest).drop separator.length)
      else splitChars separator fuel pieces (c :: piece) rest

/-- The words between blanks. -/
def splitWords : Nat → List Char → List (List Char)
  | 0, _ => []
  | fuel + 1, chars =>
      let start := Text.trimStart Text.isBlank chars
      if start.isEmpty then []
      else
        let word := start.takeWhile fun c => !Text.isBlank c
        word :: splitWords fuel (start.drop word.length)

/-- At most a number of words from the front, and then what is left. The blanks in front of that are
taken away unless there is nothing else. -/
def splitFirstWords (words : Nat) (chars : List Char) : List (List Char) :=
  let start := Text.trimStart Text.isBlank chars
  let word := start.takeWhile fun c => !Text.isBlank c
  match words with
  | 0 => [if start.isEmpty then chars else start]
  | words + 1 =>
      if word.length = start.length then [if start.isEmpty then chars else start]
      else word :: splitFirstWords words (start.drop word.length)

/-- The pieces of a text. Between blanks no piece is empty, and a limit then counts the words in
front of the rest. -/
def split (separator : Option String) (limit : Option Int) (content : String) : Value :=
  let chars := content.toList
  let most : Option Nat := limit.bind fun n => if 0 ≤ n then some n.toNat else none
  let pieces := match separator, most with
    | some separator, some most =>
        splitChars separator.toList (chars.length + 2) (most + 1) [] chars
    | some separator, none =>
        splitChars separator.toList (chars.length + 2) (chars.length + 2) [] chars
    | none, none => splitWords (chars.length + 1) chars
    | none, some most => splitFirstWords most chars
  list (pieces.map fun piece => text (String.ofList piece))

/-- The lines of a text. The break at the end of a line is not part of it, and behind the last one
there is no further line. -/
def lines (content : String) : Value :=
  let pieces := Text.splitWhere (· = '\n') content.toList
  let all := if pieces.getLast? = some [] then pieces.dropLast else pieces
  let unfed (line : List Char) := if line.getLast? = some '\r' then line.dropLast else line
  list (all.map fun line => text (String.ofList (unfed line)))

/-- The lines of a text moved in by a number of spaces; the flags tell whether the first one and
empty ones are, too. -/
def indent (width : Nat) (firstLine blankLines : Bool) (content : String) : String :=
  let margin := List.replicate width ' '
  let pieces := Text.splitWhere (· = '\n') (Text.withoutLastBreak content.toList)
  let moved (line : List Char) : List Char :=
    if line.isEmpty then (if blankLines then margin else []) else margin ++ line
  let all := if firstLine then pieces.map moved else
    match pieces with
    | [] => []
    | first :: rest => first :: rest.map moved
  String.ofList (Text.withoutLastBreak (all.flatMap (· ++ ['\n'])))

/-- The characters as they are written in markup. -/
def escapeChars (chars : List Char) : List Char :=
  chars.flatMap fun c =>
    match c with
    | '<' => "&lt;".toList
    | '>' => "&gt;".toList
    | '&' => "&amp;".toList
    | '\x22' => "&quot;".toList
    | '\'' => "&#x27;".toList
    | '/' => "&#x2f;".toList
    | c => [c]

end Value

end RecordRecipe.Expr
