import RecordRecipe.Expr.Fault
import RecordRecipe.Numeral
import RecordRecipe.Text.Blank

/-!
# The tokens of a template

A template is text with three kinds of tags in it: values between `<<` and `>>`, statements between
`<%` and `%>`, and comments between `<#` and `#>`. A minus sign next to a delimiter takes the
blanks on that side of the tag away. Inside a tag a closing delimiter counts only where all
brackets are closed.

Reading stops at the first fault; the tokens in front of it stand, because a fault further on in
the text matters only once it is reached.
-/

namespace RecordRecipe.Expr

/-- Operators and punctuation. -/
inductive Symbol where
  | plus | minus | times | slash | floorSlash | percent | power | tilde | pipe
  | dot | comma | colon | assign
  | equal | unequal | less | lessEqual | greater | greaterEqual
  | parenOpen | parenClose | bracketOpen | bracketClose | braceOpen | braceClose
deriving DecidableEq, Repr

/-- A token of a template. -/
inductive Token where
  /-- Text outside of all tags. -/
  | data (content : String)
  | valueStart
  | valueEnd
  | statementStart
  | statementEnd
  | word (name : String)
  /-- A text; the flag tells whether there are escapes in it. -/
  | text (content : String) (escaped : Bool)
  | int (n : Nat)
  | float (x : Float)
  | symbol (symbol : Symbol)

/-- The kinds of tags. -/
inductive Tag where
  | value
  | statement
  | comment
deriving DecidableEq, Repr

namespace Tag

/-- The opening delimiter. -/
def opening : Tag → List Char
  | value => ['<', '<']
  | statement => ['<', '%']
  | comment => ['<', '#']

/-- The closing delimiter. -/
def closing : Tag → List Char
  | value => ['>', '>']
  | statement => ['%', '>']
  | comment => ['#', '>']

/-- The tag that opens at the first of some characters. -/
def atStart? : List Char → Option Tag
  | '<' :: '<' :: _ => some value
  | '<' :: '%' :: _ => some statement
  | '<' :: '#' :: _ => some comment
  | _ => none

end Tag

/-- The tokens of a template, and the fault that ended the reading early. -/
structure Lexed where
  tokens : List Token
  fault : Option Fault

namespace Lexed

/-- No tokens, and all has been read. -/
def done : Lexed := ⟨[], none⟩

/-- No tokens, and a fault. -/
def stop (fault : Fault) : Lexed := ⟨[], some fault⟩

/-- A token in front of others. -/
def cons (token : Token) (lexed : Lexed) : Lexed := { lexed with tokens := token :: lexed.tokens }

end Lexed

/-- A blank inside a tag. -/
def isTagBlank (c : Char) : Bool :=
  c = ' ' || c = '\t' || c = '\n' || c = '\r' || c = '\x0c'

/-- The first character of a name. -/
def isNameStart (c : Char) : Bool := c.isAlpha || c = '_'

/-- A further character of a name. -/
def isNameChar (c : Char) : Bool := c.isAlphanum || c = '_'

/-- The sign next to a delimiter: whether it takes blanks away, and the characters behind it. -/
def trimSign : List Char → Bool × List Char
  | '-' :: rest => (true, rest)
  | '+' :: rest => (false, rest)
  | rest => (false, rest)

/-- The characters behind a given beginning. -/
def after? (beginning text : List Char) : Option (List Char) :=
  if beginning.isPrefixOf text then some (text.drop beginning.length) else none

/-- The characters behind a closing delimiter, with the sign in front of it; the flag tells a
minus. -/
def closing? (tag : Tag) (text : List Char) : Option (Bool × List Char) :=
  let (strip, behind) := trimSign text
  (after? tag.closing behind).map fun rest => (strip, rest)

/-- The characters behind a statement tag that holds a single word, after its opening; the flag
tells a minus in front of the closing delimiter. -/
def bareStatement? (word : String) (text : List Char) : Option (Bool × List Char) := do
  let behind ← after? word.toList (text.dropWhile isTagBlank)
  closing? .statement (behind.dropWhile isTagBlank)

/-- The characters up to the first tag and those from it on. -/
def splitAtTag : List Char → List Char × List Char
  | [] => ([], [])
  | c :: rest =>
      if (Tag.atStart? (c :: rest)).isSome then ([], c :: rest)
      else
        let (before, tag) := splitAtTag rest
        (c :: before, tag)

/-- The characters up to the first occurrence of a pattern and those behind it. -/
def splitAt? (pattern : List Char) : List Char → Option (List Char × List Char)
  | [] => none
  | c :: rest =>
      if pattern.isPrefixOf (c :: rest) then some ([], (c :: rest).drop pattern.length)
      else (splitAt? pattern rest).map fun parts => (c :: parts.1, parts.2)

/-- Take the blanks at the start away if told so. -/
def stripStart (strip : Bool) (text : List Char) : List Char :=
  if strip then Text.trimStart Text.isBlank text else text

/-- Take the blanks at the end away if told so. -/
def stripEnd (strip : Bool) (text : List Char) : List Char :=
  if strip then Text.trimEnd Text.isBlank text else text

/-- The raw text up to the tag that ends it, and the characters behind that tag. -/
def rawText? : Nat → List Char → List Char → Option (List Char × List Char)
  | 0, _, _ => none
  | fuel + 1, before, text =>
      match splitAt? Tag.statement.opening text with
      | none => none
      | some (more, tag) =>
          let (stripBefore, word) := trimSign tag
          match bareStatement? "endraw" word with
          | some (stripBehind, rest) =>
              some (stripEnd stripBefore (before ++ more), stripStart stripBehind rest)
          | none => rawText? fuel (before ++ more ++ Tag.statement.opening) tag

/-- The number that a count of hexadecimal digits at the start give. -/
def hexNumber? (count : Nat) (text : List Char) : Option Nat :=
  let digits := match text.take count with
    | '+' :: rest => rest
    | other => other
  if (text.take count).length < count then none else Numeral.radixValue? 16 digits

/-- An octal digit. -/
def isOctalDigit (c : Char) : Bool := '0' ≤ c && c ≤ '7'

/-- The octal digits of an escaped character, three at most. -/
def octalDigits (text : List Char) : List Char := (text.take 3).takeWhile isOctalDigit

/-- The number that octal digits stand for. -/
def octalNumber (digits : List Char) : Nat :=
  digits.foldl (fun total c => total * 8 + (c.toNat - 48)) 0

/-- The character that an escape letter stands for. -/
def escapedChar? : Char → Option Char
  | '\x22' => some '\x22'
  | '\\' => some '\\'
  | '/' => some '/'
  | '\x27' => some '\x27'
  | 'b' => some '\x08'
  | 'f' => some '\x0c'
  | 'n' => some '\n'
  | 'r' => some '\r'
  | 't' => some '\t'
  | _ => none

/-- The half of a surrogate pair that waits for the other. -/
abbrev HighHalf := Option Nat

/-- Put a code unit behind the text; two halves of a pair make one character. -/
def putUnit (pending : HighHalf) (unit : Nat) : Option (HighHalf × List Char) :=
  let isHalf := 0xD800 ≤ unit && unit < 0xE000
  match pending, isHalf with
  | none, false => some (none, [Char.ofNat unit])
  | none, true => some (some unit, [])
  | some _, false => none
  | some high, true =>
      if high < 0xDC00 && 0xDC00 ≤ unit then
        some (none, [Char.ofNat (0x10000 + (high - 0xD800) * 0x400 + (unit - 0xDC00))])
      else none

/-- The characters that an escape stands for, and those behind it. A letter without a meaning keeps
its backslash. -/
def escaped? (letter : Char) (rest : List Char) : Option (List Char × List Char) :=
  if isOctalDigit letter then
    let digits := octalDigits (letter :: rest)
    let code := octalNumber digits
    if code < 256 then some ([Char.ofNat code], (letter :: rest).drop digits.length) else none
  else if letter = 'x' then
    (hexNumber? 2 rest).map fun code => ([Char.ofNat code], rest.drop 2)
  else match escapedChar? letter with
    | some c => some ([c], rest)
    | none => some (['\\', letter], rest)

/-- Resolve the escapes of a text. -/
def unescape : Nat → HighHalf → List Char → Option (List Char)
  | 0, _, _ => none
  | _ + 1, pending, [] => if pending.isNone then some [] else none
  | fuel + 1, pending, '\\' :: 'u' :: rest => do
      let unit ← hexNumber? 4 rest
      let (pending, chars) ← putUnit pending unit
      return chars ++ (← unescape fuel pending (rest.drop 4))
  | fuel + 1, pending, '\\' :: letter :: rest => do
      let (chars, behind) ← escaped? letter rest
      if pending.isSome then none
      else return chars ++ (← unescape fuel none behind)
  | fuel + 1, pending, c :: rest =>
      if c = '\\' || pending.isSome then none
      else return c :: (← unescape fuel none rest)

/-- The characters up to the closing quote, escapes as they stand, and the characters behind it. -/
def quoted? (quote : Char) : List Char → Option (List Char × List Char)
  | [] => none
  | '\\' :: c :: rest => (quoted? quote rest).map fun parts => ('\\' :: c :: parts.1, parts.2)
  | c :: rest =>
      if c = quote then some ([], rest)
      else if c = '\\' then none
      else (quoted? quote rest).map fun parts => (c :: parts.1, parts.2)

/-- The parts of a number that have been read. -/
inductive NumberPart where
  | whole
  | fraction
  | exponentMark
  | exponent
  | radix (base : Nat)
deriving DecidableEq, Repr

/-- Do some characters start an exponent: its mark, and a digit behind it or behind a sign? -/
def startsExponent (text : List Char) : Bool :=
  match text with
  | mark :: rest =>
      (mark = 'e' || mark = 'E') && ((Numeral.splitSign rest).2.head?.any Char.isDigit)
  | [] => false

/-- Do some characters start the name of an attribute, and not an exponent? -/
def startsAttribute (text : List Char) : Bool :=
  text.head?.any isNameStart && !startsExponent text

/-- The part that a character continues a number with, if it belongs to it. A point in front of an
attribute does not. -/
def NumberPart.next? (part : NumberPart) (c : Char) (following : List Char) : Option NumberPart :=
  match part with
  | .whole =>
      if c = '.' then (if startsAttribute following then none else some .fraction)
      else if c = 'e' || c = 'E' then some .exponentMark
      else if c.isDigit || c = '_' then some .whole else none
  | .fraction =>
      if c = 'e' || c = 'E' then some .exponentMark
      else if c.isDigit || c = '_' then some .fraction else none
  | .exponentMark =>
      if c = '+' || c = '-' || c.isDigit then some .exponent
      else if c = '_' then some .exponentMark else none
  | .exponent => if c.isDigit || c = '_' then some .exponent else none
  | .radix base =>
      if c.isDigit || c = '_' ||
          (base = 16 && (('a' ≤ c && c ≤ 'f') || ('A' ≤ c && c ≤ 'F'))) then
        some (.radix base)
      else none

/-- The characters of a number, the part it ends in, and the characters behind it. -/
def numberChars (part : NumberPart) : List Char → List Char × NumberPart × List Char
  | [] => ([], part, [])
  | c :: rest =>
      match part.next? c rest with
      | none => ([], part, c :: rest)
      | some part =>
          let (chars, last, behind) := numberChars part rest
          (c :: chars, last, behind)

/-- The base that a number is written in, and its digits. -/
def numberBase : List Char → NumberPart × List Char
  | '0' :: c :: rest =>
      if c = 'x' || c = 'X' then (.radix 16, rest)
      else if c = 'o' || c = 'O' then (.radix 8, rest)
      else if c = 'b' || c = 'B' then (.radix 2, rest)
      else (.whole, '0' :: c :: rest)
  | text => (.whole, text)

/-- Read the number at the start of some characters. -/
def number (text : List Char) : Except Fault (Token × List Char) :=
  let (part, digits) := numberBase text
  let (chars, last, rest) := numberChars part digits
  let plain := chars.filter (· ≠ '_')
  if chars.getLast? = some '_' then
    .error (.malformed "'_' may not occur at end of number")
  else
    let base : Option Nat := match last with
      | .whole => some 10
      | .radix base => some base
      | _ => none
    match base with
    | some base =>
        match Numeral.radixValue? base plain with
        | some n =>
            if n < Nat.pow 2 128 then .ok (.int n, rest)
            else .error (.malformed "invalid integer (too large)")
        | none => .error (.malformed "invalid integer (too large)")
    | none =>
        match Numeral.readFloat? plain with
        | some x => .ok (.float x, rest)
        | none => .error (.malformed "invalid float")

/-- The operator of two characters. -/
def doubleSymbol? : List Char → Option Symbol
  | '/' :: '/' :: _ => some .floorSlash
  | '*' :: '*' :: _ => some .power
  | '=' :: '=' :: _ => some .equal
  | '!' :: '=' :: _ => some .unequal
  | '>' :: '=' :: _ => some .greaterEqual
  | '<' :: '=' :: _ => some .lessEqual
  | _ => none

/-- The operator or punctuation mark of one character. -/
def singleSymbol? : Char → Option Symbol
  | '+' => some .plus
  | '-' => some .minus
  | '*' => some .times
  | '/' => some .slash
  | '%' => some .percent
  | '.' => some .dot
  | ',' => some .comma
  | ':' => some .colon
  | '~' => some .tilde
  | '|' => some .pipe
  | '=' => some .assign
  | '>' => some .greater
  | '<' => some .less
  | '(' => some .parenOpen
  | ')' => some .parenClose
  | '[' => some .bracketOpen
  | ']' => some .bracketClose
  | '\x7b' => some .braceOpen
  | '\x7d' => some .braceClose
  | _ => none

/-- How a mark changes the number of open brackets. -/
def Symbol.nesting : Symbol → Int
  | parenOpen | bracketOpen | braceOpen => 1
  | parenClose | bracketClose | braceClose => -1
  | _ => 0

/-- Read the token at the start of some characters inside a tag. -/
def innerToken (text : List Char) : Except Fault (Token × List Char) :=
  match doubleSymbol? text, text with
  | some symbol, _ => .ok (.symbol symbol, text.drop 2)
  | none, [] => .error (.malformed "unexpected end of input")
  | none, c :: rest =>
      if c = '\x27' || c = '\x22' then
        match quoted? c rest with
        | none => .error (.malformed "unexpected end of string")
        | some (content, rest) =>
            match unescape (content.length + 1) none content with
            | some plain => .ok (.text (String.ofList plain) (content.contains '\\'), rest)
            | none => .error ⟨.badEscape, none⟩
      else if c.isDigit then number text
      else match singleSymbol? c with
        | some symbol => .ok (.symbol symbol, rest)
        | none =>
            if isNameStart c then
              .ok (.word (String.ofList (text.takeWhile isNameChar)), text.dropWhile isNameChar)
            else .error (.malformed "unexpected character")

/-- Where reading stands: outside of tags, or inside one with a number of open brackets. -/
inductive LexState where
  | outside
  | inside (tag : Tag) (nesting : Int)

/-- The token that closes a tag. -/
def Tag.endToken : Tag → Token
  | value => .valueEnd
  | _ => .statementEnd

/-- Read all tokens. Each step consumes a character. -/
def lex : Nat → LexState → List Char → Lexed
  | 0, _, _ => .done
  | _ + 1, _, [] => .done
  | fuel + 1, .outside, text =>
      match Tag.atStart? text with
      | some .comment =>
          match splitAt? Tag.comment.closing (trimSign (text.drop 2)).2 with
          | none => .stop (.malformed "unexpected end of comment")
          | some (content, rest) =>
              lex fuel .outside (stripStart (content.getLast? = some '-') rest)
      | some .value => (lex fuel (.inside .value 0) (trimSign (text.drop 2)).2).cons .valueStart
      | some .statement =>
          let (_, behind) := trimSign (text.drop 2)
          match bareStatement? "raw" behind with
          | none => (lex fuel (.inside .statement 0) behind).cons .statementStart
          | some (strip, rest) =>
              match rawText? (rest.length + 1) [] rest with
              | none => .stop (.malformed "unexpected end of raw block")
              | some (raw, rest) =>
                  (lex fuel .outside rest).cons (.data (String.ofList (stripStart strip raw)))
      | none =>
          let (before, tag) := splitAtTag text
          let strip := (trimSign (tag.drop 2)).1
          (lex fuel .outside tag).cons (.data (String.ofList (stripEnd strip before)))
  | fuel + 1, .inside tag nesting, c :: rest =>
      if isTagBlank c then lex fuel (.inside tag nesting) rest
      else
        match if nesting = 0 then closing? tag (c :: rest) else none with
        | some (strip, rest) => (lex fuel .outside (stripStart strip rest)).cons tag.endToken
        | none =>
            match innerToken (c :: rest) with
            | .error fault => .stop fault
            | .ok (token, rest) =>
                let nesting := match token with
                  | .symbol symbol => nesting + symbol.nesting
                  | _ => nesting
                (lex fuel (.inside tag nesting) rest).cons token

/-- The tokens of a template; a line break at the very end does not count. -/
def Lexed.ofText (text : String) : Lexed :=
  let chars := Text.withoutLastBreak text.toList
  lex (chars.length + 1) .outside chars

end RecordRecipe.Expr
