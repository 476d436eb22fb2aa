import RecordRecipe.Numeral

/-!
# How texts are written in YAML

A text is written plainly unless it would then read back as another type or break the structure
around it. Such a text stands in single quotes, one of several lines in literal style, and one that
neither can hold in double quotes, where everything can be escaped.
-/

namespace RecordRecipe.Yaml

/-- The ways of writing a text. -/
inductive Quoting where
  | plain
  | single
  | double
  | literal
deriving DecidableEq, Repr

/-- Digits behind a leading zero: a text that looks like a number without being one. -/
def isZeroPadded (text : List Char) : Bool :=
  let digits := match text with
    | '-' :: rest | '+' :: rest => rest
    | other => other
  match digits with
  | '0' :: rest => !rest.isEmpty && rest.all Char.isDigit
  | _ => false

/-- The base that a mark stands for, with the digits behind it. -/
def radixDigits? : List Char → Option (Nat × List Char)
  | '0' :: 'x' :: rest => some (16, rest)
  | '0' :: 'o' :: rest => some (8, rest)
  | '0' :: 'b' :: rest => some (2, rest)
  | _ => none

/-- An integer behind a base mark that fits 128 bits, those below zero with a sign. -/
def isRadixInteger (text : List Char) : Bool :=
  let (unsigned, bound) := match text with
    | '-' :: rest => (rest, Nat.pow 2 127 + 1)
    | '+' :: rest => (rest, Nat.pow 2 128)
    | other => (other, Nat.pow 2 128)
  match radixDigits? unsigned with
  | some (base, digits) => (Numeral.radixValue? base digits).any (· < bound)
  | none => false

/-- The words that read as null, a truth value, an infinity or not-a-number. -/
def typedWords : List String :=
  ["", "~", "null", "Null", "NULL", "true", "True", "TRUE", "false", "False", "FALSE",
   ".inf", ".Inf", ".INF", "+.inf", "+.Inf", "+.INF", "-.inf", "-.Inf", "-.INF",
   ".nan", ".NaN", ".NAN"]

/-- Would the plain text read as something other than a text? -/
def readsAsOther (text : String) : Bool :=
  let chars := text.toList
  typedWords.contains text || isZeroPadded chars || isRadixInteger chars ||
    (Numeral.readScientific? chars).any (fun s => s.toFloat.isFinite)

/-- A character that is written as it is. -/
def isPrintable (c : Char) : Bool :=
  let n := c.toNat
  n = 0x0A || (0x20 ≤ n && n ≤ 0x7E) || (0xA0 ≤ n && n ≤ 0xD7FF) ||
    (0xE000 ≤ n && n ≤ 0xFFFD && n ≠ 0xFEFF) || 0x10000 ≤ n

/-- A character that ends a line. -/
def endsLine (c : Char) : Bool :=
  c = '\n' || c = '\r' || c = '\u0085' || c = '\u2028' || c = '\u2029'

/-- A space, a tab, a line end or nothing. -/
def isSpacing : Option Char → Bool
  | none => true
  | some c => c = ' ' || c = '\t' || endsLine c

/-- Does a character that is not the first break the structure around a plain text? -/
def breaksInside (previous : Char) (c : Char) (next : Option Char) : Bool :=
  (c = ':' && isSpacing next) || (c = '#' && isSpacing (some previous))

/-- Does any character but the first break the structure? -/
def breaksLater : Char → List Char → Bool
  | _, [] => false
  | previous, c :: rest => breaksInside previous c rest.head? || breaksLater c rest

/-- Does the start of a text break the structure? -/
def breaksAtStart : List Char → Bool
  | '-' :: '-' :: '-' :: _ => true
  | '.' :: '.' :: '.' :: _ => true
  | [] => false
  | c :: rest =>
      "#,[]\x7b\x7d&*!|>'\"%@\x60".toList.contains c ||
        ((c = '?' || c = ':' || c = '-') && isSpacing rest.head?)

/-- Does some character satisfy one test and the next one another? -/
def hasPair (first second : Char → Bool) : List Char → Bool
  | c :: d :: rest => (first c && second d) || hasPair first second (d :: rest)
  | _ => false

/-- Does a text span several lines? -/
def isMultiline (text : List Char) : Bool := text.any endsLine

/-- Does the structure of lines in a text hold up without escapes? A space in front of a line end
and a character that cannot be shown do not. -/
def isShowable (text : List Char) : Bool :=
  text.all isPrintable && !hasPair (· = ' ') endsLine text

/-- Can a text stand plainly in a block? -/
def allowsPlain (text : List Char) : Bool :=
  match text with
  | [] => true
  | c :: rest =>
      !(breaksAtStart text || breaksLater c rest || c = ' ' || text.getLast?.any (· = ' ') ||
        isMultiline text) && isShowable text

/-- Can a text stand in single quotes? A space behind a line end would be lost. -/
def allowsSingle (text : List Char) : Bool :=
  isShowable text && !hasPair endsLine (· = ' ') text

/-- Can a text stand in literal style? -/
def allowsLiteral (text : List Char) : Bool :=
  !text.isEmpty && isShowable text && !text.getLast?.any (· = ' ')

/-- How a text is written; a key that shares its line with a colon is never literal. -/
def quotingOf (simpleKey : Bool) (text : String) : Quoting :=
  let chars := text.toList
  if chars.contains '\n' then
    if allowsLiteral chars && !simpleKey then .literal else .double
  else if allowsPlain chars && !readsAsOther text then .plain
  else if allowsSingle chars then .single
  else .double

/-- The most bytes of a key that shares its line with a colon. -/
def simpleKeyLimit : Nat := 128

/-- Can a text share its line as a key with a colon? -/
def isSimpleKey (text : String) : Bool :=
  !isMultiline text.toList && text.utf8ByteSize ≤ simpleKeyLimit

/-- A digit of a hexadecimal number, in upper case. -/
def upperHexDigit (n : Nat) : Char :=
  Char.ofNat (if n < 10 then 48 + n else 55 + n)

/-- A number as hexadecimal digits of a fixed count. -/
def hexDigits (n : Nat) : Nat → List Char
  | 0 => []
  | count + 1 => hexDigits (n / 16) count ++ [upperHexDigit (n % 16)]

/-- How a character is written in double quotes. -/
def doubleQuotedChar (c : Char) : List Char :=
  let n := c.toNat
  if isPrintable c && !endsLine c && c ≠ '\x22' && c ≠ '\\' then [c]
  else match n with
    | 0x00 => ['\\', '0'] | 0x07 => ['\\', 'a'] | 0x08 => ['\\', 'b'] | 0x09 => ['\\', 't']
    | 0x0A => ['\\', 'n'] | 0x0B => ['\\', 'v'] | 0x0C => ['\\', 'f'] | 0x0D => ['\\', 'r']
    | 0x1B => ['\\', 'e'] | 0x22 => ['\\', '\x22'] | 0x5C => ['\\', '\\'] | 0x85 => ['\\', 'N']
    | 0xA0 => ['\\', '_'] | 0x2028 => ['\\', 'L'] | 0x2029 => ['\\', 'P']
    | _ =>
        if n ≤ 0xFF then '\\' :: 'x' :: hexDigits n 2
        else if n ≤ 0xFFFF then '\\' :: 'u' :: hexDigits n 4
        else '\\' :: 'U' :: hexDigits n 8

end RecordRecipe.Yaml
