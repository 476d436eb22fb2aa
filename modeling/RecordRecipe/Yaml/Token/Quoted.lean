import RecordRecipe.Numeral
import RecordRecipe.Yaml.Token

/-!
# Quoted scalars

A scalar in single quotes writes a quote twice; one in double quotes has escapes behind a
backslash. Both may run over several lines, which fold as in a plain scalar.
-/

namespace RecordRecipe.Yaml

/-- The character that a one-letter escape stands for. -/
def shortEscape? : Char → Option Char
  | '0' => some '\x00'
  | 'a' => some '\x07'
  | 'b' => some '\x08'
  | 't' => some '\t'
  | '\t' => some '\t'
  | 'n' => some '\n'
  | 'v' => some '\x0b'
  | 'f' => some '\x0c'
  | 'r' => some '\r'
  | 'e' => some '\x1b'
  | ' ' => some ' '
  | '\x22' => some '\x22'
  | '/' => some '/'
  | '\\' => some '\\'
  | 'N' => some '\u0085'
  | '_' => some '\u00a0'
  | 'L' => some '\u2028'
  | 'P' => some '\u2029'
  | _ => none

/-- The number of hexadecimal digits behind a letter that introduces a character code. -/
def codeLength? : Char → Option Nat
  | 'x' => some 2
  | 'u' => some 4
  | 'U' => some 8
  | _ => none

/-- The character of a code, if there is one. -/
def charOfCode? (code : Nat) : Option Char :=
  if h : code.isValidChar then some (Char.ofNatAux code h) else none

namespace Cursor

/-- Read the escape at the cursor. -/
def escape (start cursor : Cursor) : Except Fault (Char × Cursor) :=
  let letter := cursor.peekAt 1
  match shortEscape? letter, codeLength? letter with
  | some c, _ => .ok (c, cursor.pass 2)
  | none, some width =>
      let digits := (cursor.rest.drop 2).take width
      match Numeral.radixValue? 16 digits with
      | some code =>
          if digits.length < width then
            .error (start.fault
              "while parsing a quoted scalar, did not find expected hexadecimal number")
          else match charOfCode? code with
            | some c => .ok (c, cursor.pass (2 + width))
            | none =>
                .error (start.fault
                  "while parsing a quoted scalar, found invalid Unicode character escape code")
      | none =>
          .error (start.fault
            "while parsing a quoted scalar, did not find expected hexadecimal number")
  | none, none =>
      .error (start.fault "while parsing a quoted scalar, found unknown escape character")

/-- Read the characters up to a gap, the closing quote or an escaped line break; the flag tells
of the last. -/
def quotedWord (quote : Char) (start : Cursor) :
    Nat → List Char → Cursor → Except Fault (List Char × Bool × Cursor)
  | 0, text, cursor => .ok (text, false, cursor)
  | fuel + 1, text, cursor =>
      let c := cursor.peek
      let next := cursor.peekAt 1
      if isGap c then .ok (text, false, cursor)
      else if c = quote then
        if quote = '\x27' && next = '\x27' then
          quotedWord quote start fuel (text ++ ['\x27']) (cursor.pass 2)
        else .ok (text, false, cursor)
      else if quote = '\x22' && c = '\\' then
        if isBreak next then .ok (text, true, (cursor.pass 1).passBreak)
        else do
          let (char, cursor) ← escape start cursor
          quotedWord quote start fuel (text ++ [char]) cursor
      else quotedWord quote start fuel (text ++ [c]) (cursor.pass 1)

/-- The spacing inside a quoted scalar: blanks, or line breaks once a line has ended. -/
structure QuotedSpacing where
  blanks : List Char := []
  newLine : Bool
  firstBreak : Bool := false
  moreBreaks : Nat := 0

/-- The spacing as it reads. -/
def QuotedSpacing.folded (spacing : QuotedSpacing) : List Char :=
  if !spacing.newLine then spacing.blanks
  else if spacing.firstBreak && spacing.moreBreaks = 0 then [' ']
  else List.replicate spacing.moreBreaks '\n'

/-- Gather the blanks and line breaks at the cursor. -/
def quotedSpacing (indent : Int) :
    Nat → QuotedSpacing → Cursor → Except Fault (QuotedSpacing × Cursor)
  | 0, spacing, cursor => .ok (spacing, cursor)
  | fuel + 1, spacing, cursor =>
      if isSpace cursor.peek then
        if !spacing.newLine then
          quotedSpacing indent fuel { spacing with blanks := spacing.blanks ++ [cursor.peek] }
            (cursor.passBlanks 1)
        else if cursor.peek = '\t' && cursor.indent < indent then
          .error (cursor.fault "tab cannot be used as indentation")
        else quotedSpacing indent fuel spacing (cursor.passBlanks 1)
      else if isBreak cursor.peek then
        let spacing :=
          if spacing.newLine then { spacing with moreBreaks := spacing.moreBreaks + 1 }
          else { spacing with blanks := [], newLine := true, firstBreak := true }
        quotedSpacing indent fuel spacing cursor.passBreak
      else .ok (spacing, cursor)

/-- Read up to the closing quote. -/
def quotedContent (quote : Char) (indent : Int) (start : Cursor) :
    Nat → List Char → Cursor → Except Fault (List Char × Cursor)
  | 0, text, cursor => .ok (text, cursor)
  | fuel + 1, text, cursor => do
      if cursor.atDocumentMarker then
        throw (start.fault
          "while scanning a quoted scalar, found unexpected document indicator")
      if cursor.peek = '\x00' then
        throw (start.fault "while scanning a quoted scalar, found unexpected end of stream")
      if cursor.indent < indent then
        throw (start.fault "invalid indentation in quoted scalar")
      let (text, escapedBreak, cursor) ← quotedWord quote start fuel text cursor
      if cursor.peek = quote then return (text, cursor)
      let (spacing, cursor) ← quotedSpacing indent fuel { newLine := escapedBreak } cursor
      quotedContent quote indent start fuel (text ++ spacing.folded) cursor

/-- May a quoted scalar end here? A colon behind it makes it a key, outside of flow collections
on one line only. -/
def endsQuoted (inFlow : Bool) (start cursor : Cursor) : Bool :=
  let c := cursor.peek
  isLineEnd c || (inFlow && (c = ',' || c = '\x7d' || c = ']' || c = ':')) ||
    (!inFlow && c = ':' && start.line = cursor.line)

/-- Read a quoted scalar. -/
def quotedScalar (inFlow : Bool) (indent : Int) (start : Cursor) :
    Except Fault (String × Cursor) := do
  let quote := start.peek
  let (text, cursor) ←
    quotedContent quote indent start (2 * start.rest.length + 2) [] (start.pass 1)
  let cursor ← (cursor.pass 1).passToLineEnd
  if endsQuoted inFlow start cursor then return (String.ofList text, cursor)
  throw (cursor.fault "invalid trailing content after double-quoted scalar")

end Cursor

end RecordRecipe.Yaml
