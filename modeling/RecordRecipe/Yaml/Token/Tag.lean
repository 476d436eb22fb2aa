import RecordRecipe.Numeral
import RecordRecipe.Yaml.Token

/-!
# Tags, anchors and directives

Tags do not change how a recipe is read, but they have to be well formed: a tag is a handle
followed by a suffix, a suffix alone, or a full address in angle brackets, and percent escapes in
it spell characters.
-/

namespace RecordRecipe.Yaml

/-- A character of an address. -/
def isAddressChar (c : Char) : Bool :=
  c.isAlphanum || c = '-' || "#;/?:@&=+$,_.!~*'()[]%".toList.contains c

/-- A character of a tag's suffix. -/
def isTagChar (c : Char) : Bool := isAddressChar c && !isFlowMark c && c ≠ '!'

/-- A character of an anchor's name. -/
def isAnchorChar (c : Char) : Bool := !isGap c && !isFlowMark c && c ≠ '\ufeff'

/-- How many bytes a character has whose encoding begins with this byte. -/
def encodedLength? (lead : Nat) : Option Nat :=
  if lead < 0x80 then some 1
  else if lead < 0xC0 then none
  else if lead < 0xE0 then some 2
  else if lead < 0xF0 then some 3
  else if lead < 0xF8 then some 4
  else none

namespace Cursor

/-- The byte that an escape at the cursor spells. -/
def escapedByte? (cursor : Cursor) : Option Nat :=
  if cursor.peek = '%' then
    return (← Numeral.hexDigit? (cursor.peekAt 1)) * 16 + (← Numeral.hexDigit? (cursor.peekAt 2))
  else none

/-- Pass the bytes that continue a character. -/
def passContinuation (start : Cursor) : Nat → Nat → Cursor → Except Fault (Nat × Cursor)
  | 0, code, cursor => .ok (code, cursor)
  | more + 1, code, cursor =>
      match cursor.escapedByte? with
      | none => .error (start.fault "while parsing a tag, found an invalid escape sequence")
      | some byte =>
          if byte / 64 = 2 then passContinuation start more (code * 256 + byte) (cursor.pass 3)
          else .error (start.fault
            "while parsing a tag, found an incorrect trailing UTF-8 byte")

/-- Pass the escapes that spell one character. The bytes, put side by side, have to be the number
of a character. -/
def passEscape (start cursor : Cursor) : Except Fault Cursor :=
  match cursor.escapedByte? with
  | none => .error (start.fault "while parsing a tag, found an invalid escape sequence")
  | some lead =>
      match encodedLength? lead with
      | none =>
          .error (start.fault "while parsing a tag, found an incorrect leading UTF-8 byte")
      | some width => do
          let (code, cursor) ← passContinuation start (width - 1) lead (cursor.pass 3)
          if code.isValidChar then return cursor
          throw (start.fault "while parsing a tag, found an invalid UTF-8 codepoint")

/-- Pass the characters that satisfy a test, with their escapes. -/
def passAddress (start : Cursor) (test : Char → Bool) : Nat → Cursor → Except Fault Cursor
  | 0, cursor => .ok cursor
  | fuel + 1, cursor =>
      if !test cursor.peek then .ok cursor
      else if cursor.peek = '%' then do
        let cursor ← passEscape start cursor
        passAddress start test fuel cursor
      else passAddress start test fuel (cursor.pass 1)

/-- Read a tag handle: an exclamation mark, a word, and another mark if there is one. -/
def tagHandle (inDirective : Bool) (start cursor : Cursor) : Except Fault (String × Cursor) := do
  if cursor.peek ≠ '!' then
    throw (start.fault "while scanning a tag, did not find expected '!'")
  let cursor := cursor.pass 1
  let word := cursor.run isWordChar
  let cursor := cursor.pass word.length
  if cursor.peek = '!' then return (String.ofList ('!' :: word ++ ['!']), cursor.pass 1)
  if inDirective && !word.isEmpty then
    throw (start.fault "while parsing a tag directive, did not find expected '!'")
  return (String.ofList ('!' :: word), cursor)

/-- A handle with a mark at both ends. -/
def isFullHandle (handle : String) : Bool :=
  let marks := handle.toList
  2 ≤ marks.length && marks.head? = some '!' && marks.getLast? = some '!'

/-- Read a tag; gives its handle. -/
def tag (start : Cursor) (inFlow : Bool) : Except Fault (String × Cursor) := do
  let (handle, cursor) ←
    if start.peekAt 1 = '<' then do
      let cursor ← passAddress start isAddressChar start.rest.length (start.pass 2)
      if cursor.peek ≠ '>' then
        throw (start.fault "while scanning a verbatim tag, did not find the expected '>'")
      pure ("", cursor.pass 1)
    else do
      let (handle, before) ← tagHandle false start start
      let after ← passAddress start isTagChar before.rest.length before
      if isFullHandle handle then
        if after.index = before.index then
          throw (start.fault "while parsing a tag, did not find expected tag URI")
        pure (handle, after)
      else if handle = "!" && after.index = before.index then pure ("", after)
      else pure ("!", after)
  if isGap cursor.peek || (inFlow && isFlowMark cursor.peek) then return (handle, cursor)
  throw (start.fault "while scanning a tag, did not find expected whitespace or line break")

/-- Read the name of an anchor or an alias. -/
def anchorName (start : Cursor) : Except Fault (String × Cursor) :=
  let cursor := start.pass 1
  let name := cursor.run isAnchorChar
  if name.isEmpty then
    .error (start.fault ("while scanning an anchor or alias, did not find expected " ++
      "alphabetic or numeric character"))
  else .ok (String.ofList name, cursor.pass name.length)

/-- Read a part of a version number. -/
def versionPart (start cursor : Cursor) : Except Fault Cursor :=
  let digits := cursor.run Char.isDigit
  if digits.isEmpty then
    .error (start.fault
      "while scanning a YAML directive, did not find expected version number")
  else if 9 < digits.length then
    .error (start.fault
      "while scanning a YAML directive, found extremely long version number")
  else .ok (cursor.pass digits.length)

/-- Read the value of a version directive. -/
def versionValue (start cursor : Cursor) : Except Fault Cursor := do
  let cursor ← versionPart start cursor.passSpaces
  if cursor.peek ≠ '.' then
    throw (start.fault ("while scanning a YAML directive, did not find expected digit or '.' " ++
      "character"))
  versionPart start (cursor.pass 1)

/-- Read the value of a tag directive; gives the handle. -/
def tagDirectiveValue (start cursor : Cursor) : Except Fault (String × Cursor) := do
  let (handle, cursor) ← tagHandle true start cursor.passSpaces
  let cursor := cursor.passSpaces
  if cursor.peek ≠ '!' && !isTagChar cursor.peek then
    throw (start.fault "invalid global tag character")
  let cursor ← if cursor.peek = '%' then passEscape start cursor else pure (cursor.pass 1)
  let cursor ← passAddress start isAddressChar cursor.rest.length cursor
  if isGap cursor.peek then return (handle, cursor)
  throw (start.fault "while scanning TAG, did not find expected whitespace or line break")

/-- Read a directive with the line break behind it. Directives of other names are passed over. -/
def directive (start : Cursor) : Except Fault (Token × Cursor) := do
  let cursor := start.pass 1
  let name := cursor.run isWordChar
  if name.isEmpty then
    throw (start.fault
      "while scanning a directive, could not find expected directive name")
  let cursor := cursor.pass name.length
  if !isGap cursor.peek then
    throw (start.fault
      "while scanning a directive, found unexpected non-alphabetical character")
  let (token, cursor) ←
    if name = "YAML".toList then do
      let cursor ← versionValue start cursor
      pure (Token.versionDirective, cursor)
    else if name = "TAG".toList then do
      let (handle, cursor) ← tagDirectiveValue start cursor
      pure (Token.tagDirective handle, cursor)
    else pure (Token.tagDirective "", cursor.passLine)
  let cursor ← cursor.passToLineEnd
  if isLineEnd cursor.peek then return (token, cursor.passBreak)
  throw (start.fault
    "while scanning a directive, did not find expected comment or line break")

end Cursor

end RecordRecipe.Yaml
