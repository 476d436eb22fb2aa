import RecordRecipe.Yaml.Token

/-!
# Plain scalars

A scalar without quotes runs over the words of its line and on over the lines below that are
indented more deeply than the block around it. A single line break reads as a space, and each
further one as itself.
-/

namespace RecordRecipe.Yaml

/-- The spacing gathered since the last word: blanks, or else line breaks. -/
structure Spacing where
  blanks : List Char := []
  firstBreak : Bool := false
  moreBreaks : Nat := 0

namespace Spacing

/-- The spacing as it reads when more content follows on a new line. -/
def folded (spacing : Spacing) : List Char :=
  if spacing.firstBreak && spacing.moreBreaks = 0 then [' ']
  else List.replicate spacing.moreBreaks '\n'

end Spacing

namespace Cursor

/-- Can the next character belong to a plain scalar? -/
def atPlainChar (inFlow : Bool) (cursor : Cursor) : Bool :=
  let c := cursor.peek
  let next := cursor.peekAt 1
  !isGap c && !(c = ':' && (isGap next || (inFlow && isFlowMark next))) &&
    !(inFlow && isFlowMark c)

/-- The characters of a word of a plain scalar. -/
def plainWord (inFlow : Bool) : List Char → List Char
  | [] => []
  | c :: rest =>
      if atPlainChar inFlow { rest := c :: rest } then c :: plainWord inFlow rest else []

/-- Gather the blanks and line breaks at the cursor. A tab may stand in the indentation of an
empty line only. -/
def plainSpacing (indent : Int) (start : Cursor) :
    Nat → Spacing → Cursor → Except Fault (Spacing × Cursor)
  | 0, spacing, cursor => .ok (spacing, cursor)
  | fuel + 1, spacing, cursor =>
      if isSpace cursor.peek then
        if !cursor.fresh then
          plainSpacing indent start fuel
            { spacing with blanks := spacing.blanks ++ [cursor.peek] } (cursor.passBlanks 1)
        else if cursor.indent < indent && cursor.peek = '\t' then do
          let cursor ← cursor.passToLineEnd
          if isLineEnd cursor.peek then plainSpacing indent start fuel spacing cursor
          else .error (start.fault "while scanning a plain scalar, found a tab")
        else plainSpacing indent start fuel spacing (cursor.passBlanks 1)
      else if isBreak cursor.peek then
        let spacing :=
          if cursor.fresh then { spacing with moreBreaks := spacing.moreBreaks + 1 }
          else { spacing with blanks := [], firstBreak := true }
        plainSpacing indent start fuel spacing cursor.passBreak
      else .ok (spacing, cursor)

/-- Read words and the spacing between them. -/
def plainWords (inFlow : Bool) (indent : Int) (start : Cursor) :
    Nat → List Char → Spacing → Cursor → Except Fault (List Char × Cursor)
  | 0, text, _, cursor => .ok (text, cursor)
  | fuel + 1, text, spacing, cursor => do
      if cursor.atDocumentMarker || cursor.peek = '#' then return (text, cursor)
      if inFlow && cursor.peek = '-' && isFlowMark (cursor.peekAt 1) then
        throw (cursor.fault "plain scalar cannot start with '-' followed by ,[]\x7b\x7d")
      let word := plainWord inFlow cursor.rest
      let (text, spacing) :=
        if word.isEmpty then (text, spacing)
        else if cursor.fresh then (text ++ spacing.folded ++ word, { blanks := spacing.blanks })
        else (text ++ spacing.blanks ++ word, { spacing with blanks := [] })
      let cursor := cursor.pass word.length
      if !(isSpace cursor.peek || isBreak cursor.peek) then return (text, cursor)
      let (spacing, cursor) ← plainSpacing indent start fuel spacing cursor
      if !inFlow && cursor.indent < indent then return (text, cursor)
      plainWords inFlow indent start fuel text spacing cursor

/-- Read a plain scalar that must be indented by a least number of columns. -/
def plainScalar (inFlow : Bool) (indent : Int) (cursor : Cursor) :
    Except Fault (String × Cursor) := do
  if inFlow && cursor.indent < indent then
    throw (cursor.fault "invalid indentation in flow construct")
  let (text, cursor) ←
    plainWords inFlow indent cursor (cursor.rest.length + 1) [] {} cursor
  return (String.ofList text, cursor)

end Cursor

end RecordRecipe.Yaml
