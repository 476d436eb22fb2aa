import RecordRecipe.Yaml.Token

/-!
# Block scalars

A literal scalar keeps its line breaks and a folded one joins its lines; both end at the first
line that is indented less. A sign behind the indicator says what happens to the line breaks at
the end, a digit how deep the content is indented.
-/

namespace RecordRecipe.Yaml

/-- What becomes of the line breaks at the end of a block scalar. -/
inductive Chomping where
  | clip
  | keep
  | strip
deriving DecidableEq, Repr

/-- The marks behind the indicator: chomping, and the depth of the content if it is given. -/
structure BlockHeader where
  chomping : Chomping := .clip
  depth : Nat := 0

namespace Cursor

/-- A chomping sign. -/
def chomping? : Char → Option Chomping
  | '+' => some .keep
  | '-' => some .strip
  | _ => none

/-- Read the depth digit, which is not zero. -/
def blockDepth (start cursor : Cursor) : Except Fault (Nat × Cursor) :=
  if !cursor.peek.isDigit then .ok (0, cursor)
  else if cursor.peek = '0' then
    .error (start.fault
      "while scanning a block scalar, found an indentation indicator equal to 0")
  else .ok (cursor.peek.toNat - 48, cursor.pass 1)

/-- Read the marks behind the indicator, in either order. -/
def blockHeader (start cursor : Cursor) : Except Fault (BlockHeader × Cursor) :=
  match chomping? cursor.peek with
  | some chomping => do
      let (depth, cursor) ← blockDepth start (cursor.pass 1)
      return (⟨chomping, depth⟩, cursor)
  | none => do
      let (depth, cursor) ← blockDepth start cursor
      match chomping? cursor.peek with
      | some chomping =>
          if depth = 0 then return (⟨.clip, depth⟩, cursor)
          else return (⟨chomping, depth⟩, cursor.pass 1)
      | none => return (⟨.clip, depth⟩, cursor)

/-- Pass empty lines and the spaces in front of the first content; gives the number of line breaks
and the deepest column reached. -/
def emptyLines : Nat → Nat → Nat → Cursor → Nat × Nat × Cursor
  | 0, breaks, deepest, cursor => (breaks, deepest, cursor)
  | fuel + 1, breaks, deepest, cursor =>
      let cursor := cursor.passBlanks (cursor.run (· = ' ')).length
      let deepest := max deepest cursor.column
      if isBreak cursor.peek then emptyLines fuel (breaks + 1) deepest cursor.passBreak
      else (breaks, deepest, cursor)

/-- Pass line breaks and up to a number of columns of spaces; gives the number of breaks. -/
def indentation (depth : Nat) : Nat → Nat → Cursor → Nat × Cursor
  | 0, breaks, cursor => (breaks, cursor)
  | fuel + 1, breaks, cursor =>
      let spaces := ((cursor.rest.take (depth - cursor.column)).takeWhile (· = ' ')).length
      let cursor := cursor.passBlanks spaces
      if isBreak cursor.peek then indentation depth fuel (breaks + 1) cursor.passBreak
      else (breaks, cursor)

/-- The content gathered so far: the text, whether a line break stands behind its last line, how
many empty lines follow, and whether the last line began with a blank. -/
structure BlockText where
  text : List Char := []
  lineBreak : Bool := false
  emptyLines : Nat := 0
  blankStart : Bool := false

/-- The breaks between the last line and one that begins with a blank or not. -/
def BlockText.joint (literal blankStart : Bool) (block : BlockText) : List Char :=
  let breaks := List.replicate block.emptyLines '\n'
  if !literal && block.lineBreak && !block.blankStart && !blankStart then
    if block.emptyLines = 0 then [' '] else breaks
  else (if block.lineBreak then ['\n'] else []) ++ breaks

/-- Read the lines that are indented by a number of columns. -/
def blockLines (literal : Bool) (depth : Nat) : Nat → BlockText → Cursor → BlockText × Cursor
  | 0, block, cursor => (block, cursor)
  | fuel + 1, block, cursor =>
      if cursor.column ≠ depth || cursor.peek = '\x00' ||
          (depth = 0 && cursor.atMarker '.') then (block, cursor)
      else
        let blankStart := isSpace cursor.peek
        let line := cursor.run fun c => !isLineEnd c
        let text := block.text ++ block.joint literal blankStart ++ line
        let cursor := cursor.pass line.length
        if cursor.peek = '\x00' then
          ({ text := text, blankStart := blankStart }, cursor)
        else
          let (breaks, cursor) := indentation depth fuel 0 cursor.passBreak
          blockLines literal depth fuel
            { text := text, lineBreak := true, emptyLines := breaks, blankStart := blankStart }
            cursor

/-- The text of a scalar without content. -/
def emptyBlock (chomping : Chomping) (lineBreak : Bool) (sameLine : Bool) (breaks : Nat) :
    List Char :=
  let headerBreak := if lineBreak then ['\n'] else []
  match chomping with
  | .strip => []
  | .clip => if sameLine then [] else headerBreak
  | .keep =>
      if sameLine then []
      else if breaks = 0 then headerBreak
      else List.replicate breaks '\n'

/-- The line breaks at the end of a scalar, as the chomping sign asks. -/
def blockTail (chomping : Chomping) (depth : Nat) (block : BlockText) (cursor : Cursor) :
    List Char :=
  let lineBreak :=
    if chomping = .strip then []
    else (if block.lineBreak then ['\n'] else []) ++
      (if cursor.peek = '\x00' && max depth 1 ≤ cursor.column then ['\n'] else [])
  lineBreak ++ (if chomping = .keep then List.replicate block.emptyLines '\n' else [])

/-- Read a block scalar inside a block of some indentation. The scalar counts as beginning at its
first line of content. -/
def blockScalar (literal : Bool) (indent : Int) (start : Cursor) :
    Except Fault (Marked String × Cursor) := do
  let (header, cursor) ← blockHeader start (start.pass 1)
  let cursor ← cursor.passToLineEnd
  if !isLineEnd cursor.peek then
    throw (start.fault
      "while scanning a block scalar, did not find expected comment or line break")
  let lineBreak := isBreak cursor.peek
  let cursor := cursor.passBreak
  if cursor.peek = '\t' then
    throw (start.fault "a block scalar content cannot start with a tab")
  let fuel := cursor.rest.length + 1
  let (breaks, depth, cursor) :=
    if header.depth > 0 then
      let depth := if indent ≥ 0 then indent.toNat + header.depth else header.depth
      let (breaks, cursor) := indentation depth fuel 0 cursor
      (breaks, depth, cursor)
    else
      let (breaks, deepest, cursor) := emptyLines fuel 0 0 cursor
      let depth := max deepest (indent + 1).toNat
      (breaks, if indent > 0 then max depth 1 else depth, cursor)
  if cursor.peek = '\x00' then
    let text := emptyBlock header.chomping lineBreak (cursor.line = start.line) breaks
    return (start.mark (String.ofList text), cursor)
  if cursor.column < depth && indent < cursor.indent then
    throw (cursor.fault "wrongly indented line in block scalar")
  let (block, last) :=
    blockLines literal depth (cursor.rest.length + 1) { emptyLines := breaks } cursor
  let text := block.text ++ blockTail header.chomping depth block last
  return (cursor.mark (String.ofList text), last)

end Cursor

end RecordRecipe.Yaml
