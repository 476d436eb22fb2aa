import RecordRecipe.Yaml.Token.Block
import RecordRecipe.Yaml.Token.Plain
import RecordRecipe.Yaml.Token.Quoted
import RecordRecipe.Yaml.Token.Tag

/-!
# Tokens and layout

The reader of tokens keeps the open indentations, from which block collections begin and end, and
for each level of nesting the place where a key may have begun: whether a scalar was a key shows
only at the colon behind it, and the token that marks the key then goes in front of the scalar. A
token is therefore held back as long as it may turn out to be a key.
-/

namespace RecordRecipe.Yaml

/-- An indentation around the current one. A block collection closes with a token; the extra
column of a nested value does not. -/
structure Indentation where
  outer : Int
  isBlock : Bool

/-- A place where a key may have begun. -/
structure PossibleKey where
  /-- The number of the token there, counted from the first of the text. -/
  number : Nat
  line : Nat
  column : Nat
  index : Nat
  /-- Nothing but a key can stand here. -/
  required : Bool

/-- The state of the reader. -/
structure Layout where
  cursor : Cursor
  started : Bool := false
  /-- Tokens that were read and not yet delivered. -/
  queue : List (Marked Token) := []
  /-- How many tokens were delivered. -/
  delivered : Nat := 0
  indent : Int := -1
  indents : List Indentation := []
  flowDepth : Nat := 0
  /-- The possible key of each level of flow nesting, innermost first. -/
  keys : List (Option PossibleKey) := []
  keyAllowed : Bool := false
  /-- Where a value may follow its colon without a gap, behind a quoted key. -/
  adjacentAt : Nat := 0
  /-- Has a flow mapping begun, with braces or at a question mark? It counts as going on until a
  pair without braces has ended. -/
  inFlowMapping : Bool := false
  /-- Is a pair without braces open? -/
  inPair : Bool := false

/-- A step of the reader. -/
abbrev LayoutStep := StateT Layout (Except Fault)

namespace Layout

/-- Put a token at the end of the queue. -/
def push (token : Marked Token) (layout : Layout) : Layout :=
  { layout with queue := layout.queue ++ [token] }

/-- Put a token in front of the one with a given number. -/
def insertAt (number : Nat) (token : Marked Token) (layout : Layout) : Layout :=
  { layout with queue := layout.queue.insertIdx (number - layout.delivered) token }

/-- Is the reader inside a flow collection? -/
def inFlow (layout : Layout) : Bool := layout.flowDepth > 0

/-- Close the blocks that are indented more deeply than a column. -/
def closeBlocks (column : Int) (layout : Layout) : Layout :=
  if layout.inFlow then layout
  else go layout.indents layout
where
  /-- Close the blocks of a list, innermost first. -/
  go : List Indentation → Layout → Layout
    | [], layout => { layout with indents := [] }
    | top :: rest, layout =>
        if layout.indent > column then
          let layout := { layout with indent := top.outer }
          go rest (if top.isBlock then layout.push (layout.cursor.mark .blockEnd) else layout)
        else { layout with indents := top :: rest }

/-- Drop the extra columns above the innermost block. -/
def dropExtraColumns (layout : Layout) : Layout :=
  go layout.indents layout
where
  /-- Drop the extra columns in front of a list. -/
  go : List Indentation → Layout → Layout
    | [], layout => { layout with indents := [] }
    | top :: rest, layout =>
        if top.isBlock then { layout with indents := top :: rest }
        else go rest { layout with indent := top.outer }

/-- Open a block at a column if that is deeper than the current one. Its token goes in front of
the one with the given number, or at the end. -/
def openBlock (column : Nat) (number : Option Nat) (token : Marked Token) (layout : Layout) :
    Layout :=
  if layout.inFlow then layout
  else
    let layout := match layout.indents with
      | top :: rest =>
          if layout.indent ≤ (column : Int) && !top.isBlock then
            { layout with indent := top.outer, indents := rest }
          else layout
      | [] => layout
    if layout.indent < (column : Int) then
      let layout := { layout with
        indents := ⟨layout.indent, true⟩ :: layout.indents, indent := column }
      match number with
      | some n => layout.insertAt n token
      | none => layout.push token
    else layout

/-- Ask one more column of the content of the innermost block. -/
def addExtraColumn (layout : Layout) : Layout :=
  match layout.indents with
  | top :: _ =>
      if !layout.inFlow && top.isBlock then
        { layout with
          indents := ⟨layout.indent, false⟩ :: layout.indents, indent := layout.indent + 1 }
      else layout
  | [] => layout

/-- Forget the keys that can no longer be ones: outside of flow collections a key ends on its line
and within 1024 characters. -/
def dropStaleKeys (layout : Layout) : Except Fault Layout :=
  let isStale (key : PossibleKey) : Bool :=
    !layout.inFlow &&
      (key.line < layout.cursor.line || key.index + 1024 < layout.cursor.index)
  if layout.keys.any fun key => key.any fun key => isStale key && key.required then
    .error (layout.cursor.fault "simple key expect ':'")
  else .ok { layout with keys := layout.keys.map fun key => key.filter (!isStale ·) }

/-- Note that a key may begin at the cursor. -/
def noteKey (layout : Layout) : Layout :=
  if layout.keyAllowed then
    let required := !layout.inFlow && layout.indent = layout.cursor.indent &&
      (layout.indents.head?.any fun top => top.isBlock)
    let key : PossibleKey :=
      { number := layout.delivered + layout.queue.length
        line := layout.cursor.line
        column := layout.cursor.column
        index := layout.cursor.index
        required := required }
    { layout with keys := some key :: layout.keys.tail }
  else layout

/-- Give up the possible key of the current level. -/
def dropKey (layout : Layout) : Except Fault Layout :=
  match layout.keys with
  | some key :: rest =>
      if key.required then .error (layout.cursor.fault "simple key expected")
      else .ok { layout with keys := none :: rest }
  | _ => .ok layout

/-- End the pair without braces, if one is open. -/
def endPair (layout : Layout) : Layout :=
  if layout.inPair then
    { layout with inPair := false, inFlowMapping := false }.push
      (layout.cursor.mark .flowMappingEnd)
  else layout

end Layout

namespace LayoutStep

/-- The cursor. -/
def cursor : LayoutStep Cursor := return (← get).cursor

/-- Move the cursor. -/
def moveTo (cursor : Cursor) : LayoutStep Unit := modify ({ · with cursor := cursor })

/-- Change the layout in a way that may fail. -/
def change (step : Layout → Except Fault Layout) : LayoutStep Unit := do
  set (← step (← get))

/-- Say whether a key may begin next. -/
def allowKey (allowed : Bool) : LayoutStep Unit := modify ({ · with keyAllowed := allowed })

/-- Pass blanks and a comment. -/
def passToLineEnd : LayoutStep Unit := do
  moveTo (← (← cursor).passToLineEnd)

/-- Pass blanks, comments and line breaks up to the next token. A tab may not indent the content
of a block. -/
def passGaps : Nat → LayoutStep Unit
  | 0 => pure ()
  | fuel + 1 => do
      let layout ← get
      let cursor := layout.cursor
      let c := cursor.peek
      if c = '\t' && !layout.indents.isEmpty && cursor.fresh && cursor.indent < layout.indent then
        passToLineEnd
        if !isLineEnd (← LayoutStep.cursor).peek then
          throw ((← LayoutStep.cursor).fault
            "tabs disallowed within this context (block indentation)")
        passGaps fuel
      else if isSpace c then
        moveTo (cursor.passBlanks 1)
        passGaps fuel
      else if isBreak c then
        moveTo cursor.passBreak
        if !layout.inFlow then allowKey true
        passGaps fuel
      else if c = '#' then
        moveTo cursor.passLine
        passGaps fuel
      else pure ()

/-- Pass all gaps at the cursor. -/
def passAllGaps : LayoutStep Unit := do
  passGaps ((← cursor).rest.length + 1)

/-- Pass the spaces, comments and line breaks behind a question mark; tabs stay. -/
def passKeyGaps : Nat → LayoutStep Unit
  | 0 => pure ()
  | fuel + 1 => do
      let layout ← get
      let cursor := layout.cursor
      let c := cursor.peek
      if c = ' ' then
        moveTo (cursor.passBlanks 1)
        passKeyGaps fuel
      else if isBreak c then
        moveTo cursor.passBreak
        if !layout.inFlow then allowKey true
        passKeyGaps fuel
      else if c = '#' then
        moveTo cursor.passLine
        passKeyGaps fuel
      else pure ()

/-- The end of the text, which counts as the beginning of a line. -/
def streamEnd : LayoutStep Unit := do
  let cursor ← cursor
  if cursor.column ≠ 0 then
    moveTo { cursor with column := 0, line := cursor.line + 1 }
  let layout ← get
  if layout.keys.any fun key => key.any fun key => key.required then
    throw (layout.cursor.fault "simple key expected")
  modify fun layout => { layout with keys := layout.keys.map fun _ => none }.closeBlocks (-1)
  change Layout.dropKey
  allowKey false
  modify fun layout => layout.push (layout.cursor.mark .streamEnd)

/-- A directive, or the start or the end of a document, closes all blocks. -/
def closeDocument : LayoutStep Unit := do
  modify (Layout.closeBlocks (-1))
  change Layout.dropKey
  allowKey false

/-- A line with a directive. -/
def directive : LayoutStep Unit := do
  closeDocument
  let start ← cursor
  let (token, cursor) ← start.directive
  moveTo cursor
  modify (Layout.push (start.mark token))

/-- The mark at the start or the end of a document. -/
def documentMarker (token : Token) : LayoutStep Unit := do
  closeDocument
  let start ← cursor
  moveTo (start.pass 3)
  modify (Layout.push (start.mark token))

/-- The opening mark of a flow collection. -/
def flowStart (token : Token) : LayoutStep Unit := do
  modify fun layout => layout.noteKey.addExtraColumn
  let layout ← get
  let start := layout.cursor
  if 255 ≤ layout.flowDepth then throw (start.fault "recursion limit exceeded")
  modify fun layout =>
    { layout with flowDepth := layout.flowDepth + 1, keys := none :: layout.keys }
  allowKey true
  moveTo (start.pass 1)
  if token = .flowMappingStart then modify ({ · with inFlowMapping := true })
  passToLineEnd
  modify (Layout.push (start.mark token))

/-- The closing mark of a flow collection. An open pair without braces ends here, in whichever
collection it began. -/
def flowEnd (token : Token) : LayoutStep Unit := do
  change Layout.dropKey
  modify fun layout =>
    if layout.inFlow then
      { layout with flowDepth := layout.flowDepth - 1, keys := layout.keys.tail }
    else layout
  allowKey false
  modify Layout.endPair
  let start ← cursor
  moveTo (start.pass 1)
  passToLineEnd
  modify fun layout =>
    if layout.inFlow then { layout with adjacentAt := layout.cursor.index } else layout
  modify (Layout.push (start.mark token))

/-- The comma between the entries of a flow collection. -/
def flowEntry : LayoutStep Unit := do
  change Layout.dropKey
  allowKey true
  modify Layout.endPair
  let start ← cursor
  moveTo (start.pass 1)
  passToLineEnd
  modify (Layout.push (start.mark .flowEntry))

/-- The dash in front of an entry of a block sequence. -/
def blockEntry : LayoutStep Unit := do
  let layout ← get
  let start := layout.cursor
  if layout.inFlow then throw (start.fault "\"-\" is only valid inside a block")
  if !layout.keyAllowed then
    throw (start.fault "block sequence entries are not allowed in this context")
  match layout.queue.getLast? with
  | some ⟨.anchor _, line, 0⟩ | some ⟨.tag _, line, 0⟩ =>
      if start.column = 0 && layout.indent > -1 then
        throw ⟨"invalid indentation for anchor", line⟩
  | _ => pure ()
  moveTo (start.pass 1)
  modify (Layout.openBlock start.column none (start.mark .blockSequenceStart))
  let hasTab := ((← cursor).run isSpace).contains '\t'
  passToLineEnd
  let next ← cursor
  if hasTab && next.peek = '-' && isGap (next.peekAt 1) then
    throw (next.fault "'-' must be followed by a valid YAML whitespace")
  if isBreak next.peek || isFlowMark next.peek then modify Layout.addExtraColumn
  change Layout.dropKey
  allowKey true
  modify fun layout => layout.push (layout.cursor.mark .blockEntry)

/-- The question mark in front of a key. -/
def explicitKey : LayoutStep Unit := do
  let layout ← get
  let start := layout.cursor
  if layout.inFlow then modify ({ · with inFlowMapping := true })
  else
    if !layout.keyAllowed then
      throw (start.fault "mapping keys are not allowed in this context")
    modify (Layout.openBlock start.column none (start.mark .blockMappingStart))
  change Layout.dropKey
  allowKey !layout.inFlow
  let behind := start.pass 1
  moveTo behind
  passKeyGaps (behind.rest.length + 1)
  let next ← cursor
  if behind.peek ≠ ' ' && !isBreak behind.peek then
    throw (next.fault "expected whitespace")
  if next.peek = '\t' then throw (next.fault "tabs disallowed in this context")
  modify (Layout.push (start.mark .key))

/-- The colon in front of a value. -/
def value : LayoutStep Unit := do
  let layout ← get
  let start := layout.cursor
  let opensPair := layout.inFlow && !layout.inFlowMapping
  modify ({ · with inPair := opensPair })
  moveTo (start.pass 1)
  if (← cursor).peek = '\t' then
    let onlyTabs := !((← cursor).run isSpace).contains ' '
    passToLineEnd
    let next ← cursor
    if onlyTabs && (next.peek = '-' || isWordChar next.peek) then
      throw (next.fault "':' must be followed by a valid YAML whitespace")
  match layout.keys.head?.join with
  | some key =>
      modify (Layout.insertAt key.number ⟨.key, key.line, key.column⟩)
      if opensPair then
        if key.line < start.line then
          throw (start.fault "illegal placement of ':' indicator")
        modify fun layout =>
          layout.insertAt key.number (layout.cursor.mark .flowMappingStart)
      modify (Layout.openBlock key.column (some key.number)
        ⟨.blockMappingStart, key.line, key.column⟩)
      modify fun layout =>
        let layout := layout.addExtraColumn
        { layout with keys := none :: layout.keys.tail }
      allowKey false
  | none =>
      if opensPair then
        modify fun layout => layout.push (layout.cursor.mark .flowMappingStart)
      if !layout.inFlow then
        if !layout.keyAllowed then
          throw (start.fault "mapping values are not allowed in this context")
        modify (Layout.openBlock start.column none (start.mark .blockMappingStart))
      modify Layout.addExtraColumn
      allowKey !layout.inFlow
  modify (Layout.push (start.mark .value))

/-- Something that may be a key: an anchor, an alias, a tag or a scalar. -/
def keyLike (read : Layout → Except Fault (Marked Token × Cursor)) (keyAfter : Bool) :
    LayoutStep (Marked Token) := do
  modify Layout.noteKey
  allowKey keyAfter
  let (token, cursor) ← read (← get)
  moveTo cursor
  return token

/-- An anchor or an alias. -/
def anchor (make : String → Token) : LayoutStep Unit := do
  let token ← keyLike (fun layout => do
    let (name, cursor) ← layout.cursor.anchorName
    return (layout.cursor.mark (make name), cursor)) false
  modify (Layout.push token)

/-- A tag. -/
def tag : LayoutStep Unit := do
  let token ← keyLike (fun layout => do
    let (handle, cursor) ← layout.cursor.tag layout.inFlow
    return (layout.cursor.mark (.tag handle), cursor)) false
  modify (Layout.push token)

/-- A block scalar. -/
def blockScalar (literal : Bool) : LayoutStep Unit := do
  modify Layout.noteKey
  allowKey true
  modify Layout.dropExtraColumns
  let layout ← get
  let (text, cursor) ← layout.cursor.blockScalar literal layout.indent
  moveTo cursor
  modify (Layout.push ⟨.scalar false text.content, text.line, text.column⟩)

/-- A quoted scalar. A value may follow its colon at once. -/
def quotedScalar : LayoutStep Unit := do
  let token ← keyLike (fun layout => do
    let (text, cursor) ← layout.cursor.quotedScalar layout.inFlow layout.indent
    return (layout.cursor.mark (.scalar false text), cursor)) false
  passAllGaps
  modify fun layout => { layout with adjacentAt := layout.cursor.index }
  modify (Layout.push token)

/-- A plain scalar. A key may follow when the scalar has run on to a new line. -/
def plainScalar : LayoutStep Unit := do
  let token ← keyLike (fun layout => do
    let (text, cursor) ←
      layout.cursor.plainScalar layout.inFlow (layout.dropExtraColumns.indent + 1)
    return (layout.cursor.mark (.scalar true text), cursor)) false
  modify Layout.dropExtraColumns
  if (← cursor).fresh then allowKey true
  modify (Layout.push token)

/-- The token that begins with a character, given the one behind it. -/
def byCharacter (layout : Layout) (c next : Char) : LayoutStep Unit :=
  let gapBehind := isGap next
  if c = '[' then flowStart .flowSequenceStart
  else if c = '\x7b' then flowStart .flowMappingStart
  else if c = ']' then flowEnd .flowSequenceEnd
  else if c = '\x7d' then flowEnd .flowMappingEnd
  else if c = ',' then flowEntry
  else if c = '-' && gapBehind then blockEntry
  else if c = '?' && gapBehind then explicitKey
  else if c = ':' && (gapBehind || (layout.inFlow &&
      (isFlowMark next || layout.cursor.index = layout.adjacentAt))) then value
  else if c = '*' then anchor .alias
  else if c = '&' then anchor .anchor
  else if c = '!' then tag
  else if c = '|' && !layout.inFlow then blockScalar true
  else if c = '>' && !layout.inFlow then blockScalar false
  else if c = '\x27' || c = '\x22' then quotedScalar
  else if c = '%' || c = '@' || c = '\x60' then
    throw (layout.cursor.fault ("unexpected character: \x60" ++ String.singleton c ++ "'"))
  else plainScalar

/-- Read the next token with those that its place opens and closes. -/
def next : LayoutStep Unit := do
  let layout ← get
  if !layout.started then
    set { layout.push (layout.cursor.mark .streamStart) with
      started := true, keyAllowed := true, keys := [none] }
  else
    passAllGaps
    change Layout.dropStaleKeys
    modify fun layout => layout.closeBlocks layout.cursor.indent
    let layout ← get
    let cursor := layout.cursor
    if cursor.peek = '\x00' then streamEnd
    else if cursor.column = 0 && cursor.peek = '%' then directive
    else if cursor.column = 0 && cursor.atMarker '-' then documentMarker .documentStart
    else if cursor.column = 0 && cursor.atMarker '.' then
      documentMarker .documentEnd
      passToLineEnd
      let behind ← LayoutStep.cursor
      if !isLineEnd behind.peek then
        throw (behind.fault "invalid content after document end marker")
    else if cursor.indent < layout.indent then throw (cursor.fault "invalid indentation")
    else byCharacter layout cursor.peek (cursor.peekAt 1)

end LayoutStep

namespace Layout

/-- Deliver tokens up to the end of the text or a fault. The first token of the queue waits while
a key may still begin there. -/
def deliver : Nat → Layout → List (Marked Token) → TokenStream
  | 0, layout, out => ⟨out.reverse, layout.cursor.fault "unexpected eof"⟩
  | fuel + 1, layout, out =>
      let fetch (layout : Layout) : TokenStream :=
        match LayoutStep.next.run layout with
        | .ok (_, layout) => deliver fuel layout out
        | .error fault => ⟨out.reverse, fault⟩
      match layout.queue with
      | [] => fetch layout
      | token :: rest =>
          match layout.dropStaleKeys with
          | .error fault => ⟨out.reverse, fault⟩
          | .ok layout =>
              let mayBeKey := layout.keys.any fun key =>
                key.any fun key => key.number = layout.delivered
              if mayBeKey then fetch layout
              else if token.content = .streamEnd then
                ⟨(token :: out).reverse, layout.cursor.fault "unexpected eof"⟩
              else deliver fuel
                { layout with queue := rest, delivered := layout.delivered + 1 } (token :: out)

end Layout

/-- The tokens of a text. Every step reads a character or delivers a token, and a character gives
rise to a few tokens at most, so the fuel is never used up. -/
def TokenStream.ofText (text : String) : TokenStream :=
  let characters := text.toList
  Layout.deliver (8 * characters.length + 32) { cursor := { rest := characters } } []

end RecordRecipe.Yaml
