import RecordRecipe.Yaml.Token.Layout

/-!
# The events of a document

The tokens of the first document become a flat list of events: scalars and aliases, and the starts
and ends of collections. An absent key or value is an event of its own, an empty plain scalar.

What remains to be read is a stack of goals. A goal gives one event and leaves goals in its place;
a collection puts the goal for its entries on top of what follows it.
-/

namespace RecordRecipe.Yaml

/-- An event. Anchors are numbered from one in the order of the text; zero is no anchor. -/
inductive Event where
  | scalar (plain : Bool) (content : String) (anchor : Nat)
  | alias (anchor : Nat)
  | sequenceStart (anchor : Nat)
  | sequenceEnd
  | mappingStart (anchor : Nat)
  | mappingEnd
deriving DecidableEq, Repr

/-- An event with the line where it begins. -/
structure MarkedEvent where
  event : Event
  line : Nat
deriving DecidableEq, Repr

/-- What is to be read next. -/
inductive Goal where
  /-- A node at the top of a block context. -/
  | node
  | blockSequence (first : Bool)
  /-- The entries of a sequence that is not indented below its key. -/
  | flatSequence
  | blockKey (first : Bool)
  | blockValue
  | flowSequence (first : Bool)
  | flowKey (first : Bool)
  | flowValue
  /-- The value of a key that has no colon. -/
  | absentValue
  | pairKey
  | pairValue
  | pairEnd
deriving DecidableEq, Repr

/-- The reader of events: the tokens ahead, the fault behind them, the anchors by name, and the
handles that are declared. -/
structure EventReader where
  tokens : List (Marked Token)
  fault : Fault
  goals : List Goal
  anchors : List (String × Nat) := []
  lastAnchor : Nat := 0
  handle : Option String := none

/-- A step of the reader of events. -/
abbrev EventStep := StateT EventReader (Except Fault)

namespace EventStep

/-- The next token; past the last one lies the fault. -/
def peek : EventStep (Marked Token) := do
  let reader ← get
  match reader.tokens with
  | token :: _ => return token
  | [] => throw reader.fault

/-- Pass the next token. -/
def skip : EventStep Unit := modify fun reader => { reader with tokens := reader.tokens.tail }

/-- Fail at the line of a token. -/
def failAt (token : Marked Token) (reason : String) : EventStep MarkedEvent :=
  throw ⟨reason, token.line⟩

/-- Set the goals. -/
def follow (goals : List Goal) : EventStep Unit := modify ({ · with goals := goals })

/-- An event at a token, with the goals that follow. -/
def emit (goals : List Goal) (token : Marked Token) (event : Event) : EventStep MarkedEvent := do
  follow goals
  return ⟨event, token.line⟩

/-- The scalar that stands for nothing, at a token. -/
def emitAbsent (goals : List Goal) (token : Marked Token) : EventStep MarkedEvent :=
  emit goals token (.scalar true "" 0)

/-- Number a new anchor. A name that is used again means the new one from here on. -/
def declare (name : String) : EventStep Nat := do
  let reader ← get
  let number := reader.lastAnchor + 1
  set { reader with lastAnchor := number, anchors := (name, number) :: reader.anchors }
  return number

/-- Check that the handle of a tag is declared, if it is one of those that have to be. -/
def checkHandle (line : Nat) (handle : String) : EventStep Unit := do
  if handle ≠ "!!" && Cursor.isFullHandle handle && (← get).handle ≠ some handle then
    throw ⟨"the handle wasn't declared", line⟩

/-- The anchor in front of a node and whether there is a tag, in either order. -/
def properties : EventStep (Nat × Bool) := do
  let first ← peek
  match first.content with
  | .anchor name =>
      skip
      let anchor ← declare name
      let second ← peek
      match second.content with
      | .tag handle =>
          skip
          checkHandle first.line handle
          return (anchor, true)
      | _ => return (anchor, false)
  | .tag handle =>
      skip
      checkHandle first.line handle
      let second ← peek
      match second.content with
      | .anchor name =>
          skip
          return (← declare name, true)
      | _ => return (0, true)
  | _ => return (0, false)

/-- Read a node. In a block context it may be a block collection, and where `flat` holds a sequence
that is not indented. -/
def node (inBlock flat : Bool) (after : List Goal) : EventStep MarkedEvent := do
  let first ← peek
  match first.content with
  | .alias name =>
      skip
      match (← get).anchors.lookup name with
      | some anchor => emit after first (.alias anchor)
      | none => failAt first "while parsing node, found unknown anchor"
  | _ =>
      let (anchor, tagged) ← properties
      let token ← peek
      match token.content, inBlock, flat with
      | .blockEntry, _, true => emit (.flatSequence :: after) token (.sequenceStart anchor)
      | .scalar plain content, _, _ =>
          skip
          emit after token (.scalar plain content anchor)
      | .flowSequenceStart, _, _ =>
          emit (.flowSequence true :: after) token (.sequenceStart anchor)
      | .flowMappingStart, _, _ =>
          emit (.flowKey true :: after) token (.mappingStart anchor)
      | .blockSequenceStart, true, _ =>
          emit (.blockSequence true :: after) token (.sequenceStart anchor)
      | .blockMappingStart, true, _ =>
          emit (.blockKey true :: after) token (.mappingStart anchor)
      | _, _, _ =>
          if tagged || anchor > 0 then emit after token (.scalar true "" anchor)
          else failAt token "while parsing a node, did not find expected node content"

/-- The end of a collection. -/
def close (after : List Goal) (token : Marked Token) (event : Event) : EventStep MarkedEvent := do
  skip
  emit after token event

/-- The entries of a block sequence. -/
def blockSequence (after : List Goal) : EventStep MarkedEvent := do
  let token ← peek
  match token.content with
  | .blockEnd => close after token .sequenceEnd
  | .blockEntry =>
      skip
      let next ← peek
      match next.content with
      | .blockEntry | .blockEnd => emitAbsent (.blockSequence false :: after) next
      | _ => node true false (.blockSequence false :: after)
  | _ =>
      failAt token "while parsing a block collection, did not find expected '-' indicator"

/-- The entries of a sequence that is not indented; anything but a dash ends it. -/
def flatSequence (after : List Goal) : EventStep MarkedEvent := do
  let token ← peek
  match token.content with
  | .blockEntry =>
      skip
      let next ← peek
      match next.content with
      | .blockEntry | .key | .value | .blockEnd => emitAbsent (.flatSequence :: after) next
      | _ => node true false (.flatSequence :: after)
  | _ => emit after token .sequenceEnd

/-- The next key of a block mapping. -/
def blockKey (after : List Goal) : EventStep MarkedEvent := do
  let token ← peek
  match token.content with
  | .key =>
      skip
      let next ← peek
      match next.content with
      | .key | .value | .blockEnd => emitAbsent (.blockValue :: after) next
      | _ => node true true (.blockValue :: after)
  | .value => emitAbsent (.blockValue :: after) token
  | .blockEnd => close after token .mappingEnd
  | _ => failAt token "while parsing a block mapping, did not find expected key"

/-- The value of a key of a block mapping. -/
def blockValue (after : List Goal) : EventStep MarkedEvent := do
  let token ← peek
  match token.content with
  | .value =>
      skip
      let next ← peek
      match next.content with
      | .key | .value | .blockEnd => emitAbsent (.blockKey false :: after) next
      | _ => node true true (.blockKey false :: after)
  | _ => emitAbsent (.blockKey false :: after) token

/-- The next key of a flow mapping, behind its comma. -/
def flowKey (after : List Goal) : EventStep MarkedEvent := do
  let token ← peek
  match token.content with
  | .key =>
      skip
      let next ← peek
      match next.content with
      | .value | .flowEntry | .flowMappingEnd => emitAbsent (.flowValue :: after) next
      | _ => node false false (.flowValue :: after)
  | .value => emitAbsent (.flowValue :: after) token
  | .flowMappingEnd => close after token .mappingEnd
  | _ => node false false (.absentValue :: after)

/-- The next key of a flow mapping or its end. -/
def flowMapping (first : Bool) (after : List Goal) : EventStep MarkedEvent := do
  let token ← peek
  match token.content, first with
  | .flowMappingEnd, _ => close after token .mappingEnd
  | _, true => flowKey after
  | .flowEntry, false =>
      skip
      flowKey after
  | _, false =>
      failAt token "while parsing a flow mapping, did not find expected ',' or '\x7d'"

/-- The value of a key of a flow mapping. -/
def flowValue (after : List Goal) : EventStep MarkedEvent := do
  let token ← peek
  match token.content with
  | .value =>
      skip
      let next ← peek
      match next.content with
      | .flowEntry | .flowMappingEnd => emitAbsent (.flowKey false :: after) token
      | _ => node false false (.flowKey false :: after)
  | _ => emitAbsent (.flowKey false :: after) token

/-- An entry of a flow sequence, which may be a pair without braces. -/
def flowItem (after : List Goal) : EventStep MarkedEvent := do
  let token ← peek
  match token.content with
  | .flowSequenceEnd => close after token .sequenceEnd
  | .key => close (.pairKey :: .flowSequence false :: after) token (.mappingStart 0)
  | _ => node false false (.flowSequence false :: after)

/-- The next entry of a flow sequence or its end. -/
def flowSequence (first : Bool) (after : List Goal) : EventStep MarkedEvent := do
  let token ← peek
  match token.content, first with
  | .flowSequenceEnd, _ => close after token .sequenceEnd
  | _, true => flowItem after
  | .flowEntry, false =>
      skip
      flowItem after
  | _, false => failAt token "while parsing a flow sequence, expected ',' or ']'"

/-- The key of a pair without braces. -/
def pairKey (after : List Goal) : EventStep MarkedEvent := do
  let token ← peek
  match token.content with
  | .value | .flowEntry | .flowSequenceEnd =>
      skip
      emitAbsent (.pairValue :: after) token
  | _ => node false false (.pairValue :: after)

/-- The value of a pair without braces. -/
def pairValue (after : List Goal) : EventStep MarkedEvent := do
  let token ← peek
  match token.content with
  | .value =>
      skip
      let next ← peek
      match next.content with
      | .flowEntry | .flowSequenceEnd => emitAbsent (.pairEnd :: after) next
      | _ => node false false (.pairEnd :: after)
  | _ => emitAbsent (.pairEnd :: after) token

/-- Pass the token that opens a collection. -/
def opening (first : Bool) : EventStep Unit :=
  if first then do
    let _ ← peek
    skip
  else pure ()

/-- The event of a goal, given the goals behind it. -/
def ofGoal (after : List Goal) : Goal → EventStep MarkedEvent
  | .node => node true false after
  | .blockSequence first => do opening first; blockSequence after
  | .flatSequence => flatSequence after
  | .blockKey first => do opening first; blockKey after
  | .blockValue => blockValue after
  | .flowSequence first => do opening first; flowSequence first after
  | .flowKey first => do opening first; flowMapping first after
  | .flowValue => flowValue after
  | .absentValue => do emitAbsent (.flowKey false :: after) (← peek)
  | .pairKey => pairKey after
  | .pairValue => pairValue after
  | .pairEnd => do emit after (← peek) .mappingEnd

/-- The events until no goal is left. -/
def all : Nat → List MarkedEvent → EventStep (List MarkedEvent)
  | 0, _ => do throw (← get).fault
  | fuel + 1, events => do
      match (← get).goals with
      | [] => return events.reverse
      | goal :: after =>
          let event ← ofGoal after goal
          all fuel (event :: events)

/-- Pass directives; the last one alone stays in force. -/
def directives : Nat → Bool → EventStep Unit
  | 0, _ => pure ()
  | fuel + 1, versionSeen => do
      let token ← peek
      match token.content with
      | .versionDirective =>
          if versionSeen then throw ⟨"duplicate version directive", token.line⟩
          modify ({ · with handle := none })
          skip
          directives fuel true
      | .tagDirective handle =>
          modify ({ · with handle := some handle })
          skip
          directives fuel versionSeen
      | _ => pure ()

/-- Pass the end marks of documents. -/
def documentEnds : Nat → EventStep Unit
  | 0 => pure ()
  | fuel + 1 => do
      if (← peek).content = .documentEnd then
        skip
        documentEnds fuel

/-- The end of a document: an end mark, or anything but a directive. -/
def documentEnd : EventStep Unit := do
  let token ← peek
  match token.content with
  | .versionDirective | .tagDirective _ =>
      throw ⟨"missing explicit document end marker before directive", token.line⟩
  | _ => pure ()

/-- Pass the directives and the start mark of a document, if it has any, and say so. -/
def documentStart (count : Nat) : EventStep Bool := do
  let token ← peek
  match token.content with
  | .versionDirective | .tagDirective _ | .documentStart =>
      directives count false
      let start ← peek
      if start.content = .documentStart then
        skip
        return true
      else throw ⟨"did not find expected <document start>", start.line⟩
  | _ => return false

/-- The events behind the start of a document. Behind a start mark there may be nothing, which is
an absent node; without a mark and without contents there is no document. -/
def contents (count : Nat) (explicit : Bool) : EventStep (List MarkedEvent) := do
  let first ← peek
  match first.content, explicit with
  | .streamEnd, false => return []
  | .versionDirective, true | .tagDirective _, true | .documentStart, true
  | .documentEnd, true | .streamEnd, true => return [⟨.scalar true "" 0, first.line⟩]
  | _, _ => all (4 * count + 16) []

/-- The events of the first document, none for a text without documents. -/
def firstDocument : EventStep (List MarkedEvent) := do
  let count := (← get).tokens.length
  let _ ← peek
  skip
  documentEnds count
  let explicit ← documentStart count
  let events ← contents count explicit
  documentEnd
  return events

end EventStep

/-- The events of the first document of a text. Every token gives rise to a few events at most, so
the fuel is never used up. -/
def Event.ofText (text : String) : Except Fault (List MarkedEvent) :=
  let stream := TokenStream.ofText text
  EventStep.firstDocument.run' ⟨stream.tokens, stream.fault, [.node], [], 0, none⟩

end RecordRecipe.Yaml
