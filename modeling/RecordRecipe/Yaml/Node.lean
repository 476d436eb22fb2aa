import RecordRecipe.Calendar.Reading
import RecordRecipe.Value.Coerce
import RecordRecipe.Yaml.Event

/-!
# YAML trees

The events of a document fold into a tree. Every node knows the line where it begins, except those
reached through an alias: they have been written somewhere else. A plain scalar is read as a value
of some type, a quoted one always as a text.
-/

namespace RecordRecipe

/-- The date or the moment that a plain scalar spells: ten bytes for a date, nineteen for a
moment. -/
def FieldValue.ofTimestamp? (content : String) : Option FieldValue :=
  if content.utf8ByteSize = 10 then (Calendar.readDate? content.toList).map .date
  else if content.utf8ByteSize = 19 then (Calendar.readMoment? content.toList).map .moment
  else none

/-- The value of a plain scalar: null, a truth value, a date, a number, or else the text. -/
def FieldValue.ofPlain (content : String) : FieldValue :=
  if ["", "~", "null", "Null", "NULL"].contains content then .null
  else if ["true", "True", "TRUE"].contains content then .bool true
  else if ["false", "False", "FALSE"].contains content then .bool false
  else if [".inf", ".Inf", ".INF", "+.inf"].contains content then .float (1.0 / 0.0)
  else if ["-.inf", "-.Inf", "-.INF"].contains content then .float (-1.0 / 0.0)
  else if [".nan", ".NaN", ".NAN"].contains content then .float (0.0 / 0.0)
  else (ofTimestamp? content).getD (ofText content)

namespace Yaml

/-- A node of a document. The line is missing when the node was reached through an alias. -/
inductive Node where
  | scalar (line : Option Nat) (content : String) (value : FieldValue)
  | sequence (line : Option Nat) (items : List Node)
  | mapping (line : Option Nat) (entries : List (Node × Node))

namespace Node

/-- The line where a node begins. -/
def line? : Node → Option Nat
  | scalar line _ _ => line
  | sequence line _ => line
  | mapping line _ => line

/-- The line where a node begins, or else that of the construct around it. -/
def lineOr (around : Nat) (node : Node) : Nat := node.line?.getD around

/-- The entries of a mapping. -/
def entries? : Node → Option (List (Node × Node))
  | mapping _ entries => some entries
  | _ => none

/-- The items of a sequence. -/
def items? : Node → Option (List Node)
  | sequence _ items => some items
  | _ => none

/-- The value of a scalar. -/
def value? : Node → Option FieldValue
  | scalar _ _ value => some value
  | _ => none

/-- The characters of a scalar, whatever its value. -/
def content? : Node → Option String
  | scalar _ content _ => some content
  | _ => none

/-- The characters of a key; a key that is no scalar has none. -/
def name (node : Node) : String := node.content?.getD ""

/-- The text that a scalar has as its value. -/
def text? (node : Node) : Option String := node.value?.bind FieldValue.text?

/-- Is the node a scalar without a value? -/
def isNull (node : Node) : Bool := node.value?.any FieldValue.isNull

/-- The name of a node's type, as messages give it. -/
def typeName : Node → String
  | scalar _ _ value => value.typeName
  | sequence _ _ => "list"
  | mapping _ _ => "mapping"

/-- The first value under a key among some entries. -/
def lookup (key : String) : List (Node × Node) → Option Node
  | [] => none
  | (candidate, value) :: rest =>
      if candidate.content? = some key then some value else lookup key rest

/-- The first value under a key of a mapping. -/
def get? (key : String) (node : Node) : Option Node := node.entries?.bind (lookup key)

mutual

/-- A node with all lines taken out of it, as an alias refers to it. -/
def unplaced : Node → Node
  | scalar _ content value => .scalar none content value
  | sequence _ items => .sequence none (unplacedItems items)
  | mapping _ entries => .mapping none (unplacedEntries entries)

/-- The items of a sequence with all lines taken out of them. -/
def unplacedItems : List Node → List Node
  | [] => []
  | item :: rest => unplaced item :: unplacedItems rest

/-- The entries of a mapping with all lines taken out of them. -/
def unplacedEntries : List (Node × Node) → List (Node × Node)
  | [] => []
  | (key, value) :: rest => (unplaced key, unplaced value) :: unplacedEntries rest

end

end Node

/-- A collection that is still open: what it holds so far, and for a mapping the key whose value is
to come. -/
inductive OpenContent where
  | sequence (items : List Node)
  | mapping (entries : List (Node × Node)) (key : Option Node)

/-- An open collection with the line where it began and its anchor. -/
structure OpenNode where
  line : Nat
  anchor : Nat
  content : OpenContent

/-- A tree under construction: the open collections, innermost first, the anchored nodes, and the
finished root. -/
structure TreeBuilder where
  openNodes : List OpenNode := []
  anchors : List (Nat × Node) := []
  root : Option Node := none

namespace TreeBuilder

/-- Add a node to the innermost open collection: as the next item, the next key, or the value of
the key before it. -/
def attach (node : Node) (builder : TreeBuilder) : TreeBuilder :=
  match builder.openNodes with
  | [] => { builder with root := some (builder.root.getD node) }
  | top :: rest =>
      let content := match top.content with
        | .sequence items => .sequence (items ++ [node])
        | .mapping entries (some key) => .mapping (entries ++ [(key, node)]) none
        | .mapping entries none => .mapping entries (some node)
      { builder with openNodes := { top with content := content } :: rest }

/-- Add a finished node, under its anchor if it has one. -/
def finish (node : Node) (anchor : Nat) (builder : TreeBuilder) : TreeBuilder :=
  let builder :=
    if anchor > 0 then { builder with anchors := (anchor, node) :: builder.anchors } else builder
  builder.attach node

/-- Open a collection. -/
def openWith (line anchor : Nat) (content : OpenContent) (builder : TreeBuilder) : TreeBuilder :=
  { builder with openNodes := ⟨line, anchor, content⟩ :: builder.openNodes }

/-- Close the innermost collection and add it to the one around it. -/
def closeNode (builder : TreeBuilder) : TreeBuilder :=
  match builder.openNodes with
  | [] => builder
  | top :: rest =>
      let node := match top.content with
        | .sequence items => Node.sequence (some top.line) items
        | .mapping entries _ => Node.mapping (some top.line) entries
      { builder with openNodes := rest }.finish node top.anchor

/-- Take in an event. An alias stands for the node of its anchor, once that is finished. -/
def step (builder : TreeBuilder) (marked : MarkedEvent) : TreeBuilder :=
  match marked.event with
  | .scalar plain content anchor =>
      let value := if plain then FieldValue.ofPlain content else .text content
      builder.finish (.scalar (some marked.line) content value) anchor
  | .sequenceStart anchor => builder.openWith marked.line anchor (.sequence [])
  | .mappingStart anchor => builder.openWith marked.line anchor (.mapping [] none)
  | .sequenceEnd | .mappingEnd => builder.closeNode
  | .alias anchor =>
      match builder.anchors.lookup anchor with
      | some node => builder.attach node.unplaced
      | none => builder

end TreeBuilder

/-- The tree that a list of events describes; no events describe no tree. -/
def Node.ofEvents (events : List MarkedEvent) : Option Node :=
  (events.foldl TreeBuilder.step {}).root

/-- Read the first document of a text. An empty text has none. -/
def Node.ofText (text : String) : Except Fault (Option Node) :=
  (Event.ofText text).map Node.ofEvents

end Yaml

end RecordRecipe
