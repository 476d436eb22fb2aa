import RecordRecipe.Proofs.Yaml.Construct
import RecordRecipe.Yaml.Node

/-!
# What a tree is built from

The events of a construct add nodes to the tree under construction: a collection or a scalar adds
one, and an alias adds what its anchor stands for, or nothing if that is not finished. `read` says
so along the construct, and `foldl_events` that this is what the builder does: it gets from the
first event of a construct to the last as if it had been handed the nodes.
-/

namespace RecordRecipe.Yaml

/-- The finished nodes that have an anchor, the latest first. -/
abbrev Anchored := List (Nat × Node)

/-- Note a finished node under its anchor, if it has one. -/
def Anchored.note (anchor : Nat) (node : Node) (known : Anchored) : Anchored :=
  if anchor > 0 then (anchor, node) :: known else known

namespace Node

/-- Nodes in pairs, a last one without a partner left out. -/
def pairs : List Node → List (Node × Node)
  | key :: value :: rest => (key, value) :: pairs rest
  | [_] => []
  | [] => []

/-- The last of some nodes, if it is without a partner. -/
def dangling : List Node → Option Node
  | _ :: _ :: rest => dangling rest
  | [key] => some key
  | [] => none

end Node

namespace Construct

/-- The node of a scalar. -/
def scalarNode (line : Nat) (plain : Bool) (content : String) : Node :=
  .scalar (some line) content (if plain then FieldValue.ofPlain content else .text content)

mutual

/-- The nodes that a construct adds, one or none, and the anchored nodes known behind it. -/
def read (known : Anchored) : Construct → List Node × Anchored
  | scalar line plain content anchor =>
      let node := scalarNode line plain content
      ([node], known.note anchor node)
  | aliasOf _ anchor => (((known.lookup anchor).map Node.unplaced).toList, known)
  | sequence line anchor items _ =>
      let (nodes, known) := readItems known items
      let node := Node.sequence (some line) nodes
      ([node], known.note anchor node)
  | mapping line anchor entries _ =>
      let (nodes, known) := readEntries known entries
      let node := Node.mapping (some line) (Node.pairs nodes)
      ([node], known.note anchor node)

/-- The nodes that the items of a sequence add. -/
def readItems (known : Anchored) : List Construct → List Node × Anchored
  | [] => ([], known)
  | item :: rest =>
      let (first, known) := read known item
      let (nodes, known) := readItems known rest
      (first ++ nodes, known)

/-- The nodes that the keys and the values of a mapping add. -/
def readEntries (known : Anchored) : List (Construct × Construct) → List Node × Anchored
  | [] => ([], known)
  | (key, value) :: rest =>
      let (first, known) := read known key
      let (second, known) := read known value
      let (nodes, known) := readEntries known rest
      (first ++ (second ++ nodes), known)

end

end Construct

namespace TreeBuilder

variable {builder : TreeBuilder} {nodes : List Node} {known : Anchored}

/-- Add nodes to the innermost open collection, one after the other. -/
def attachAll (nodes : List Node) (builder : TreeBuilder) : TreeBuilder :=
  nodes.foldl (fun builder node => builder.attach node) builder

@[simp] theorem attachAll_nil : builder.attachAll [] = builder := rfl

@[simp] theorem attachAll_cons {node : Node} :
    builder.attachAll (node :: nodes) = (builder.attach node).attachAll nodes := rfl

theorem attachAll_append {first second : List Node} :
    builder.attachAll (first ++ second) = (builder.attachAll first).attachAll second :=
  List.foldl_append

/-- The anchored nodes play no part in adding a node. -/
theorem attach_withAnchors (node : Node) :
    { builder.attach node with anchors := known } =
      attach node { builder with anchors := known } := by
  cases hopen : builder.openNodes <;> simp [attach, hopen]

theorem anchors_attach (node : Node) : (builder.attach node).anchors = builder.anchors := by
  unfold attach
  split <;> rfl

theorem attachAll_withAnchors (nodes : List Node) :
    { builder.attachAll nodes with anchors := known } =
      attachAll nodes { builder with anchors := known } := by
  induction nodes generalizing builder with
  | nil => rfl
  | cons node rest ih => rw [attachAll_cons, ih, attachAll_cons, attach_withAnchors]

theorem anchors_attachAll (nodes : List Node) :
    (builder.attachAll nodes).anchors = builder.anchors := by
  induction nodes generalizing builder with
  | nil => rfl
  | cons node rest ih => rw [attachAll_cons, ih, anchors_attach]

theorem finish_eq (node : Node) (anchor : Nat) :
    builder.finish node anchor =
      attach node { builder with anchors := Anchored.note anchor node builder.anchors } := by
  unfold finish Anchored.note
  split <;> rfl

/-- What is added to an open sequence becomes its last items. -/
theorem attachAll_sequence {line anchor : Nat} {items : List Node} {rest : List OpenNode}
    (hopen : builder.openNodes = ⟨line, anchor, .sequence items⟩ :: rest) :
    builder.attachAll nodes =
      { builder with openNodes := ⟨line, anchor, .sequence (items ++ nodes)⟩ :: rest } := by
  induction nodes generalizing builder items with
  | nil => rw [attachAll_nil, List.append_nil, ← hopen]
  | cons node nodes ih =>
      have hattach : builder.attach node =
          { builder with openNodes := ⟨line, anchor, .sequence (items ++ [node])⟩ :: rest } := by
        simp [attach, hopen]
      rw [attachAll_cons, hattach, ih rfl, List.append_assoc, List.singleton_append]

/-- What is added to an open mapping between two entries becomes its last entries, and possibly
a key. -/
theorem attachAll_mapping {line anchor : Nat} {entries : List (Node × Node)}
    {rest : List OpenNode}
    (hopen : builder.openNodes = ⟨line, anchor, .mapping entries none⟩ :: rest) :
    builder.attachAll nodes = { builder with
      openNodes := ⟨line, anchor, .mapping (entries ++ Node.pairs nodes) (Node.dangling nodes)⟩ ::
        rest } := by
  induction nodes using Node.pairs.induct generalizing builder entries with
  | case1 key value nodes ih =>
      have hattach : (builder.attach key).attach value = { builder with
          openNodes := ⟨line, anchor, .mapping (entries ++ [(key, value)]) none⟩ :: rest } := by
        simp [attach, hopen]
      rw [attachAll_cons, attachAll_cons, hattach, ih rfl, List.append_assoc,
        List.singleton_append, Node.pairs, Node.dangling]
  | case2 key => simp [attach, hopen, Node.pairs, Node.dangling]
  | case3 => rw [attachAll_nil, Node.pairs, Node.dangling, List.append_nil, ← hopen]

open Construct (readItems readEntries itemsEvents entriesEvents)

mutual

/-- The events of a construct add its nodes. -/
theorem foldl_events : (construct : Construct) → (builder : TreeBuilder) →
    construct.events.foldl step builder =
      attachAll (construct.read builder.anchors).1
        { builder with anchors := (construct.read builder.anchors).2 }
  | .scalar line plain content anchor, builder => finish_eq _ anchor
  | .aliasOf line anchor, builder => by
      rw [Construct.events, Construct.read, List.foldl_cons, List.foldl_nil, step]
      dsimp only
      cases builder.anchors.lookup anchor <;> rfl
  | .sequence line anchor items endLine, builder => by
      rw [Construct.events, List.foldl_cons, List.foldl_append,
        foldl_itemsEvents items (builder.step ⟨.sequenceStart anchor, line⟩),
        attachAll_sequence rfl]
      exact finish_eq _ anchor
  | .mapping line anchor entries endLine, builder => by
      rw [Construct.events, List.foldl_cons, List.foldl_append,
        foldl_entriesEvents entries (builder.step ⟨.mappingStart anchor, line⟩),
        attachAll_mapping rfl]
      exact finish_eq _ anchor

/-- The events of the items of a sequence add their nodes. -/
theorem foldl_itemsEvents : (items : List Construct) → (builder : TreeBuilder) →
    (itemsEvents items).foldl step builder =
      attachAll (readItems builder.anchors items).1
        { builder with anchors := (readItems builder.anchors items).2 }
  | [], _ => rfl
  | item :: rest, builder => by
      rw [itemsEvents, List.foldl_append, foldl_events item builder, foldl_itemsEvents rest,
        anchors_attachAll, attachAll_withAnchors, ← attachAll_append]
      rfl

/-- The events of the entries of a mapping add their nodes. -/
theorem foldl_entriesEvents : (entries : List (Construct × Construct)) → (builder : TreeBuilder) →
    (entriesEvents entries).foldl step builder =
      attachAll (readEntries builder.anchors entries).1
        { builder with anchors := (readEntries builder.anchors entries).2 }
  | [], _ => rfl
  | (key, value) :: rest, builder => by
      rw [entriesEvents, List.foldl_append, foldl_events key builder, List.foldl_append,
        foldl_events value, anchors_attachAll, attachAll_withAnchors, ← attachAll_append,
        foldl_entriesEvents rest, anchors_attachAll, attachAll_withAnchors, ← attachAll_append,
        List.append_assoc]
      rfl

end

end TreeBuilder

/-- Of what is added outside of all collections, the first node is the root. -/
theorem TreeBuilder.root_attachAll {builder : TreeBuilder} (hopen : builder.openNodes = [])
    (nodes : List Node) : (builder.attachAll nodes).root = builder.root.or nodes.head? := by
  induction nodes generalizing builder with
  | nil => simp
  | cons node rest ih =>
      have hattach : builder.attach node =
          { builder with root := some (builder.root.getD node) } := by
        simp [attach, hopen]
      have hrest : (builder.attach node).openNodes = [] := by rw [hattach, hopen]
      rw [attachAll_cons, ih hrest, hattach]
      cases builder.root <;> rfl

/-- The tree of a document is the node that its construct adds. -/
theorem Node.ofEvents_construct (root : Construct) :
    Node.ofEvents root.events = (root.read []).1.head? := by
  rw [Node.ofEvents, TreeBuilder.foldl_events, TreeBuilder.root_attachAll rfl]
  rfl

end RecordRecipe.Yaml
