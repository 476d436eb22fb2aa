import Mathlib
import RecordRecipe.Proofs.Yaml.Building
import RecordRecipe.Proofs.Yaml.Grammar

/-!
# Trees that represent their document

A node represents a construct if it has one part for each part of the construct, in order, and each
alias stands for the node that its anchor names. The tree of a document represents it exactly when
no alias stands inside the collection whose anchor it names: `Node.ofText_faithful_iff`. Such an
alias would stand for something larger than what it stands in, so that no tree could represent the
document. The builder leaves the alias out, and what follows it moves up.
-/

namespace RecordRecipe.Yaml

namespace Construct

/-- A node is the one that an anchor names, if it has an anchor. -/
def NamedBy (named : Nat → Option Node) (anchor : Nat) (node : Node) : Prop :=
  0 < anchor → named anchor = some node

mutual

/-- A node represents a construct, given the nodes that anchors name. What an alias stands for has
no lines. -/
def Stands (named : Nat → Option Node) : Construct → Node → Prop
  | scalar line plain content anchor, node =>
      node = scalarNode line plain content ∧ NamedBy named anchor node
  | aliasOf _ anchor, node => ∃ target, named anchor = some target ∧ node = target.unplaced
  | sequence line anchor items _, node =>
      (∃ nodes, node = .sequence (some line) nodes ∧ StandItems named items nodes) ∧
        NamedBy named anchor node
  | mapping line anchor entries _, node =>
      (∃ nodes, node = .mapping (some line) nodes ∧ StandEntries named entries nodes) ∧
        NamedBy named anchor node

/-- Nodes represent the items of a sequence, one each. -/
def StandItems (named : Nat → Option Node) : List Construct → List Node → Prop
  | [], nodes => nodes = []
  | item :: rest, nodes =>
      ∃ node others, nodes = node :: others ∧ Stands named item node ∧ StandItems named rest others

/-- Pairs of nodes represent the entries of a mapping, one each. -/
def StandEntries (named : Nat → Option Node) :
    List (Construct × Construct) → List (Node × Node) → Prop
  | [], nodes => nodes = []
  | (key, value) :: rest, nodes =>
      ∃ keyNode valueNode others, nodes = (keyNode, valueNode) :: others ∧
        Stands named key keyNode ∧ Stands named value valueNode ∧ StandEntries named rest others

end

/-- A node represents a whole document, with some node for each anchor. -/
def Faithful (root : Construct) (node : Node) : Prop := ∃ named, Stands named root node

section Mono

variable {named others : Nat → Option Node}

mutual

/-- More names do no harm. -/
theorem Stands.mono (hnamed : ∀ anchor node, named anchor = some node → others anchor = some node) :
    (construct : Construct) → {node : Node} → construct.Stands named node →
      construct.Stands others node
  | .scalar .., _, h => ⟨h.1, fun hanchor => hnamed _ _ (h.2 hanchor)⟩
  | .aliasOf .., _, ⟨target, htarget, hnode⟩ => ⟨target, hnamed _ _ htarget, hnode⟩
  | .sequence _ _ items _, _, ⟨⟨nodes, hnode, hitems⟩, hname⟩ =>
      ⟨⟨nodes, hnode, StandItems.mono hnamed items hitems⟩,
        fun hanchor => hnamed _ _ (hname hanchor)⟩
  | .mapping _ _ entries _, _, ⟨⟨nodes, hnode, hentries⟩, hname⟩ =>
      ⟨⟨nodes, hnode, StandEntries.mono hnamed entries hentries⟩,
        fun hanchor => hnamed _ _ (hname hanchor)⟩

theorem StandItems.mono
    (hnamed : ∀ anchor node, named anchor = some node → others anchor = some node) :
    (items : List Construct) → {nodes : List Node} → StandItems named items nodes →
      StandItems others items nodes
  | [], _, h => h
  | item :: rest, _, ⟨node, tail, hnodes, hitem, hrest⟩ =>
      ⟨node, tail, hnodes, hitem.mono hnamed item, hrest.mono hnamed rest⟩

theorem StandEntries.mono
    (hnamed : ∀ anchor node, named anchor = some node → others anchor = some node) :
    (entries : List (Construct × Construct)) → {nodes : List (Node × Node)} →
      StandEntries named entries nodes → StandEntries others entries nodes
  | [], _, h => h
  | (key, value) :: rest, _, ⟨keyNode, valueNode, tail, hnodes, hkey, hvalue, hrest⟩ =>
      ⟨keyNode, valueNode, tail, hnodes, hkey.mono hnamed key, hvalue.mono hnamed value,
        hrest.mono hnamed rest⟩

end

end Mono

end Construct

namespace Anchored

variable {known middle last : Anchored} {before between after anchor : Nat} {node : Node}

/-- The node that an anchor names. -/
def named (known : Anchored) (anchor : Nat) : Option Node := known.lookup anchor

theorem named_note_self (hanchor : 0 < anchor) :
    (known.note anchor node).named anchor = some node := by
  simp [named, note, hanchor]

theorem named_note_of_ne {name : Nat} (hname : name ≠ anchor) :
    (known.note anchor node).named name = known.named name := by
  have hbeq : (name == anchor) = false := by simpa using hname
  unfold note
  split
  · rw [named, List.lookup_cons, hbeq]
    rfl
  · rfl

/-- Only anchors up to the last one that has begun are known. -/
def UpTo (known : Anchored) (before : Nat) : Prop :=
  ∀ anchor node, known.named anchor = some node → anchor ≤ before

/-- From one last anchor to another, all anchors that have begun in between become known, and
nothing else changes. -/
structure Grows (known : Anchored) (before : Nat) (last : Anchored) (after : Nat) : Prop where
  le : before ≤ after
  kept : ∀ anchor node, known.named anchor = some node → last.named anchor = some node
  fresh : ∀ anchor node, last.named anchor = some node →
    known.named anchor = some node ∨ before < anchor ∧ anchor ≤ after
  finished : ∀ anchor, before < anchor → anchor ≤ after → ∃ node, last.named anchor = some node

namespace Grows

theorem refl (known : Anchored) (before : Nat) : Grows known before known before where
  le := Nat.le_refl _
  kept := fun _ _ => id
  fresh := fun _ _ => .inl
  finished := fun _ hbefore hafter => absurd hafter (Nat.not_le.mpr hbefore)

theorem trans (hfirst : Grows known before middle between)
    (hsecond : Grows middle between last after) : Grows known before last after where
  le := Nat.le_trans hfirst.le hsecond.le
  kept := fun anchor node h => hsecond.kept anchor node (hfirst.kept anchor node h)
  fresh := by
    intro anchor node h
    obtain h | ⟨hbetween, hafter⟩ := hsecond.fresh anchor node h
    · obtain h | ⟨hbefore, hbetween⟩ := hfirst.fresh anchor node h
      · exact .inl h
      · exact .inr ⟨hbefore, Nat.le_trans hbetween hsecond.le⟩
    · exact .inr ⟨Nat.lt_of_le_of_lt hfirst.le hbetween, hafter⟩
  finished := by
    intro anchor hbefore hafter
    by_cases hbetween : anchor ≤ between
    · obtain ⟨node, hnode⟩ := hfirst.finished anchor hbefore hbetween
      exact ⟨node, hsecond.kept anchor node hnode⟩
    · exact hsecond.finished anchor (Nat.lt_of_not_le hbetween) hafter

theorem upTo (h : Grows known before last after) (hknown : known.UpTo before) :
    last.UpTo after := by
  intro anchor node hnode
  obtain hnode | ⟨-, hafter⟩ := h.fresh anchor node hnode
  · exact Nat.le_trans (hknown anchor node hnode) h.le
  · exact hafter

/-- The anchor of a node is unknown as long as its parts are read. -/
theorem ne_of_named (h : Grows known (before + 1) last after) (hknown : known.UpTo before)
    {name : Nat} {found : Node} (hfound : last.named name = some found) : name ≠ before + 1 := by
  rintro rfl
  obtain hfound | ⟨hlt, -⟩ := h.fresh _ found hfound
  · exact Nat.not_succ_le_self before (hknown _ found hfound)
  · exact Nat.lt_irrefl _ hlt

/-- Noting a node behind its parts changes nothing about the anchors known by then. -/
theorem kept_note (h : Grows known between last after) (hknown : known.UpTo before)
    (hnumbers : Numbers anchor before between) (name : Nat) (found : Node)
    (hfound : last.named name = some found) : (last.note anchor node).named name = some found := by
  obtain ⟨rfl, rfl⟩ | ⟨rfl, rfl⟩ := hnumbers
  · exact hfound
  · rwa [named_note_of_ne (h.ne_of_named hknown hfound)]

/-- A node is noted under its anchor behind its parts. -/
theorem note (h : Grows known between last after) (hknown : known.UpTo before)
    (hnumbers : Numbers anchor before between) :
    Grows known before (last.note anchor node) after := by
  obtain ⟨rfl, rfl⟩ | ⟨rfl, rfl⟩ := hnumbers
  · exact h
  · have hle : before + 1 ≤ after := h.le
    refine ⟨by omega, fun name found hfound => ?_, fun name found hfound => ?_,
      fun name hbefore hafter => ?_⟩
    · exact h.kept_note hknown (.inr ⟨rfl, rfl⟩) name found (h.kept name found hfound)
    · by_cases hname : name = before + 1
      · exact .inr (by omega)
      · rw [named_note_of_ne hname] at hfound
        exact (h.fresh name found hfound).imp_right fun hlater => by omega
    · by_cases hname : name = before + 1
      · subst hname
        exact ⟨node, named_note_self (Nat.succ_pos before)⟩
      · rw [named_note_of_ne hname]
        exact h.finished name (by omega) hafter

end Grows

/-- The anchors named by aliases, as far as they have begun, are known. -/
def Ready (known : Anchored) (before : Nat) (aliases : List Nat) : Prop :=
  ∀ anchor ∈ aliases, 0 < anchor → anchor ≤ before → ∃ node, known.named anchor = some node

theorem ready_append {first second : List Nat} :
    known.Ready before (first ++ second) ↔ known.Ready before first ∧ known.Ready before second :=
  List.forall_mem_append

theorem Ready.grow {aliases : List Nat} (h : known.Ready before aliases)
    (hgrows : Grows known before middle between) : middle.Ready between aliases := by
  intro anchor hanchor hpos hbetween
  by_cases hbefore : anchor ≤ before
  · obtain ⟨node, hnode⟩ := h anchor hanchor hpos hbefore
    exact ⟨node, hgrows.kept anchor node hnode⟩
  · exact hgrows.finished anchor (Nat.lt_of_not_le hbefore) hbetween

/-- Inside a node no alias waits for the node itself. -/
theorem Ready.enter {aliases : List Nat} (h : known.Ready before aliases)
    (hnumbers : Numbers anchor before between) (hclear : 0 < anchor → anchor ∉ aliases) :
    known.Ready between aliases := by
  intro name hname hpos hbetween
  obtain ⟨rfl, rfl⟩ | ⟨rfl, rfl⟩ := hnumbers
  · exact h name hname hpos hbetween
  · have hne : name ≠ before + 1 := fun heq => hclear (Nat.succ_pos before) (heq ▸ hname)
    exact h name hname hpos (by omega)

end Anchored

theorem Numbers.upTo {anchor before between : Nat} {known : Anchored}
    (h : Numbers anchor before between) (hknown : known.UpTo before) : known.UpTo between := by
  intro name node hnode
  have hle := hknown name node hnode
  obtain ⟨rfl, rfl⟩ | ⟨rfl, rfl⟩ := h <;> omega

namespace Construct

mutual

/-- A construct whose aliases are ready adds one node, and that represents it. -/
theorem read_stands : (construct : Construct) → {known : Anchored} → {before after : Nat} →
    Numbered before construct.events after → construct.Grounded → known.UpTo before →
    known.Ready before construct.aliases →
    ∃ node last, construct.read known = ([node], last) ∧ construct.Stands last.named node ∧
      known.Grows before last after
  | .scalar line plain content anchor, known, before, after, hnumbered, _, hknown, _ => by
      obtain ⟨_, hnumbers, rfl⟩ := hnumbered
      refine ⟨_, _, rfl, ⟨rfl, Anchored.named_note_self⟩, ?_⟩
      exact (Anchored.Grows.refl known after).note hknown hnumbers
  | .aliasOf line anchor, known, before, after, hnumbered, _, hknown, hready => by
      obtain ⟨_, ⟨hpos, hbegun, rfl⟩, rfl⟩ := hnumbered
      -- The anchor has begun, and since the alias is not inside of it, it is known.
      obtain ⟨target, htarget⟩ := hready anchor (by simp [aliases]) hpos hbegun
      refine ⟨target.unplaced, known, ?_, ⟨target, htarget, rfl⟩, .refl known _⟩
      rw [read, ← Anchored.named, htarget]
      rfl
  | .sequence line anchor items endLine, known, before, after, hnumbered, hgrounded, hknown,
      hready => by
      obtain ⟨between, hnumbers, hitems⟩ := numbered_sequence hnumbered
      -- The anchor of the sequence has begun for its items, but it is known only behind them.
      obtain ⟨nodes, last, hread, hstand, hgrows⟩ := readItems_stand items hitems hgrounded.2
        (hnumbers.upTo hknown) (hready.enter hnumbers hgrounded.1)
      refine ⟨.sequence (some line) nodes, _, ?_, ⟨⟨nodes, rfl, ?_⟩, Anchored.named_note_self⟩,
        hgrows.note hknown hnumbers⟩
      · rw [read, hread]
      · exact hstand.mono (hgrows.kept_note hknown hnumbers) items
  | .mapping line anchor entries endLine, known, before, after, hnumbered, hgrounded, hknown,
      hready => by
      obtain ⟨between, hnumbers, hentries⟩ := numbered_mapping hnumbered
      obtain ⟨nodes, last, hread, hstand, hgrows⟩ := readEntries_stand entries hentries
        hgrounded.2 (hnumbers.upTo hknown) (hready.enter hnumbers hgrounded.1)
      refine ⟨.mapping (some line) (Node.pairs nodes), _, ?_,
        ⟨⟨_, rfl, ?_⟩, Anchored.named_note_self⟩, hgrows.note hknown hnumbers⟩
      · rw [read, hread]
      · exact hstand.mono (hgrows.kept_note hknown hnumbers) entries

theorem readItems_stand : (items : List Construct) → {known : Anchored} → {before after : Nat} →
    Numbered before (itemsEvents items) after → GroundedItems items → known.UpTo before →
    known.Ready before (itemsAliases items) →
    ∃ nodes last, readItems known items = (nodes, last) ∧ StandItems last.named items nodes ∧
      known.Grows before last after
  | [], known, before, after, hnumbered, _, _, _ => by
      cases hnumbered
      exact ⟨[], known, rfl, rfl, .refl known _⟩
  | item :: rest, known, before, after, hnumbered, hgrounded, hknown, hready => by
      obtain ⟨between, hitem, hrest⟩ := numbered_append.mp hnumbered
      obtain ⟨hreadyItem, hreadyRest⟩ := Anchored.ready_append.mp hready
      obtain ⟨node, middle, hread, hstand, hgrows⟩ :=
        read_stands item hitem hgrounded.1 hknown hreadyItem
      obtain ⟨nodes, last, hreadRest, hstandRest, hgrowsRest⟩ := readItems_stand rest hrest
        hgrounded.2 (hgrows.upTo hknown) (hreadyRest.grow hgrows)
      refine ⟨node :: nodes, last, ?_, ⟨node, nodes, rfl, ?_, hstandRest⟩,
        hgrows.trans hgrowsRest⟩
      · simp only [readItems, hread, hreadRest, List.singleton_append]
      · exact hstand.mono hgrowsRest.kept item

theorem readEntries_stand : (entries : List (Construct × Construct)) → {known : Anchored} →
    {before after : Nat} → Numbered before (entriesEvents entries) after →
    GroundedEntries entries → known.UpTo before → known.Ready before (entriesAliases entries) →
    ∃ nodes last, readEntries known entries = (nodes, last) ∧
      StandEntries last.named entries (Node.pairs nodes) ∧ known.Grows before last after
  | [], known, before, after, hnumbered, _, _, _ => by
      cases hnumbered
      exact ⟨[], known, rfl, rfl, .refl known _⟩
  | (key, value) :: rest, known, before, after, hnumbered, hgrounded, hknown, hready => by
      obtain ⟨afterKey, hkey, hnumbered⟩ := numbered_append.mp hnumbered
      obtain ⟨afterValue, hvalue, hrest⟩ := numbered_append.mp hnumbered
      obtain ⟨hreadyKey, hready⟩ := Anchored.ready_append.mp hready
      obtain ⟨hreadyValue, hreadyRest⟩ := Anchored.ready_append.mp hready
      obtain ⟨keyNode, first, hreadKey, hstandKey, hgrowsKey⟩ :=
        read_stands key hkey hgrounded.1 hknown hreadyKey
      obtain ⟨valueNode, second, hreadValue, hstandValue, hgrowsValue⟩ := read_stands value
        hvalue hgrounded.2.1 (hgrowsKey.upTo hknown) (hreadyValue.grow hgrowsKey)
      have hgrows := hgrowsKey.trans hgrowsValue
      obtain ⟨nodes, last, hreadRest, hstandRest, hgrowsRest⟩ := readEntries_stand rest hrest
        hgrounded.2.2 (hgrows.upTo hknown) (hreadyRest.grow hgrows)
      refine ⟨keyNode :: valueNode :: nodes, last, ?_,
        ⟨keyNode, valueNode, Node.pairs nodes, rfl, ?_, ?_, hstandRest⟩, hgrows.trans hgrowsRest⟩
      · simp only [readEntries, hreadKey, hreadValue, hreadRest, List.singleton_append]
      · exact hstandKey.mono (hgrowsValue.trans hgrowsRest).kept key
      · exact hstandValue.mono hgrowsRest.kept value

end

end Construct

namespace Node

mutual

/-- The number of nodes in a node, keys included. -/
def size : Node → Nat
  | scalar .. => 1
  | sequence _ items => itemsSize items + 1
  | mapping _ entries => entriesSize entries + 1

/-- The number of nodes in the items of a sequence. -/
def itemsSize : List Node → Nat
  | [] => 0
  | item :: rest => size item + itemsSize rest

/-- The number of nodes in the entries of a mapping. -/
def entriesSize : List (Node × Node) → Nat
  | [] => 0
  | (key, value) :: rest => size key + size value + entriesSize rest

end

mutual

/-- Lines do not count. -/
theorem size_unplaced : (node : Node) → node.unplaced.size = node.size
  | .scalar .. => rfl
  | .sequence _ items => congrArg (· + 1) (itemsSize_unplaced items)
  | .mapping _ entries => congrArg (· + 1) (entriesSize_unplaced entries)

theorem itemsSize_unplaced : (items : List Node) → itemsSize (unplacedItems items) = itemsSize items
  | [] => rfl
  | item :: rest => by
      rw [unplacedItems, itemsSize, itemsSize, size_unplaced item, itemsSize_unplaced rest]

theorem entriesSize_unplaced : (entries : List (Node × Node)) →
    entriesSize (unplacedEntries entries) = entriesSize entries
  | [] => rfl
  | (key, value) :: rest => by
      rw [unplacedEntries, entriesSize, entriesSize, size_unplaced key, size_unplaced value,
        entriesSize_unplaced rest]

end

end Node

namespace Construct

variable {named : Nat → Option Node} {anchor : Nat}

mutual

/-- What an alias stands for is no larger than the node that the alias stands in. -/
theorem Stands.exists_named : (construct : Construct) → {node : Node} →
    construct.Stands named node → anchor ∈ construct.aliases →
    ∃ target, named anchor = some target ∧ target.size ≤ node.size
  | .scalar .., _, _, hanchor => absurd hanchor List.not_mem_nil
  | .aliasOf .., _, ⟨target, htarget, hnode⟩, hanchor => by
      obtain rfl := List.mem_singleton.mp hanchor
      exact ⟨target, htarget, Nat.le_of_eq (by rw [hnode, Node.size_unplaced])⟩
  | .sequence _ _ items _, _, ⟨⟨nodes, hnode, hitems⟩, _⟩, hanchor => by
      obtain ⟨target, htarget, hsize⟩ := hitems.exists_named items hanchor
      exact ⟨target, htarget, by rw [hnode, Node.size]; exact Nat.le_succ_of_le hsize⟩
  | .mapping _ _ entries _, _, ⟨⟨nodes, hnode, hentries⟩, _⟩, hanchor => by
      obtain ⟨target, htarget, hsize⟩ := hentries.exists_named entries hanchor
      exact ⟨target, htarget, by rw [hnode, Node.size]; exact Nat.le_succ_of_le hsize⟩

theorem StandItems.exists_named : (items : List Construct) → {nodes : List Node} →
    StandItems named items nodes → anchor ∈ itemsAliases items →
    ∃ target, named anchor = some target ∧ target.size ≤ Node.itemsSize nodes
  | [], _, _, hanchor => absurd hanchor List.not_mem_nil
  | item :: rest, _, ⟨node, others, hnodes, hitem, hrest⟩, hanchor => by
      subst hnodes
      rw [Node.itemsSize]
      obtain hanchor | hanchor := List.mem_append.mp hanchor
      · obtain ⟨target, htarget, hsize⟩ := hitem.exists_named item hanchor
        exact ⟨target, htarget, by omega⟩
      · obtain ⟨target, htarget, hsize⟩ := hrest.exists_named rest hanchor
        exact ⟨target, htarget, by omega⟩

theorem StandEntries.exists_named : (entries : List (Construct × Construct)) →
    {nodes : List (Node × Node)} → StandEntries named entries nodes →
    anchor ∈ entriesAliases entries →
    ∃ target, named anchor = some target ∧ target.size ≤ Node.entriesSize nodes
  | [], _, _, hanchor => absurd hanchor List.not_mem_nil
  | (key, value) :: rest, _, ⟨keyNode, valueNode, others, hnodes, hkey, hvalue, hrest⟩,
      hanchor => by
      subst hnodes
      rw [Node.entriesSize]
      obtain hanchor | hanchor := List.mem_append.mp hanchor
      · obtain ⟨target, htarget, hsize⟩ := hkey.exists_named key hanchor
        exact ⟨target, htarget, by omega⟩
      · obtain hanchor | hanchor := List.mem_append.mp hanchor
        · obtain ⟨target, htarget, hsize⟩ := hvalue.exists_named value hanchor
          exact ⟨target, htarget, by omega⟩
        · obtain ⟨target, htarget, hsize⟩ := hrest.exists_named rest hanchor
          exact ⟨target, htarget, by omega⟩

end

mutual

/-- No node represents a construct with an alias inside the collection it names: what the alias
stands for would be as large as the collection. -/
theorem Stands.grounded : (construct : Construct) → {node : Node} →
    construct.Stands named node → construct.Grounded
  | .scalar .., _, _ => trivial
  | .aliasOf .., _, _ => trivial
  | .sequence _ _ items _, _, ⟨⟨nodes, hnode, hitems⟩, hname⟩ => by
      refine ⟨fun hanchor hinside => ?_, hitems.grounded items⟩
      -- What the alias stands for is the whole sequence, and lies in its items as well.
      obtain ⟨target, htarget, hsize⟩ := hitems.exists_named items hinside
      obtain rfl : _ = target := Option.some.inj ((hname hanchor).symm.trans htarget)
      rw [hnode, Node.size] at hsize
      exact Nat.not_succ_le_self _ hsize
  | .mapping _ _ entries _, _, ⟨⟨nodes, hnode, hentries⟩, hname⟩ => by
      refine ⟨fun hanchor hinside => ?_, hentries.grounded entries⟩
      obtain ⟨target, htarget, hsize⟩ := hentries.exists_named entries hinside
      obtain rfl : _ = target := Option.some.inj ((hname hanchor).symm.trans htarget)
      rw [hnode, Node.size] at hsize
      exact Nat.not_succ_le_self _ hsize

theorem StandItems.grounded : (items : List Construct) → {nodes : List Node} →
    StandItems named items nodes → GroundedItems items
  | [], _, _ => trivial
  | item :: rest, _, ⟨_, _, _, hitem, hrest⟩ => ⟨hitem.grounded item, hrest.grounded rest⟩

theorem StandEntries.grounded : (entries : List (Construct × Construct)) →
    {nodes : List (Node × Node)} → StandEntries named entries nodes → GroundedEntries entries
  | [], _, _ => trivial
  | (key, value) :: rest, _, ⟨_, _, _, _, hkey, hvalue, hrest⟩ =>
      ⟨hkey.grounded key, hvalue.grounded value, hrest.grounded rest⟩

end

/-- A whole document adds a node, whatever its aliases name. -/
theorem exists_read {root : Construct} {last : Nat} (hnumbered : Numbered 0 root.events last) :
    ∃ node, (root.read []).1 = [node] := by
  cases root with
  | scalar | sequence | mapping => exact ⟨_, rfl⟩
  | aliasOf =>
      obtain ⟨_, ⟨hpos, hle, -⟩, -⟩ := hnumbered
      omega

/-- The node that a whole document adds represents it, if all aliases stand outside of what they
name. -/
theorem Grounded.faithful {root : Construct} {last : Nat} (hgrounded : root.Grounded)
    (hnumbered : Numbered 0 root.events last) {node : Node} (hread : (root.read []).1 = [node]) :
    root.Faithful node := by
  have hready : Anchored.Ready [] 0 root.aliases :=
    fun anchor _ hpos hle => absurd hpos (Nat.not_lt.mpr hle)
  obtain ⟨other, final, hother, hstands, -⟩ :=
    read_stands root hnumbered hgrounded (fun _ _ h => by cases h) hready
  obtain rfl : other = node := by simpa [hother] using hread
  exact ⟨final.named, hstands⟩

end Construct

/-- The tree of a text represents its document if and only if no alias stands inside the collection
whose anchor it names, and otherwise nothing represents the document. The text is accepted either
way: it is rejected only for the faults of its events. -/
theorem Node.ofText_faithful_iff (text : String) :
    (∃ fault, Event.ofText text = .error fault ∧ Node.ofText text = .error fault) ∨
    (Event.ofText text = .ok [] ∧ Node.ofText text = .ok none) ∨
    ∃ root : Construct, Event.ofText text = .ok root.events ∧
      (∀ other : Construct, other.events = root.events → other = root) ∧
      ∃ node, Node.ofText text = .ok (some node) ∧ (root.Faithful node ↔ root.Grounded) ∧
        (¬ root.Grounded → ∀ other, ¬ root.Faithful other) := by
  cases hevents : Event.ofText text with
  | error fault => exact .inl ⟨fault, rfl, by rw [Node.ofText, hevents]; rfl⟩
  | ok events =>
      obtain rfl | ⟨root, rfl, last, hnumbered⟩ := (Event.ofText_construct text).of_eq_ok hevents
      · exact .inr (.inl ⟨rfl, by rw [Node.ofText, hevents]; rfl⟩)
      · obtain ⟨node, hread⟩ := Construct.exists_read hnumbered
        have hnode : Node.ofText text = .ok (some node) := by
          rw [Node.ofText, hevents, Except.map, Node.ofEvents_construct, hread]
          rfl
        have hgrounded : ∀ other, root.Faithful other → root.Grounded :=
          fun _ ⟨_, hstands⟩ => hstands.grounded root
        refine .inr (.inr ⟨root, rfl, fun _ => Construct.events_injective, node, hnode, ?_, ?_⟩)
        · exact ⟨hgrounded node, fun h => h.faithful hnumbered hread⟩
        · exact fun h other hother => h (hgrounded other hother)

/-- A declaration with a field whose value is the declaration itself, and a field behind it. -/
def Construct.declarationInItself : Construct :=
  .sequence 1 0 [.mapping 2 1 [
    (.scalar 2 true "object" 0, .scalar 2 true "A" 0),
    (.scalar 3 true "fields" 0, .mapping 4 0 [
      (.scalar 4 true "x" 0, .aliasOf 4 1),
      (.scalar 5 true "y" 0, .scalar 5 true "1" 0)] 6)] 6] 6

/-- An alias inside its own declaration is left out without a word: the first field gets the name
of the second for its value, and the value of the second is lost. No tree represents that text. -/
theorem Node.ofText_declarationInItself :
    let text := "- &a\n  object: A\n  fields:\n    x: *a\n    y: 1\n"
    let name (line : Nat) (content : String) := Construct.scalarNode line true content
    Event.ofText text = .ok Construct.declarationInItself.events ∧
      Node.ofText text = .ok (some (.sequence (some 1) [.mapping (some 2) [
        (name 2 "object", name 2 "A"),
        (name 3 "fields", .mapping (some 4) [(name 4 "x", name 5 "y")])]])) ∧
      ∀ node, ¬ Construct.declarationInItself.Faithful node := by
  intro text name
  have hevents : Event.ofText text = .ok Construct.declarationInItself.events := by cbv
  refine ⟨hevents, ?_, fun node ⟨named, hstands⟩ => ?_⟩
  · rw [Node.ofText, hevents]
    rfl
  · have hgrounded := hstands.grounded Construct.declarationInItself
    simp [Construct.declarationInItself, Construct.Grounded, Construct.GroundedItems,
      Construct.itemsAliases, Construct.entriesAliases, Construct.aliases] at hgrounded

end RecordRecipe.Yaml
