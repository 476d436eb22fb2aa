import RecordRecipe.Proofs.Recipe.Plain
import RecordRecipe.Yaml.Node

/-!
# Documents without references

What a document spells is null, a truth value, a number, a date, a moment or a text. No event gives
the tree under construction anything else, and an alias repeats what is there already, so that no
node of a document holds a reference: `Node.ofText_plain`.
-/

namespace RecordRecipe

/-- A date or a moment is no reference. -/
theorem FieldValue.within_ofTimestamp? {rows : RowRef → Prop} {content : String} :
    ∀ value ∈ FieldValue.ofTimestamp? content, value.Within rows := by
  intro value hvalue
  unfold FieldValue.ofTimestamp? at hvalue
  split at hvalue
  · obtain ⟨date, _, rfl⟩ := Option.map_eq_some_iff.mp hvalue
    trivial
  · split at hvalue
    · obtain ⟨moment, _, rfl⟩ := Option.map_eq_some_iff.mp hvalue
      trivial
    · cases hvalue

/-- What a plain scalar spells is no reference. -/
theorem FieldValue.within_ofPlain {rows : RowRef → Prop} (content : String) :
    (FieldValue.ofPlain content).Within rows := by
  unfold FieldValue.ofPlain
  repeat' split
  all_goals try trivial
  cases hvalue : FieldValue.ofTimestamp? content with
  | none => exact within_ofText
  | some value => exact within_ofTimestamp? value hvalue

namespace Yaml

/-- The scalars of a node hold no references; the keys of mappings are never used as values. -/
inductive Node.Plain : Node → Prop where
  | scalar (line : Option Nat) (content : String) (value : FieldValue) (h : value.Within noRow) :
      Node.Plain (.scalar line content value)
  | sequence (line : Option Nat) (items : List Node) (h : ∀ item ∈ items, Node.Plain item) :
      Node.Plain (.sequence line items)
  | mapping (line : Option Nat) (entries : List (Node × Node))
      (h : ∀ entry ∈ entries, Node.Plain entry.2) : Node.Plain (.mapping line entries)

namespace Node

mutual

/-- Lines do not matter. -/
theorem Plain.unplaced : (node : Node) → node.Plain → node.unplaced.Plain
  | .scalar _ content value, h => by
      cases h with
      | scalar _ _ _ hvalue => exact .scalar none content value hvalue
  | .sequence _ items, h => by
      cases h with
      | sequence _ _ hitems => exact .sequence none _ (unplacedItems_plain items hitems)
  | .mapping _ entries, h => by
      cases h with
      | mapping _ _ hentries => exact .mapping none _ (unplacedEntries_plain entries hentries)

theorem unplacedItems_plain : (items : List Node) → (∀ item ∈ items, item.Plain) →
    ∀ item ∈ unplacedItems items, item.Plain
  | [], _ => by simp [unplacedItems]
  | first :: rest, h => by
      obtain ⟨hfirst, hrest⟩ := List.forall_mem_cons.mp h
      exact List.forall_mem_cons.mpr ⟨hfirst.unplaced first, unplacedItems_plain rest hrest⟩

theorem unplacedEntries_plain : (entries : List (Node × Node)) →
    (∀ entry ∈ entries, entry.2.Plain) → ∀ entry ∈ unplacedEntries entries, entry.2.Plain
  | [], _ => by simp [unplacedEntries]
  | (_, first) :: rest, h => by
      obtain ⟨hfirst, hrest⟩ := List.forall_mem_cons.mp h
      exact List.forall_mem_cons.mpr ⟨hfirst.unplaced first, unplacedEntries_plain rest hrest⟩

end

/-- The value under a key holds no references. -/
theorem lookup_plain {key : String} {entries : List (Node × Node)}
    (h : ∀ entry ∈ entries, entry.2.Plain) : ∀ node ∈ lookup key entries, node.Plain := by
  induction entries with
  | nil => simp [lookup]
  | cons first rest ih =>
      obtain ⟨hfirst, hrest⟩ := List.forall_mem_cons.mp h
      intro node hnode
      rw [lookup] at hnode
      split at hnode
      · obtain rfl : first.2 = node := by simpa using hnode
        exact hfirst
      · exact ih hrest node hnode

/-- The value under a key of a mapping holds no references. -/
theorem Plain.get? {node : Node} (h : node.Plain) (key : String) :
    ∀ value ∈ node.get? key, value.Plain := by
  intro value hvalue
  cases h with
  | mapping line entries hentries => exact lookup_plain hentries value hvalue
  | scalar => simp [Node.get?, entries?] at hvalue
  | sequence => simp [Node.get?, entries?] at hvalue

/-- The value of a scalar is no reference. -/
theorem Plain.value? {node : Node} (h : node.Plain) :
    ∀ value ∈ node.value?, value.Within noRow := by
  intro value hvalue
  cases h with
  | scalar line content found hfound =>
      obtain rfl : found = value := by simpa [Node.value?] using hvalue
      exact hfound
  | sequence => simp [Node.value?] at hvalue
  | mapping => simp [Node.value?] at hvalue

/-- The items of a sequence hold no references. -/
theorem Plain.items? {node : Node} (h : node.Plain) :
    ∀ items ∈ node.items?, ∀ item ∈ items, item.Plain := by
  intro items hitems
  cases h with
  | sequence line found hfound =>
      obtain rfl : found = items := by simpa [Node.items?] using hitems
      exact hfound
  | scalar => simp [Node.items?] at hitems
  | mapping => simp [Node.items?] at hitems

end Node

/-- What an open collection holds has no references. -/
def OpenContent.Plain : OpenContent → Prop
  | .sequence items => ∀ item ∈ items, item.Plain
  | .mapping entries _ => ∀ entry ∈ entries, entry.2.Plain

/-- What has been built of a tree holds no references. -/
structure TreeBuilder.Plain (builder : TreeBuilder) : Prop where
  openNodes : ∀ opened ∈ builder.openNodes, opened.content.Plain
  anchors : ∀ anchored ∈ builder.anchors, anchored.2.Plain
  root : ∀ node ∈ builder.root, node.Plain

namespace TreeBuilder

variable {builder : TreeBuilder} {node : Node}

/-- A node without references may be added. -/
theorem Plain.attach (h : builder.Plain) (hnode : node.Plain) : (builder.attach node).Plain := by
  unfold TreeBuilder.attach
  split
  next hopen =>
    refine ⟨h.openNodes, h.anchors, fun root hroot => ?_⟩
    cases hbefore : builder.root with
    | none =>
        obtain rfl : node = root := by simpa [hbefore] using hroot
        exact hnode
    | some before =>
        obtain rfl : before = root := by simpa [hbefore] using hroot
        exact h.root before hbefore
  next top rest hopen =>
    obtain ⟨htop, hrest⟩ := List.forall_mem_cons.mp (hopen ▸ h.openNodes)
    refine ⟨List.forall_mem_cons.mpr ⟨?_, hrest⟩, h.anchors, h.root⟩
    dsimp only
    split
    next items hcontent =>
      rw [hcontent] at htop
      exact List.forall_mem_append.mpr ⟨htop, List.forall_mem_singleton.mpr hnode⟩
    next entries key hcontent =>
      rw [hcontent] at htop
      exact List.forall_mem_append.mpr ⟨htop, List.forall_mem_singleton.mpr hnode⟩
    next entries hcontent =>
      rw [hcontent] at htop
      exact htop

/-- A node without references may be finished. -/
theorem Plain.finish (h : builder.Plain) (hnode : node.Plain) (anchor : Nat) :
    (builder.finish node anchor).Plain := by
  unfold TreeBuilder.finish
  refine Plain.attach ?_ hnode
  split
  · exact ⟨h.openNodes, List.forall_mem_cons.mpr ⟨hnode, h.anchors⟩, h.root⟩
  · exact h

/-- An empty collection may be opened. -/
theorem Plain.openWith (h : builder.Plain) {content : OpenContent} (hcontent : content.Plain)
    (line anchor : Nat) : (builder.openWith line anchor content).Plain :=
  ⟨List.forall_mem_cons.mpr ⟨hcontent, h.openNodes⟩, h.anchors, h.root⟩

/-- The innermost collection may be closed. -/
theorem Plain.closeNode (h : builder.Plain) : builder.closeNode.Plain := by
  unfold TreeBuilder.closeNode
  split
  next => exact h
  next top rest hopen =>
    obtain ⟨htop, hrest⟩ := List.forall_mem_cons.mp (hopen ▸ h.openNodes)
    have hbelow : TreeBuilder.Plain { builder with openNodes := rest } :=
      ⟨hrest, h.anchors, h.root⟩
    refine hbelow.finish ?_ top.anchor
    split
    next items hcontent =>
      rw [hcontent] at htop
      exact .sequence _ items htop
    next entries key hcontent =>
      rw [hcontent] at htop
      exact .mapping _ entries htop

/-- Every event keeps a tree without references. -/
theorem Plain.step (h : builder.Plain) (marked : MarkedEvent) : (builder.step marked).Plain := by
  unfold TreeBuilder.step
  split
  next plain content anchor _ =>
    refine h.finish (.scalar _ content _ ?_) anchor
    split
    · exact FieldValue.within_ofPlain content
    · trivial
  next => exact h.openWith (by simp [OpenContent.Plain]) _ _
  next => exact h.openWith (by simp [OpenContent.Plain]) _ _
  next => exact h.closeNode
  next => exact h.closeNode
  next anchor _ =>
    -- An alias of an anchor that is not finished yet stands for nothing.
    split
    next found hfound =>
      refine h.attach (Node.Plain.unplaced found ?_)
      obtain ⟨before, after, hanchors, _⟩ := List.lookup_eq_some_iff.mp hfound
      exact h.anchors (anchor, found) (by simp [hanchors])
    next => exact h

end TreeBuilder

/-- A document holds no references. -/
theorem Node.ofEvents_plain (events : List MarkedEvent) :
    ∀ node ∈ Node.ofEvents events, node.Plain := by
  have hbuilt : (events.foldl TreeBuilder.step {}).Plain :=
    List.foldlRecOn events TreeBuilder.step ⟨by simp, by simp, by simp⟩
      fun _ h marked _ => TreeBuilder.Plain.step h marked
  exact hbuilt.root

/-- The document in a text holds no references. -/
theorem Node.ofText_plain (text : String) :
    Gives (fun root => ∀ node ∈ root, node.Plain) (Node.ofText text) := by
  rw [Node.ofText, Gives.except_map_iff]
  exact Gives.of_forall Node.ofEvents_plain

end Yaml

end RecordRecipe
