import RecordRecipe.Recipe.Body

/-!
# Nodes behind aliases settled on lines

A node that is reached through an alias has no line of its own. It belongs to the innermost
construct around the alias that has one: the key of a field, the list of friends, the call of a
function, the object, or what a part of none of these lies in. `settled` gives every node its own
line or that one. Nothing else about a node changes.
-/

namespace RecordRecipe

open Yaml (Node)

/-- What a node is read as. -/
inductive Role where
  /-- A declaration, a friend or the record of a child. -/
  | object
  | friends
  | fields
  /-- The definition of a field or an argument of a call. -/
  | value
  | call
  /-- The arguments of a call, all of them. -/
  | arguments
  /-- A text, a number or a key. -/
  | plain
deriving DecidableEq

namespace Role

/-- A definition that is a mapping is an object or a call. -/
def ofMapping (entries : List (Node × Node)) : Role → Role
  | value => if Reading.describesRecord entries then object else call
  | role => role

/-- What the value under a key is read as. -/
def ofValue (key : Option String) : Role → Role
  | object =>
      if key = some "fields" then fields else if key = some "friends" then friends else plain
  | fields => value
  | call => arguments
  | arguments => value
  | _ => plain

/-- The line of the construct that the value under a key belongs to: the key of a field, and for an
argument the call, which begins around the arguments. -/
def lineOfValue (keyLine here around : Nat) : Role → Nat
  | fields => keyLine
  | arguments => around
  | _ => here

/-- What an item of a list is read as. -/
def ofItem : Role → Role
  | friends => object
  | value => value
  | arguments => value
  | _ => plain

/-- The line of the construct that an item of a list belongs to. -/
def lineOfItem (here around : Nat) : Role → Nat
  | arguments => around
  | _ => here

end Role

namespace Yaml.Node

mutual

/-- A node whose parts all have lines, given the line of the construct around it. -/
def settled (role : Role) (around : Nat) : Node → Node
  | scalar line content value => scalar (some (line.getD around)) content value
  | sequence line items =>
      let here := line.getD around
      sequence (some here) (settledItems role.ofItem (role.lineOfItem here around) items)
  | mapping line entries =>
      let here := line.getD around
      mapping (some here) (settledEntries (role.ofMapping entries) here around entries)

/-- The items of a list, given the line of the construct that they belong to. -/
def settledItems (role : Role) (around : Nat) : List Node → List Node
  | [] => []
  | item :: rest => settled role around item :: settledItems role around rest

/-- The entries of a mapping, given its line and that of the construct around it. -/
def settledEntries (role : Role) (here around : Nat) : List (Node × Node) → List (Node × Node)
  | [] => []
  | (key, value) :: rest =>
      (settled .plain here key,
        settled (role.ofValue key.content?) (role.lineOfValue (key.lineOr here) here around) value)
        :: settledEntries role here around rest

end

mutual

/-- A node with all of its parts on one line. -/
def onLine (line : Nat) : Node → Node
  | scalar _ content value => scalar (some line) content value
  | sequence _ items => sequence (some line) (itemsOnLine line items)
  | mapping _ entries => mapping (some line) (entriesOnLine line entries)

/-- The items of a list, all on one line. -/
def itemsOnLine (line : Nat) : List Node → List Node
  | [] => []
  | item :: rest => onLine line item :: itemsOnLine line rest

/-- The entries of a mapping, all on one line. -/
def entriesOnLine (line : Nat) : List (Node × Node) → List (Node × Node)
  | [] => []
  | (key, value) :: rest => (onLine line key, onLine line value) :: entriesOnLine line rest

end

mutual

/-- What an alias stands for settles as a whole on the line of the construct around the alias. -/
theorem settled_unplaced (role : Role) (around : Nat) : (node : Node) →
    node.unplaced.settled role around = node.onLine around
  | .scalar .. => rfl
  | .sequence _ items => by
      rw [unplaced, settled, onLine, Option.getD_none]
      have hline : role.lineOfItem around around = around := by cases role <;> rfl
      rw [hline, settledItems_unplaced]
  | .mapping _ entries => by
      rw [unplaced, settled, onLine, Option.getD_none, settledEntries_unplaced]

theorem settledItems_unplaced (role : Role) (around : Nat) : (items : List Node) →
    settledItems role around (unplacedItems items) = itemsOnLine around items
  | [] => rfl
  | item :: rest => by
      rw [unplacedItems, settledItems, itemsOnLine, settled_unplaced, settledItems_unplaced]

theorem settledEntries_unplaced (role : Role) (around : Nat) : (entries : List (Node × Node)) →
    settledEntries role around around (unplacedEntries entries) = entriesOnLine around entries
  | [] => rfl
  | (key, value) :: rest => by
      have hkey : key.unplaced.lineOr around = around := by cases key <;> rfl
      have hline : role.lineOfValue around around around = around := by cases role <;> rfl
      rw [unplacedEntries, settledEntries, entriesOnLine, hkey, hline, settled_unplaced,
        settled_unplaced, settledEntries_unplaced]

end

variable {role : Role} {here around : Nat} {node : Node} {entries : List (Node × Node)}

@[simp] theorem lineOr_settled (line : Nat) :
    (node.settled role around).lineOr line = node.lineOr around := by
  cases node <;> rfl

@[simp] theorem content?_settled : (node.settled role around).content? = node.content? := by
  cases node <;> rfl

@[simp] theorem name_settled : (node.settled role around).name = node.name := by
  cases node <;> rfl

@[simp] theorem value?_settled : (node.settled role around).value? = node.value? := by
  cases node <;> rfl

@[simp] theorem text?_settled : (node.settled role around).text? = node.text? := by
  cases node <;> rfl

@[simp] theorem isNull_settled : (node.settled role around).isNull = node.isNull := by
  cases node <;> rfl

@[simp] theorem typeName_settled : (node.settled role around).typeName = node.typeName := by
  cases node <;> rfl

@[simp] theorem isSome_entries?_settled :
    (node.settled role around).entries?.isSome = node.entries?.isSome := by
  cases node <;> rfl

theorem settledEntries_eq_map :
    settledEntries role here around entries = entries.map fun entry =>
      (entry.1.settled .plain here, entry.2.settled (role.ofValue entry.1.content?)
        (role.lineOfValue (entry.1.lineOr here) here around)) := by
  induction entries with
  | nil => rfl
  | cons first rest ih => rw [settledEntries, ih, List.map_cons]

theorem lookup_settledEntries (key : String) :
    lookup key (settledEntries .object here around entries) =
      (lookup key entries).map (settled (Role.object.ofValue (some key)) here) := by
  induction entries with
  | nil => rfl
  | cons first rest ih =>
      obtain ⟨candidate, value⟩ := first
      rw [settledEntries, lookup, lookup, content?_settled]
      split
      next hkey =>
        rw [hkey]
        rfl
      next => exact ih

/-- The values under the keys of an object belong to the object. -/
theorem get?_settled (key : String) :
    (node.settled .object around).get? key =
      (node.get? key).map (settled (Role.object.ofValue (some key)) (node.lineOr around)) := by
  cases node with
  | scalar | sequence => rfl
  | mapping line? entries => exact lookup_settledEntries key

/-- Settled entries have the keys that they had before. -/
theorem keys_settledEntries (role : Role) (here around : Nat) (entries : List (Node × Node)) :
    ((settledEntries role here around entries).filterMap fun entry => entry.1.content?) =
      entries.filterMap fun entry => entry.1.content? := by
  rw [settledEntries_eq_map, List.filterMap_map]
  simp only [Function.comp_def, content?_settled]

/-- Settled entries describe a record exactly if they did so before. -/
theorem describesRecord_settledEntries :
    Reading.describesRecord (settledEntries role here around entries) =
      Reading.describesRecord entries := by
  unfold Reading.describesRecord
  induction entries with
  | nil => rfl
  | cons first rest ih =>
      obtain ⟨candidate, value⟩ := first
      rw [settledEntries, lookup, lookup, content?_settled]
      split
      · simp
      · exact ih

end Yaml.Node

end RecordRecipe
