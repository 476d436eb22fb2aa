import RecordRecipe.Action
import RecordRecipe.Expr.Program
import RecordRecipe.Recipe.Declaration

/-!
# Reading templates

Fields, definitions and templates are read along the structure of the node that describes them.
Groups of fields that a template includes lie elsewhere and are asked for by name. Every expression
is checked while it is read.
-/

namespace RecordRecipe

open RecordRecipe.Expr (Program)
open Yaml (Node)

/-- A computation that reads a part of a recipe and keeps the groups that it has read. -/
abbrev Reading (α : Type) := Action (Assoc FieldGroup) α

/-- Finds a group of fields by its name. -/
abbrev GroupSource := String → Reading FieldGroup

namespace Reading

/-- Fail at a file and a line. -/
def failAt {α : Type} (file : String) (line : Nat) (fault : RecipeFault) : Reading α :=
  Action.fail (fault.errorAt file line)

/-- Check that a text can be evaluated. -/
def checkText (file : String) (line : Nat) (definition : String) : Except Error Unit :=
  match Program.ofText definition with
  | .ok _ => .ok ()
  | .error fault => .error ((fault.toError definition).atLine file line)

/-- A value as it is written; a text has to be fit for evaluation. -/
def written (file : String) (line : Nat) (value : FieldValue) : Except Error Written := do
  if let .text definition := value then checkText file line definition
  return { value, file, line }

/-- A number of rows. -/
def count (file : String) (line : Nat) (node : Node) : Except Error Count :=
  match node.value? with
  | some (.int n) =>
      if n < 0 then bad (toString n.toInt) else .ok (.fixed n.toInt.toNat)
  | some (.float x) =>
      if x.isFinite && 0 ≤ x then .ok (.fixed (Decimal.clampedTrunc 0 (UInt64.size - 1) x).toNat)
      else bad (FieldValue.float x).display
  | some (.text content) =>
      if Expr.hasTags content || content.contains '=' then
        (written file line (.text content)).map .deferred
      else match Numeral.readNat? 64 (Text.trimChars content.toList) with
        | some rows => .ok (.fixed rows)
        | none => bad content
  | _ => .error ((RecipeFault.countType node.typeName).errorAt file line)
where
  /-- A value that is no number of rows. -/
  bad (value : String) : Except Error Count :=
    .error ((RecipeFault.badCount value).errorAt file line)

/-- The number of rows of a template, if it says one. -/
def optionalCount (file : String) (line : Nat) (node : Node) : Except Error (Option Count) :=
  match node.get? "count" with
  | none => .ok none
  | some node =>
      if node.isNull then .ok none else (count file (node.lineOr line) node).map some

/-- The names in a list between commas. -/
def listedNames (names : String) : List String :=
  ((Text.splitWhere (· = ',') names.toList).map fun name =>
    String.ofList (Text.trimChars name)).filter (· ≠ "")

/-- The fields of some groups, in order. A group without fields may not be included. -/
def groupFields (groups : GroupSource) (file : String) (line : Nat) :
    List String → Reading (List Field)
  | [] => return []
  | name :: rest => do
      let group ← (groups name).mapError (Error.orAtLine file line)
      if group.fields.isEmpty then failAt group.file group.line (.emptyGroup name)
      let others ← groupFields groups file line rest
      return group.fields ++ others

/-- The fields of the groups that a declaration includes. -/
def includedFields (groups : GroupSource) (file : String) (line : Nat) (node : Node) :
    Reading (List Field) := do
  match ← Action.lift (Declaration.textUnder file node "include") with
  | none => return []
  | some names =>
      let line := ((node.get? "include").map (Node.lineOr line)).getD line
      groupFields groups file line (listedNames names)

/-- The table of a template. -/
def tableName (file : String) (line : Nat) (node : Node) : Except Error String := do
  match ← Declaration.textUnder file node "object" with
  | some name => if Text.trim name = "" then noTable else return name
  | none => noTable
where
  /-- The table is missing. -/
  noTable : Except Error String := .error (RecipeFault.noTable.errorAt file line)

/-- A template, given how to read its own fields and its friends. -/
def template (groups : GroupSource) (file : String) (line : Nat) (node : Node)
    (ownFields : Reading (List Field)) (friends : Reading (List Template)) :
    Reading Template := do
  Action.lift (Declaration.checkKeys file .template node)
  let table ← Action.lift (tableName file line node)
  let nickname ← Action.lift (Declaration.textUnder file node "nickname")
  let included ← includedFields groups file line node
  let own ← ownFields
  let friends ← friends
  let count ← Action.lift (optionalCount file line node)
  return .mk table nickname count (included ++ own) friends file line

/-- Do the entries of a mapping describe a record? -/
def describesRecord (entries : List (Node × Node)) : Bool :=
  (Node.lookup "object" entries).any fun node => !node.isNull

mutual

/-- The template that a node describes. -/
def object (groups : GroupSource) (file : String) (around : Nat) : Node → Reading Template
  | .mapping line entries =>
      let here := line.getD around
      template groups file here (.mapping line entries) (fieldsUnder groups file here entries)
        (friendsUnder groups file here entries)
  | other => failAt file (other.lineOr around) (.notAnObject other.typeName)

/-- The templates that some nodes describe. -/
def objects (groups : GroupSource) (file : String) (around : Nat) :
    List Node → Reading (List Template)
  | [] => return []
  | first :: rest => do
      let template ← object groups file around first
      let others ← objects groups file around rest
      return template :: others

/-- The templates under the key `friends`. -/
def friendsUnder (groups : GroupSource) (file : String) (around : Nat) :
    List (Node × Node) → Reading (List Template)
  | [] => return []
  | (key, value) :: rest =>
      if key.content? = some "friends" then friends groups file around value
      else friendsUnder groups file around rest

/-- The templates of friends. -/
def friends (groups : GroupSource) (file : String) (around : Nat) :
    Node → Reading (List Template)
  | .sequence line items => objects groups file (line.getD around) items
  | other =>
      if other.isNull then return []
      else failAt file (other.lineOr around) (.friendsNotAList other.typeName)

/-- The fields under the key `fields`. -/
def fieldsUnder (groups : GroupSource) (file : String) (around : Nat) :
    List (Node × Node) → Reading (List Field)
  | [] => return []
  | (key, value) :: rest =>
      if key.content? = some "fields" then fields groups file around value
      else fieldsUnder groups file around rest

/-- The fields that a node describes. -/
def fields (groups : GroupSource) (file : String) (around : Nat) : Node → Reading (List Field)
  | .mapping line entries => fieldEntries groups file (line.getD around) entries
  | other =>
      if other.isNull then return []
      else failAt file (other.lineOr around) .fieldsNotAMapping

/-- The fields that the entries of a mapping describe. -/
def fieldEntries (groups : GroupSource) (file : String) (around : Nat) :
    List (Node × Node) → Reading (List Field)
  | [] => return []
  | (key, value) :: rest => do
      let here := key.lineOr around
      if value.isNull then failAt file here (.noDefinition key.name)
      let definition ← definition groups file key.name here value
      let others ← fieldEntries groups file around rest
      return .mk key.name definition file (value.lineOr here) :: others

/-- The definition that a node describes. A list that holds nothing but one mapping stands for the
mapping. -/
def definition (groups : GroupSource) (file name : String) (around : Nat) :
    Node → Reading Definition
  | .scalar line _ value =>
      let here := line.getD around
      if value.isNull then failAt file here (.unknownFieldType value.typeName name)
      else do return .value (← Action.lift (written file here value))
  | .mapping line entries =>
      let here := line.getD around
      if describesRecord entries then do
        let record ← template groups file here (.mapping line entries)
          (fieldsUnder groups file here entries) (friendsUnder groups file here entries)
        return .child record file here
      else call groups file name here entries
  | .sequence line [item] =>
      let here := line.getD around
      if item.entries?.isSome then definition groups file name here item
      else failAt file here (.unknownFieldType "list" name)
  | .sequence line _ => failAt file (line.getD around) (.unknownFieldType "list" name)

/-- The call that the only entry of a mapping describes. -/
def call (groups : GroupSource) (file name : String) (here : Nat) :
    List (Node × Node) → Reading Definition
  | [] => failAt file here (.emptyCall name)
  | [(function, given)] => do
      let (positional, named) ← arguments groups file function.name here given
      return .call function.name positional named file here
  | entries => failAt file here (.extraKeys name (entries.filterMap fun entry => entry.1.content?))

/-- The arguments of a call: a list, a mapping, or a single one. -/
def arguments (groups : GroupSource) (file function : String) (around : Nat) :
    Node → Reading (List Definition × Assoc Definition)
  | .sequence _ items => do
      return (← definitions groups file function around items, [])
  | .mapping _ entries => do
      return ([], ← namedDefinitions groups file around entries [])
  | .scalar line _ value =>
      if value.isNull then return ([], [])
      else do return ([.value (← Action.lift (written file (line.getD around) value))], [])

/-- The arguments that the items of a list describe. -/
def definitions (groups : GroupSource) (file function : String) (around : Nat) :
    List Node → Reading (List Definition)
  | [] => return []
  | first :: rest => do
      let argument ← definition groups file function around first
      let others ← definitions groups file function around rest
      return argument :: others

/-- The arguments that the entries of a mapping describe, added to others. -/
def namedDefinitions (groups : GroupSource) (file : String) (around : Nat) :
    List (Node × Node) → Assoc Definition → Reading (Assoc Definition)
  | [], found => return found
  | (key, value) :: rest, found => do
      let argument ← definition groups file key.name around value
      namedDefinitions groups file around rest (found.put key.name argument)

end

end Reading

end RecordRecipe
