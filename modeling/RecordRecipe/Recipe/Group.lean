import RecordRecipe.Recipe.Body

/-!
# Groups of fields

A group includes other groups, and so may the templates of child records in its fields. A group is
read when it is first needed and kept. While it is read it may not be needed again; groups can
therefore be nested only as deeply as there are groups, which bounds the search.
-/

namespace RecordRecipe

open Yaml (Node)

namespace Reading

/-- The group that a declaration describes, given how to find the groups that it needs. -/
def groupBody (groups : GroupSource) (name : String) (declaration : Declaration) :
    Reading FieldGroup := do
  let ⟨file, node⟩ := declaration
  Action.lift (Declaration.checkKeys file .group node)
  let line := node.lineOr 1
  let included ← includedFields groups file line node
  let own ← fieldsUnder groups file line (node.entries?.getD [])
  return { name, fields := included ++ own, file, line }

/-- Find a group by its name, as the given depth allows; the names on the way to it are not to be
met again. -/
def group (declared : Assoc Declaration) : Nat → List String → GroupSource
  | 0, _, name => Action.fail (RecipeFault.recursiveGroup name).error
  | depth + 1, path, name => do
      match (← Action.get).find? name with
      | some known => return known
      | none =>
      match declared.find? name with
      | none => Action.fail (RecipeFault.unknownGroup name).error
      | some declaration => do
          if path.contains name then
            failAt declaration.file (declaration.node.lineOr 1) (.recursiveGroup name)
          let found ← groupBody (group declared depth (name :: path)) name declaration
          Action.modify (Assoc.put name found)
          return found

/-- Find a group by its name. -/
def findGroup (declared : Assoc Declaration) : GroupSource :=
  group declared (declared.length + 1) []

/-- Read the templates of some declarations. -/
def templates (groups : GroupSource) : List Declaration → Reading (List Template)
  | [] => return []
  | first :: rest => do
      let template ← object groups first.file 1 first.node
      let others ← templates groups rest
      return template :: others

/-- Read all groups that have not been read yet. -/
def remainingGroups (declared : Assoc Declaration) : Reading Unit :=
  Action.forEach (fun name => do let _ ← findGroup declared name) declared.keys

end Reading

end RecordRecipe
