import RecordRecipe.Recipe.Fault
import RecordRecipe.Recipe.Template
import RecordRecipe.Yaml.Node

/-!
# Declarations

A recipe is a list of declarations: options, groups of fields, templates of rows, and files to
include. What a declaration is shows in its keys, of which exactly one has to name it.
-/

namespace RecordRecipe

open Yaml (Node)

/-- A node and the file that it is written in. -/
structure Declaration where
  file : String
  node : Node

/-- The kinds of declarations. -/
inductive DeclarationKind where
  | option
  | inclusion
  | group
  | template
deriving DecidableEq, Repr

namespace DeclarationKind

/-- The key that names a declaration of a kind. -/
def key : DeclarationKind → String
  | option => "option"
  | inclusion => "include_file"
  | group => "macro"
  | template => "object"

/-- All keys that a declaration of a kind may have. -/
def keys : DeclarationKind → List String
  | option => ["option", "default"]
  | inclusion => ["include_file"]
  | group => ["macro", "fields", "include"]
  | template => ["object", "count", "fields", "friends", "nickname", "include"]

/-- The kinds in the order in which keys are looked for. -/
def all : List DeclarationKind := [option, inclusion, group, template]

end DeclarationKind

namespace Declaration

/-- Does a node have a key with a value that is not empty? Lists and mappings never are. -/
def names (node : Node) (kind : DeclarationKind) : Bool :=
  match node.get? kind.key with
  | none => false
  | some value => (value.value?.map FieldValue.isTruthy).getD true

/-- The kind of a top-level declaration. -/
def classify (file : String) (node : Node) : Except Error DeclarationKind :=
  let line := node.lineOr 1
  if node.entries?.isNone then
    .error ((RecipeFault.notAMapping node.typeName).errorAt file line)
  else match DeclarationKind.all.filter (names node) with
    | [] =>
        .error ((RecipeFault.noDeclaration (DeclarationKind.all.map DeclarationKind.key)).errorAt
          file line)
    | [kind] => .ok kind
    | first :: second :: _ =>
        .error ((RecipeFault.twoDeclarations first.key second.key).errorAt file line)

/-- Check that a mapping has no keys but those that its kind allows. -/
def checkKeys (file : String) (kind : DeclarationKind) (node : Node) : Except Error Unit :=
  match (node.entries?.getD []).find? fun entry => !kind.keys.contains entry.1.name with
  | none => .ok ()
  | some (key, _) =>
      .error ((RecipeFault.unexpectedKey key.name kind.key).errorAt file
        (key.lineOr (node.lineOr 1)))

/-- The text under a key; nothing if the key is absent or null. -/
def textUnder (file : String) (node : Node) (key : String) : Except Error (Option String) :=
  match node.get? key with
  | none => .ok none
  | some value =>
      if value.isNull then .ok none
      else match value.text? with
        | some content => .ok (some content)
        | none =>
            .error ((RecipeFault.notText key value.typeName).errorAt file
              (value.lineOr (node.lineOr 1)))

/-- The default of an option. -/
def readDefault (file name : String) (line : Nat) (node : Node) :
    Except Error (Option FieldValue) :=
  match node.get? "default" with
  | none => .ok none
  | some node =>
      match node.value? with
      | some value => .ok (some value)
      | none =>
          .error ((RecipeFault.optionDefault name node.typeName).errorAt file (node.lineOr line))

/-- The declaration of an option. -/
def readOption (file : String) (node : Node) : Except Error OptionDeclaration := do
  checkKeys file .option node
  let line := node.lineOr 1
  let name := (← textUnder file node "option").getD ""
  let default ← readDefault file name line node
  return { name, default, file, line }

end Declaration

end RecordRecipe
