import RecordRecipe.Recipe.Group
import RecordRecipe.Recipe.Inclusion

/-!
# Recipes from texts and files

A recipe is read in two steps: all declarations are collected, and then the templates and the
groups of fields are read in the order in which they are declared.
-/

namespace RecordRecipe

namespace Recipe

/-- The recipe of some declarations. -/
def ofDeclarations (file : String) (declarations : Declarations) : Except Error Recipe :=
  let reading : Reading (List Template) := do
    let templates ← Reading.templates (Reading.findGroup declarations.groups)
      declarations.templates
    Reading.remainingGroups declarations.groups
    return templates
  match reading [] with
  | (.error error, _) => .error error
  | (.ok templates, groups) =>
      .ok { file, options := declarations.options, groups, templates }

/-- Read a recipe from a text that goes by the name of a file. -/
def ofText (fs : Files) (file text : String) : Except Error Recipe := do
  ofDeclarations file (← Declarations.ofText fs none file text)

/-- Read a recipe from bytes that go by the name of a file. -/
def ofBytes (fs : Files) (file : String) (bytes : ByteArray) : Except Error Recipe :=
  match String.fromUTF8? bytes with
  | some text => ofText fs file text
  | none => .error Refusal.notText.error

/-- Read a recipe from a file. -/
def ofFile (fs : Files) (path : String) : Except Error Recipe :=
  match fs.read path with
  | .error refusal => .error refusal.error
  | .ok (location, text) => do
      ofDeclarations path (← Declarations.ofText fs (some location) path text)

end Recipe

end RecordRecipe
