import RecordRecipe.Error

/-!
# Faults of recipes

Every way in which a recipe can be badly formed, and the error that it makes at a file and a line.
-/

namespace RecordRecipe

/-- What is wrong with a recipe. Types are given by the names that messages use. -/
inductive RecipeFault where
  | unreadable (reason : String)
  | notAList
  | notAMapping (typeName : String)
  | twoDeclarations (first second : String)
  | noDeclaration (known : List String)
  | unexpectedKey (key element : String)
  | notText (key typeName : String)
  | optionDefault (option typeName : String)
  | absoluteInclude (path : String)
  | missingInclude (path reason : String)
  | recursiveInclude (path : String)
  | unknownGroup (name : String)
  | recursiveGroup (name : String)
  | emptyGroup (name : String)
  | notAnObject (typeName : String)
  | noTable
  | friendsNotAList (typeName : String)
  | fieldsNotAMapping
  | noDefinition (field : String)
  | unknownFieldType (typeName name : String)
  | emptyCall (name : String)
  | extraKeys (name : String) (keys : List String)
  | badCount (value : String)
  | countType (typeName : String)
deriving Repr

namespace RecipeFault

/-- The kind of error. -/
def kind : RecipeFault → ErrorKind
  | missingInclude _ _ => .general
  | unknownGroup _ | emptyGroup _ => .name
  | badCount _ => .value
  | _ => .grammar

/-- The message. -/
def message : RecipeFault → String
  | unreadable reason => "invalid YAML: " ++ reason
  | notAList => "recipe should be a list (use '-' on top-level lines)"
  | notAMapping typeName =>
      "top level elements of a recipe should all be mappings, not a " ++ typeName
  | twoDeclarations first second =>
      s!"top level element seems to match two name patterns: `{first}` and `{second}`"
  | noDeclaration known =>
      "unknown declaration; expected one of `" ++ "`, `".intercalate known ++ "`"
  | unexpectedKey key element => s!"unexpected key `{key}` in `{element}` declaration"
  | notText key typeName => s!"expected `{key}` to be a string, not a {typeName}"
  | optionDefault option typeName =>
      s!"the default of option `{option}` should be a scalar, not a {typeName}"
  | absoluteInclude path => s!"`include_file` paths must be relative, not `{path}`"
  | missingInclude path reason => s!"cannot load include file `{path}`: {reason}"
  | recursiveInclude path => s!"`{path}` is included recursively"
  | unknownGroup name => s!"cannot find a macro named `{name}`"
  | recursiveGroup name => s!"macro `{name}` includes itself"
  | emptyGroup name => s!"macro `{name}` does not declare any fields"
  | notAnObject typeName => "expected an object declaration, not a " ++ typeName
  | noTable => "`object` needs a table name"
  | friendsNotAList typeName => "expected `friends` to be a list, not a " ++ typeName
  | fieldsNotAMapping => "fields should be a mapping (should not start with -)"
  | noDefinition field => s!"field `{field}` should have a definition"
  | unknownFieldType typeName name =>
      s!"unknown field type ({typeName}) for `{name}`; it should be a string or an `object`"
  | emptyCall name => s!"`{name}` is an empty mapping; expected a function call"
  | extraKeys name keys => s!"extra keys for field `{name}`: " ++ ", ".intercalate keys
  | badCount value => s!"cannot use `{value}` as a row count"
  | countType typeName =>
      "expected `count` to be a number or an expression, not a " ++ typeName

/-- The error, which has no place yet. -/
def error (fault : RecipeFault) : Error := .unplaced fault.kind fault.message

/-- The error at a file and a line. -/
def errorAt (file : String) (line : Nat) (fault : RecipeFault) : Error :=
  fault.error.atLine file line

end RecipeFault

end RecordRecipe
