import RecordRecipe.Value
import RecordRecipe.Error

/-!
# Options of a recipe

A recipe declares options, with or without a default, and a caller supplies values. Supplied values
win. A declared option without any value is an error at its declaration. Values that nothing
declares are kept and reported.
-/

namespace RecordRecipe

/-- The declaration of an option. -/
structure OptionDeclaration where
  name : String
  default : Option FieldValue
  file : String
  line : Nat

/-- The options that a run sees. -/
structure MergedOptions where
  values : Assoc FieldValue
  /-- The supplied names that nothing declares, in alphabetical order. -/
  extra : List String

namespace OptionDeclaration

/-- The value of a declared option: the supplied one, else the default. -/
def resolve? (supplied : Assoc FieldValue) (declaration : OptionDeclaration) : Option FieldValue :=
  match supplied.find? declaration.name with
  | some value => some value
  | none => declaration.default

/-- A declared option that has no value. -/
def missing (declaration : OptionDeclaration) : Error :=
  (Error.name ("no value supplied for option `" ++ declaration.name ++ "`")).atLine
    declaration.file declaration.line

end OptionDeclaration

/-- Resolve the declared options in order. -/
def resolveDeclared (supplied : Assoc FieldValue) :
    List OptionDeclaration → Assoc FieldValue → Except Error (Assoc FieldValue)
  | [], values => .ok values
  | declaration :: rest, values =>
      match declaration.resolve? supplied with
      | some value => resolveDeclared supplied rest (values.put declaration.name value)
      | none => .error declaration.missing

/-- Is a name declared? -/
def isDeclared (declarations : List OptionDeclaration) (name : String) : Bool :=
  declarations.any fun declaration => declaration.name = name

/-- Put a text into an alphabetical list without repetitions. -/
def insertSorted (item : String) : List String → List String
  | [] => [item]
  | other :: rest =>
      if item = other then other :: rest
      else if item < other then item :: other :: rest
      else other :: insertSorted item rest

/-- Combine declarations with supplied values. -/
def mergeOptions (declarations : List OptionDeclaration) (supplied : Assoc FieldValue) :
    Except Error MergedOptions :=
  match resolveDeclared supplied declarations [] with
  | .error error => .error error
  | .ok declared =>
      let undeclared := supplied.filter fun entry => !isDeclared declarations entry.1
      .ok {
        values := Assoc.putAll undeclared declared
        extra := undeclared.foldl (fun extra entry => insertSorted entry.1 extra) [] }

end RecordRecipe
