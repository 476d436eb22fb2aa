import RecordRecipe.Options

/-!
# Templates

A recipe's templates form a tree. A template describes rows of one table; its fields have
definitions, and a definition may be a value, a call with definitions as arguments, or the template
of a child record. Every part knows the file and the line where it is written.
-/

namespace RecordRecipe

/-- A value as it is written, a text being a definition that may hold expressions. -/
structure Written where
  value : FieldValue
  file : String
  line : Nat

/-- How many rows a template makes whenever it is used. -/
inductive Count where
  | fixed (rows : Nat)
  /-- The number is worked out anew every time. -/
  | deferred (definition : Written)

mutual

/-- The right-hand side of a field. -/
inductive Definition where
  | value (written : Written)
  /-- A call of a function, or of a method written behind a dot. -/
  | call (function : String) (positional : List Definition) (named : List (String × Definition))
      (file : String) (line : Nat)
  | child (record : Template) (file : String) (line : Nat)

/-- A field and its definition. -/
inductive Field where
  | mk (name : String) (definition : Definition) (file : String) (line : Nat)

/-- A template of rows. The friends are templates that are used after every row. -/
inductive Template where
  | mk (table : String) (nickname : Option String) (count : Option Count) (fields : List Field)
      (friends : List Template) (file : String) (line : Nat)

end

namespace Definition

/-- The line where a definition is written. -/
def line : Definition → Nat
  | value written => written.line
  | call _ _ _ _ line => line
  | child _ _ line => line

end Definition

namespace Field

/-- The name of a field. -/
def name : Field → String
  | mk name _ _ _ => name

/-- The definition of a field. -/
def definition : Field → Definition
  | mk _ definition _ _ => definition

end Field

namespace Template

/-- The table that the rows belong to. -/
def table : Template → String
  | mk table _ _ _ _ _ _ => table

/-- The fields in order. -/
def fields : Template → List Field
  | mk _ _ _ fields _ _ _ => fields

end Template

/-- A set of fields under a name, to be included in templates. -/
structure FieldGroup where
  name : String
  /-- The fields of the groups that it includes, then its own. -/
  fields : List Field
  file : String
  line : Nat

/-- All that a recipe declares. -/
structure Recipe where
  file : String
  options : List OptionDeclaration
  groups : Assoc FieldGroup
  templates : List Template

end RecordRecipe
