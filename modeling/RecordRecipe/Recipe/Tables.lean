import RecordRecipe.Recipe.Template

/-!
# The tables of a recipe

The tables that a recipe can make rows of, each with all the fields that its templates write. A
table is listed where it is first mentioned: a template comes before the child records in its
fields, and these before its friends.
-/

namespace RecordRecipe

/-- Add the fields that are written and not yet listed. -/
def addWritten (listed : List String) (fields : List Field) : List String :=
  fields.foldl
    (fun listed field =>
      if isHidden field.name || listed.contains field.name then listed
      else listed ++ [field.name])
    listed

/-- Add a table and its written fields. -/
def addTable (table : String) (fields : List Field) (tables : Tables) : Tables :=
  tables.put table (addWritten ((tables.find? table).getD []) fields)

mutual

/-- Add the tables of a template. -/
def Template.addTables : Template → Tables → Tables
  | .mk table _ _ fields friends _ _, tables =>
      templatesTables friends (fieldsTables fields (addTable table fields tables))

/-- Add the tables of some templates. -/
def templatesTables : List Template → Tables → Tables
  | [], tables => tables
  | template :: rest, tables => templatesTables rest (template.addTables tables)

/-- Add the tables of the child records in some fields. -/
def fieldsTables : List Field → Tables → Tables
  | [], tables => tables
  | .mk _ definition _ _ :: rest, tables => fieldsTables rest (definition.addTables tables)

/-- Add the tables of the child records in a definition. -/
def Definition.addTables : Definition → Tables → Tables
  | .value _, tables => tables
  | .call _ positional named _ _, tables =>
      namedTables named (argumentTables positional tables)
  | .child record _ _, tables => record.addTables tables

/-- Add the tables of the child records in arguments by position. -/
def argumentTables : List Definition → Tables → Tables
  | [], tables => tables
  | definition :: rest, tables => argumentTables rest (definition.addTables tables)

/-- Add the tables of the child records in arguments by name. -/
def namedTables : List (String × Definition) → Tables → Tables
  | [], tables => tables
  | (_, definition) :: rest, tables => namedTables rest (definition.addTables tables)

end

/-- The tables of a recipe. -/
def Recipe.tables (recipe : Recipe) : Tables := templatesTables recipe.templates []

end RecordRecipe
