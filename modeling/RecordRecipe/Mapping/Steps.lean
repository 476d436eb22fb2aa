import RecordRecipe.Mapping.Order
import RecordRecipe.Yaml.Emit

/-!
# The load mapping of a run

A run is summed up by its tables, the references seen between them and the supplied options that
nothing declares. From the summary comes the load mapping: one step per table in loading order,
with the plain fields and the look-ups of the fields that hold references.
-/

namespace RecordRecipe

open Yaml (Document)

/-- What a run has produced. -/
structure Summary where
  tables : Tables
  /-- The references seen, sorted and without repetitions. -/
  dependencies : List Dependency
  extraOptions : List String

/-- Where a reference field leads. -/
structure Lookup where
  table : String
  keyField : String
deriving DecidableEq, Repr

/-- One step of a load mapping. -/
structure MappingStep where
  table : String
  fields : Assoc String
  lookups : Assoc Lookup

namespace Mapping

/-- The table that a field references, the alphabetically first if there are several. -/
def targetOf? (dependencies : List Dependency) (table field : String) : Option String :=
  (dependencies.find? fun d => d.source = table && d.field = field).map Dependency.target

/-- Add a field to a step, as a look-up when it holds references. -/
def MappingStep.addField (dependencies : List Dependency) (step : MappingStep) (field : String) :
    MappingStep :=
  match targetOf? dependencies step.table field with
  | some target => { step with lookups := step.lookups.put field ⟨target, field⟩ }
  | none => { step with fields := step.fields.put field field }

/-- The step of a table. -/
def stepOf (summary : Summary) (table : String) : MappingStep :=
  ((summary.tables.find? table).getD []).foldl (MappingStep.addField summary.dependencies)
    ⟨table, [], []⟩

/-- The steps of a summary under their names, in loading order. -/
def ofSummary (summary : Summary) : Assoc MappingStep :=
  Assoc.ofList ((sortTables summary.dependencies summary.tables.keys).map fun table =>
    ("Insert " ++ table, stepOf summary table))

/-- A look-up as a document. -/
def lookupDocument (lookup : Lookup) : Document :=
  .map [("table", .text lookup.table), ("key_field", .text lookup.keyField)]

/-- A step as a document; look-ups are left out when there are none. -/
def stepDocument (step : MappingStep) : Document :=
  .map ([("sf_object", .text step.table), ("table", .text step.table),
    ("fields", .map (step.fields.map fun field => (field.1, .text field.2)))] ++
    if step.lookups.isEmpty then []
    else [("lookups", .map (step.lookups.map fun field => (field.1, lookupDocument field.2)))])

/-- The mapping as a document. -/
def toDocument (steps : Assoc MappingStep) : Document :=
  .map (steps.map fun step => (step.1, stepDocument step.2))

end Mapping

/-- A dependency as a document. -/
def Dependency.toDocument (d : Dependency) : Document :=
  .map [("table_name_from", .text d.source), ("table_name_to", .text d.target),
    ("field_name", .text d.field)]

/-- A summary as a document; the extra options are left out when there are none. -/
def Summary.toDocument (summary : Summary) : Document :=
  .map ([("tables", .map (summary.tables.map fun table => (table.1, .list (table.2.map .text)))),
    ("dependencies", .list (summary.dependencies.map Dependency.toDocument))] ++
    if summary.extraOptions.isEmpty then []
    else [("extra_options", .list (summary.extraOptions.map .text))])

end RecordRecipe
