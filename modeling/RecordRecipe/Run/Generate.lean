import RecordRecipe.Mapping.Steps
import RecordRecipe.Recipe.Source
import RecordRecipe.Recipe.Tables
import RecordRecipe.Run.Row

/-!
# Runs

A run settles the options, tells the sink the tables of the recipe, makes the rows of all
templates as many times as it is asked to, and flushes the sink. It sums up the tables, the
references that it has seen and the options that nothing declares.
-/

namespace RecordRecipe

open Calendar (Date)
open RecordRecipe.Random (Generator)

/-- What a caller asks of a run. -/
structure Request where
  /-- How many times the whole recipe is carried out. -/
  batches : Nat := 1
  options : Assoc FieldValue := []
  today : Date
  generator : Generator
  fake : FakeSource := FakeSource.builtin

/-- Make the rows of all templates a number of times. -/
def makeBatches {σ : Type} (setting : Setting) (desk : Desk σ) (templates : List Template) :
    Nat → Running σ Unit
  | 0 => return ()
  | batches + 1 => do
      makeAll setting desk [] templates
      makeBatches setting desk templates batches

/-- The state of a run before anything has been done. -/
def Request.start {σ : Type} (request : Request) (out : σ) : Machine σ :=
  { registry := { generator := request.generator }, out }

/-- What is given for a run whose options are settled. -/
def Request.setting (request : Request) (merged : MergedOptions) : Setting where
  options := merged.values
  today := request.today
  fake := request.fake

/-- Carry out a recipe with settled options. -/
def Recipe.carryOutWith {σ : Type} (recipe : Recipe) (request : Request) (merged : MergedOptions)
    (sink : Sink σ) (desk : Desk σ) : Running σ Summary := do
  let tables := recipe.tables
  Running.onOut (sink.declare tables)
  makeBatches (request.setting merged) desk recipe.templates request.batches
  Running.onOut sink.flush
  return { tables, dependencies := (← Running.registry).dependencies, extraOptions := merged.extra }

/-- Carry out a recipe with a sink and a desk. -/
def Recipe.carryOut {σ : Type} (recipe : Recipe) (request : Request) (sink : Sink σ)
    (desk : Desk σ) : Running σ Summary := do
  let merged ← Action.lift (mergeOptions recipe.options request.options)
  recipe.carryOutWith request merged sink desk

/-- Carry out a recipe and hand its rows to a sink. -/
def Recipe.generate {σ : Type} (recipe : Recipe) (request : Request) (sink : Sink σ) :
    Action σ Summary := fun out =>
  let (result, machine) := recipe.carryOut request sink sink.desk (request.start out)
  (result, machine.out)

/-- Read a recipe from bytes and hand its rows to a sink. -/
def Recipe.generateBytes {σ : Type} (fs : Files) (file : String) (bytes : ByteArray)
    (request : Request) (sink : Sink σ) : Action σ Summary := do
  let recipe ← Action.lift (Recipe.ofBytes fs file bytes)
  recipe.generate request sink

/-- Read a recipe from a file and hand its rows to a sink. -/
def Recipe.generateFile {σ : Type} (fs : Files) (path : String) (request : Request)
    (sink : Sink σ) : Action σ Summary := do
  let recipe ← Action.lift (Recipe.ofFile fs path)
  recipe.generate request sink

end RecordRecipe
