import RecordRecipe.Proofs.Run.Step

/-!
# Recipes and requests without references

References come into being while rows are made. A recipe holds none, and neither does what is asked
of it unless a caller brings rows along.
-/

namespace RecordRecipe

/-- No row at all. -/
def noRow : RowRef → Prop := fun _ => False

/-- A row may be known without having been given only if it has been started. -/
theorem Machine.Known.started {σ : Type} {machine : Machine (Logged σ)} {row : RowRef}
    (h : machine.Known noRow row) : row ∈ machine.out.started :=
  h.resolve_left id

/-- Rules that ask for values without references. -/
def Rules.plain : Rules where
  literal := fun value => value.Within noRow
  table := fun _ => True
  field := fun _ _ => True

/-- A recipe holds no references. -/
structure Recipe.Plain (recipe : Recipe) : Prop where
  templates : ∀ template ∈ recipe.templates, template.Obeys Rules.plain
  defaults : ∀ option ∈ recipe.options, ∀ value ∈ option.default, value.Within noRow

/-- The options that are supplied and the supply of fake data hold no references. -/
structure Request.Plain (request : Request) : Prop where
  options : FieldsWithin noRow request.options
  fake : request.fake.Within noRow

/-- Recipes and requests without references keep to the rules that ask for that. -/
theorem Recipe.Plain.keeps {recipe : Recipe} {request : Request} (hrecipe : recipe.Plain)
    (hrequest : request.Plain) : recipe.Keeps Rules.plain noRow request where
  templates := hrecipe.templates
  literals := fun _ hvalue => hvalue
  defaults := hrecipe.defaults
  options := hrequest.options
  fake := hrequest.fake

end RecordRecipe
