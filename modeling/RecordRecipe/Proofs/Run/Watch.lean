import RecordRecipe.Proofs.Run.View

/-!
# Runs that are watched

`Recipe.watch` carries a recipe out with any sink and looks at the registry at every moment of which
note may be taken. Beside the registry it keeps the rows that have been started by the activations
that have begun and not ended. `generate_eq_watch` says that watching changes nothing.
-/

namespace RecordRecipe

variable {σ : Type}

/-- What is seen at a moment of a run. -/
structure Sighting where
  moment : Moment
  registry : Registry
  /-- The rows that the innermost activation has started so far. -/
  started : List RowRef

/-- The state of a sink and what has been seen of a run. -/
structure Watched (σ : Type) where
  out : σ
  /-- The rows that the activations have started that have begun and not ended, the innermost
  activation first. -/
  activations : List (List RowRef) := []
  sightings : List Sighting := []

namespace Watched

/-- The rows of the activations behind a moment: an activation begins with none, a row that is
started belongs to the innermost activation, and the innermost activation ends first. -/
def follow (activations : List (List RowRef)) : Moment → List (List RowRef)
  | .entered _ => [] :: activations
  | .started activation => activations.modifyHead (· ++ activation.row.toList)
  | .left => activations.tail
  | .rendering _ | .rendered _ | .failed _ _ | .opened _ _ | .closed _ _ _ => activations

/-- Look at the registry at a moment. -/
def see (moment : Moment) (registry : Registry) (watched : Watched σ) : Watched σ :=
  let activations := follow watched.activations moment
  { watched with
    activations
    sightings := watched.sightings ++ [⟨moment, registry, activations.headD []⟩] }

/-- The state of a sink, beside what has been seen. -/
def setOut (out : σ) (watched : Watched σ) : Watched σ :=
  { watched with out }

/-- Do something with the state of a sink, which is not seen. -/
def unseen {α : Type} (action : Action σ α) : Action (Watched σ) α :=
  Action.onPart Watched.out setOut action

end Watched

/-- The sink over its state with what has been seen, of which it knows nothing. -/
def Sink.watched (sink : Sink σ) : Sink (Watched σ) :=
  sink.onPart Watched.out Watched.setOut

theorem Sink.watched_declare (sink : Sink σ) (tables : Tables) :
    sink.watched.declare tables = Watched.unseen (sink.declare tables) := rfl

theorem Sink.watched_write (sink : Sink σ) (row : Row) :
    sink.watched.write row = Watched.unseen (sink.write row) := rfl

theorem Sink.watched_flush (sink : Sink σ) :
    sink.watched.flush = Watched.unseen sink.flush := rfl

/-- What is seen of a run stays as it is while something is done with the state of the sink. -/
theorem Machine.onOut_unseen {α : Type} (action : Action σ α) (machine : Machine (Watched σ)) :
    Running.onOut (Watched.unseen action) machine = ((action machine.out.out).1,
      { machine with out := machine.out.setOut (action machine.out.out).2 }) :=
  rfl

/-- The desk of a sink at which the run is watched. -/
def Sink.watchingDesk (sink : Sink σ) : Desk (Watched σ) where
  note := fun moment => do
    let registry ← Running.registry
    Running.onOut (Action.modify (Watched.see moment registry))
  hand := fun _ row => Running.write sink.watched row

/-- Carry out a recipe with a sink and watch the run. -/
def Recipe.watch (recipe : Recipe) (request : Request) (sink : Sink σ) (out : σ) :
    Except Error Summary × Machine (Watched σ) :=
  recipe.carryOut request sink.watched sink.watchingDesk (request.start { out })

/-- A run that is watched ends as it does otherwise. -/
theorem generate_eq_watch (recipe : Recipe) (request : Request) (sink : Sink σ) (out : σ) :
    recipe.generate request sink out =
      ((recipe.watch request sink out).1, (recipe.watch request sink out).2.out.out) := by
  have hwrite : ∀ row, Action.Mirrors Watched.out (sink.write row) (sink.watched.write row) :=
    fun _ _ => rfl
  refine Recipe.generate_mirrors Watched.out ?_ ?_ ?_ ?_ recipe request { out }
  · exact fun _ _ => rfl
  · exact fun _ row => Action.Mirrors.write hwrite row
  · exact fun _ _ => rfl
  · exact fun _ => rfl

end RecordRecipe
