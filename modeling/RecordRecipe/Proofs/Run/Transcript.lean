import RecordRecipe.Proofs.Run.View

/-!
# Runs with a transcript

`Recipe.transcribe` carries a recipe out with any sink and takes down every call that is made on the
sink, with its answer, and every count, field or argument that could not be rendered.
`generate_eq_transcribe` says that the transcript changes nothing: without it, the result and the
sink's state are those of `Recipe.generate`.
-/

namespace RecordRecipe

variable {σ : Type}

/-- A call that may be made on a sink. -/
inductive SinkCall where
  | declare (tables : Tables)
  | write (row : Row)
  | store (table : String) (encoded : EncodedRow)
  | flush
  | commit
  | close

/-- Make a call on a sink. -/
def Sink.perform (sink : Sink σ) : SinkCall → Action σ Unit
  | .declare tables => sink.declare tables
  | .write row => sink.write row
  | .store table encoded => sink.store table encoded
  | .flush => sink.flush
  | .commit => sink.commit
  | .close => sink.close

/-- An entry of a transcript. -/
inductive Event where
  /-- A call has been made on the sink. -/
  | call (made : SinkCall) (answer : Except Error Unit)
  /-- A count, a field or an argument could not be rendered. -/
  | failed (activation : Activation) (error : Error)

namespace Event

/-- The call that has been made, and its answer. -/
def call? : Event → Option (SinkCall × Except Error Unit)
  | .call made answer => some (made, answer)
  | .failed _ _ => none

/-- Has a call been made that has succeeded? -/
def Succeeds : Event → Prop
  | .call _ (.ok ()) => True
  | .call _ (.error _) | .failed _ _ => False

end Event

/-- The calls of a transcript with their answers. -/
def callsOf (events : List Event) : List (SinkCall × Except Error Unit) :=
  events.filterMap Event.call?

/-- The state of a sink and the transcript of a run. -/
structure Transcribed (σ : Type) where
  out : σ
  events : List Event := []

namespace Transcribed

/-- Take down an event. -/
def note (event : Event) (transcribed : Transcribed σ) : Transcribed σ :=
  { transcribed with events := transcribed.events ++ [event] }

/-- Do something with the sink's state and take it down as a call. -/
def call (made : SinkCall) (action : Action σ Unit) : Action (Transcribed σ) Unit :=
  fun transcribed =>
    let (answer, out) := action transcribed.out
    (answer, { out, events := transcribed.events ++ [.call made answer] })

end Transcribed

/-- The sink over its state with a transcript, in which every call on it is taken down. -/
def Sink.transcribed (sink : Sink σ) : Sink (Transcribed σ) where
  name := sink.name
  encoders := sink.encoders
  declare := fun tables => Transcribed.call (.declare tables) (sink.declare tables)
  counter? := fun transcribed => sink.counter? transcribed.out
  setCounter := fun counter transcribed =>
    { transcribed with out := sink.setCounter counter transcribed.out }
  store := fun table encoded => Transcribed.call (.store table encoded) (sink.store table encoded)
  flush := Transcribed.call .flush sink.flush
  commit := Transcribed.call .commit sink.commit
  close := Transcribed.call .close sink.close
  write := fun row => Transcribed.call (.write row) (sink.write row)

/-- The desk of a sink that keeps a transcript. -/
def Sink.transcribingDesk (sink : Sink σ) : Desk (Transcribed σ) where
  note := fun moment =>
    match moment with
    | .failed activation error =>
        Running.onOut (Action.modify (Transcribed.note (.failed activation error)))
    | .entered _ | .rendering _ | .rendered _ | .started _ | .opened _ _ | .closed _ _ _
    | .left =>
        return ()
  hand := fun _ row => Running.write sink.transcribed row

/-- Carry out a recipe with a sink and keep a transcript. -/
def Recipe.transcribe (recipe : Recipe) (request : Request) (sink : Sink σ) (out : σ) :
    Except Error Summary × Machine (Transcribed σ) :=
  recipe.carryOut request sink.transcribed sink.transcribingDesk (request.start { out })

namespace Machine

variable {machine : Machine (Transcribed σ)} {made : SinkCall} {answer : Except Error Unit}
  {out : σ}

/-- The state behind a call that has been taken down. -/
def called (made : SinkCall) (answer : Except Error Unit) (out : σ)
    (machine : Machine (Transcribed σ)) : Machine (Transcribed σ) :=
  { machine with out := { out, events := machine.out.events ++ [.call made answer] } }

/-- A call is taken down with what the sink answers. -/
theorem onOut_call {action : Action σ Unit} (h : action machine.out.out = (answer, out)) :
    Running.onOut (Transcribed.call made action) machine =
      (answer, machine.called made answer out) := by
  unfold Running.onOut Action.onPart Transcribed.call
  rw [h]
  rfl

/-- The row as the sink receives it. -/
def written (row : RowRef) (machine : Machine (Transcribed σ)) : Row :=
  ⟨row.table, row.id, (machine.registry.noteReferences row).fieldsOf row⟩

/-- A row is handed over by one call. -/
theorem hand_eq {sink : Sink σ} {activation : Activation} {row : RowRef}
    (h : sink.write (machine.written row) machine.out.out = (answer, out)) :
    sink.transcribingDesk.hand activation row machine =
      (answer, (machine.noteReferences row).called (.write (machine.written row)) answer out) :=
  onOut_call h

end Machine

/-- A run ends as it does with a transcript beside the sink. -/
theorem generate_eq_transcribe (recipe : Recipe) (request : Request) (sink : Sink σ) (out : σ) :
    recipe.generate request sink out =
      ((recipe.transcribe request sink out).1, (recipe.transcribe request sink out).2.out.out) := by
  have hwrite : ∀ row, Action.Mirrors Transcribed.out (sink.write row)
      (sink.transcribed.write row) := fun _ _ => rfl
  refine Recipe.generate_mirrors Transcribed.out ?_ ?_ ?_ ?_ recipe request { out }
  · rintro (_ | _ | _ | _ | _ | _ | _ | _) machine <;> rfl
  · exact fun _ row => Action.Mirrors.write hwrite row
  · exact fun _ _ => rfl
  · exact fun _ => rfl

end RecordRecipe
