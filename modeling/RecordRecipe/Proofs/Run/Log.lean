import RecordRecipe.Proofs.Run.View

/-!
# Runs with a log

`Recipe.observe` carries a recipe out with any sink and keeps a log beside it: which rows have been
started, and which have been handed over, in what activation and with what fields. A row is logged
before the sink writes it, so that a write that fails is in the log too. `generate_eq_observe` says
that the log changes nothing: without it, the result and the sink's state are those of
`Recipe.generate`.
-/

namespace RecordRecipe

variable {σ : Type}

/-- The references that some fields hold, with the names of the fields. -/
def references (fields : Assoc FieldValue) : List (String × RowRef) :=
  fields.filterMap fun field => field.2.row?.map fun target => (field.1, target)

/-- The references of fields are those of which some field is one. -/
theorem mem_references {fields : Assoc FieldValue} {name : String} {target : RowRef} :
    (name, target) ∈ references fields ↔ (name, FieldValue.row target) ∈ fields := by
  rw [references, List.mem_filterMap]
  constructor
  · rintro ⟨⟨key, value⟩, hfield, hreference⟩
    cases value with
    | row found =>
        obtain ⟨rfl, rfl⟩ : key = name ∧ found = target := by
          simpa [FieldValue.row?] using hreference
        exact hfield
    | _ => simp [FieldValue.row?] at hreference
  · intro hfield
    exact ⟨(name, .row target), hfield, rfl⟩

/-- A row that is handed over, the activation that has made it, and its fields at that moment. -/
structure Handing where
  activation : Activation
  row : RowRef
  fields : Assoc FieldValue

/-- The row as the sink receives it. -/
def Handing.written (handing : Handing) : Row where
  table := handing.row.table
  id := handing.row.id
  fields := handing.fields

/-- The state of a sink and the log of a run. -/
structure Logged (σ : Type) where
  out : σ
  /-- The rows in the order of making. -/
  started : List RowRef := []
  /-- The rows in the order of handing over. -/
  handed : List Handing := []

namespace Logged

/-- Take note of the row of an activation. -/
def noteStarted (activation : Activation) (log : Logged σ) : Logged σ :=
  { log with started := log.started ++ activation.row.toList }

/-- Take note of a row that is handed over. -/
def noteHanded (handing : Handing) (log : Logged σ) : Logged σ :=
  { log with handed := log.handed ++ [handing] }

/-- Do something with the sink's state. -/
def onOut {α : Type} (action : Action σ α) : Action (Logged σ) α :=
  Action.onPart Logged.out (fun out log => { log with out }) action

end Logged

/-- The sink over its state with a log, of which it knows nothing. -/
def Sink.overLog (sink : Sink σ) : Sink (Logged σ) where
  name := sink.name
  encoders := sink.encoders
  declare := fun tables => Logged.onOut (sink.declare tables)
  counter? := fun log => sink.counter? log.out
  setCounter := fun counter log => { log with out := sink.setCounter counter log.out }
  store := fun table encoded => Logged.onOut (sink.store table encoded)
  flush := Logged.onOut sink.flush
  commit := Logged.onOut sink.commit
  close := Logged.onOut sink.close
  write := fun row => Logged.onOut (sink.write row)

/-- The desk of a sink that keeps a log. -/
def Sink.loggingDesk (sink : Sink σ) : Desk (Logged σ) where
  note := fun moment =>
    match moment with
    | .started activation =>
        Running.onOut (Action.modify (Logged.noteStarted activation))
    | .entered _ | .rendering _ | .rendered _ | .failed _ _ | .opened _ _ | .closed _ _ _
    | .left =>
        return ()
  hand := fun activation row => do
    let registry ← Running.registry
    Running.onOut (Action.modify (Logged.noteHanded ⟨activation, row, registry.fieldsOf row⟩))
    Running.write sink.overLog row

/-- Carry out a recipe with a sink and keep a log. -/
def Recipe.observe (recipe : Recipe) (request : Request) (sink : Sink σ) (out : σ) :
    Except Error Summary × Machine (Logged σ) :=
  recipe.carryOut request sink.overLog sink.loggingDesk (request.start { out })

/-- A run ends as it does with a log beside the sink. -/
theorem generate_eq_observe (recipe : Recipe) (request : Request) (sink : Sink σ) (out : σ) :
    recipe.generate request sink out =
      ((recipe.observe request sink out).1, (recipe.observe request sink out).2.out.out) := by
  have hwrite : ∀ row, Action.Mirrors Logged.out (sink.write row) (sink.overLog.write row) :=
    fun _ _ => rfl
  refine Recipe.generate_mirrors Logged.out ?_ ?_ ?_ ?_ recipe request { out }
  · rintro (_ | _ | _ | _ | _ | _ | _ | _) machine <;> rfl
  · intro activation row machine
    let handing : Handing := ⟨activation, row, machine.registry.fieldsOf row⟩
    exact Action.Mirrors.write hwrite row { machine with out := machine.out.noteHanded handing }
  · exact fun _ _ => rfl
  · exact fun _ => rfl

end RecordRecipe
