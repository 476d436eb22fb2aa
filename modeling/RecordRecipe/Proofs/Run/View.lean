import RecordRecipe.Proofs.Run.Row

/-!
# Runs seen through a map

A sink may keep more than another one and do the same with the rest. Then runs do so as well:
`carryOut_mirrors` says that a run with the one, seen through a map between the states, is the run
with the other, and `generate_mirrors` says what this means for a sink alone.
-/

namespace RecordRecipe

variable {σ τ α β : Type}

/-- A computation, seen through a map between states, does the same as another one. -/
def Action.Mirrors (view : τ → σ) (first : Action σ α) (second : Action τ α) : Prop :=
  ∀ state, first (view state) = ((second state).1, view (second state).2)

/-- The sink over a state of which its own is a part. -/
def Sink.onPart (part : τ → σ) (setPart : σ → τ → τ) (sink : Sink σ) : Sink τ where
  name := sink.name
  encoders := sink.encoders
  declare := fun tables => Action.onPart part setPart (sink.declare tables)
  counter? := fun state => sink.counter? (part state)
  setCounter := fun counter state => setPart (sink.setCounter counter (part state)) state
  store := fun table encoded => Action.onPart part setPart (sink.store table encoded)
  flush := Action.onPart part setPart sink.flush
  commit := Action.onPart part setPart sink.commit
  close := Action.onPart part setPart sink.close
  write := fun row => Action.onPart part setPart (sink.write row)

/-- The state with the sink's state seen through a map. -/
def Machine.view (view : τ → σ) (machine : Machine τ) : Machine σ where
  registry := machine.registry
  out := view machine.out

namespace Action.Mirrors

variable {view : τ → σ}

/-- What is the same at every step is the same as a whole. -/
theorem bind {first : Action σ α} {second : Action τ α} {next : α → Action σ β}
    {follow : α → Action τ β} (hfirst : Mirrors view first second)
    (hnext : ∀ a, Mirrors view (next a) (follow a)) :
    Mirrors view (first >>= next) (second >>= follow) := by
  intro state
  rw [Action.bind_apply, Action.bind_apply, hfirst state]
  obtain ⟨result, last⟩ := second state
  cases result with
  | ok a => exact hnext a last
  | error error => rfl

/-- What is the same for the sinks is the same for the runs. -/
theorem onOut {first : Action σ α} {second : Action τ α} (h : Mirrors view first second) :
    Mirrors (Machine.view view) (Running.onOut first) (Running.onOut second) := by
  intro machine
  have hout := h machine.out
  unfold Running.onOut Action.onPart Machine.view
  dsimp only
  rw [hout]

/-- A row is written in the same way if the sinks do so. -/
theorem write {sink : Sink σ} {second : Sink τ}
    (h : ∀ row, Mirrors view (sink.write row) (second.write row)) (row : RowRef) :
    Mirrors (Machine.view view) (Running.write sink row) (Running.write second row) := by
  intro machine
  let noted : Machine τ := { machine with registry := machine.registry.noteReferences row }
  exact (h ⟨row.table, row.id, noted.registry.fieldsOf row⟩).onOut noted

end Action.Mirrors

namespace Simulation

/-- A run, and a run that is the same seen through a map. -/
def viewed (setting : Setting) (view : τ → σ) (left : Desk σ) (right : Desk τ) :
    Simulation σ τ where
  rules := Rules.all
  setting := setting
  left := left
  right := right
  rel := fun _ machine other => machine = other.view view
  known := fun _ _ => True

variable {setting : Setting} {view : τ → σ} {left : Desk σ} {right : Desk τ}

/-- What mirrors something else ends alike. -/
theorem mirrors_outcome {first : Running σ α} {second : Running τ α}
    (h : Action.Mirrors (Machine.view view) first second) {known : RowRef → Prop}
    (machine : Machine τ) (frames : List Frame) :
    (viewed setting view left right).Outcome known frames SamePlain
      (first (machine.view view)) (second machine) := by
  rw [h machine]
  obtain ⟨result, last⟩ := second machine
  cases result with
  | ok a => exact .ok a a _ last rfl (fun _ _ => trivial) rfl
  | error error => exact .error error _ last (.inl ⟨frames, rfl⟩)

/-- What mirrors something else agrees with it. -/
theorem mirrors_agrees {first : Running σ α} {second : Running τ α}
    (h : Action.Mirrors (Machine.view view) first second) (frames : List Frame) :
    (viewed setting view left right).Agree frames SamePlain first second where
  outcome := by
    rintro _ other rfl _
    exact mirrors_outcome h other frames
  goesOn := fun _ _ hahead => hahead.elim

/-- Desks that do the same lead to runs that do the same. -/
theorem viewed_lawful
    (hnote : ∀ moment, Action.Mirrors (Machine.view view) (left.note moment) (right.note moment))
    (hhand : ∀ activation row,
      Action.Mirrors (Machine.view view) (left.hand activation row) (right.hand activation row)) :
    (viewed setting view left right).Lawful where
  patient := .of_never fun _ _ hahead => hahead
  registry_eq := by
    rintro _ _ other rfl
    rfl
  registry_within := fun _ =>
    ⟨fun _ _ => trivial, fun _ _ => trivial, fun _ _ _ _ => within_true _⟩
  surrounded := fun _ => surrounded_true _ _
  draw := by
    rintro _ _ other generator rfl
    exact ⟨rfl, fun _ h => h⟩
  enter := by
    rintro _ _ other table rfl
    exact mirrors_outcome (hnote _) other _
  render := by
    rintro _ _ _ other moment rfl _
    exact mirrors_outcome (hnote _) other _
  failed := by
    rintro _ other activation error (⟨frames, rfl⟩ | hbroken)
    · refine .inl ⟨frames, ?_⟩
      exact congrArg Prod.snd (hnote (.failed activation error) other)
    · exact hbroken.elim
  start := by
    rintro table _ _ _ _ other nickname rfl _ row rfl
    exact mirrors_outcome (hnote _) (other.startRow table nickname) _
  setField := by
    rintro _ _ _ _ _ _ other name value rfl _ _
    exact ⟨rfl, fun _ h => h⟩
  hand := by
    rintro _ _ _ _ _ _ other rfl
    exact mirrors_outcome (hhand _ _) other _
  leave := fun hrel => hrel
  exit := by
    rintro _ _ _ _ _ other rfl
    exact mirrors_outcome (hnote _) other _

end Simulation

/-- A run whose sink and whose desk do the same, seen through a map, does the same. -/
theorem Recipe.carryOut_mirrors {view : τ → σ} {left : Desk σ} {right : Desk τ} {sink : Sink σ}
    {second : Sink τ}
    (hnote : ∀ moment, Action.Mirrors (Machine.view view) (left.note moment) (right.note moment))
    (hhand : ∀ activation row,
      Action.Mirrors (Machine.view view) (left.hand activation row) (right.hand activation row))
    (hdeclare : ∀ tables, Action.Mirrors view (sink.declare tables) (second.declare tables))
    (hflush : Action.Mirrors view sink.flush second.flush) (recipe : Recipe) (request : Request) :
    Action.Mirrors (Machine.view view) (recipe.carryOut request sink left)
      (recipe.carryOut request second right) := by
  -- The options settle in the same way, and from there on the simulation takes over.
  refine Action.Mirrors.bind (fun _ => rfl) fun merged machine => ?_
  have houtcome : (Simulation.viewed (request.setting merged) view left right).Outcome
      (fun _ => True) [] Simulation.SamePlain
      (recipe.carryOutWith request merged sink left (machine.view view))
      (recipe.carryOutWith request merged second right machine) := by
    refine Simulation.carryOutWith_agrees (Simulation.viewed_lawful hnote hhand) rfl
      (fun template _ => template.obeys_all) ?_ ?_
    · exact Simulation.mirrors_outcome (hdeclare recipe.tables).onOut machine []
    · exact Simulation.mirrors_agrees hflush.onOut []
  generalize recipe.carryOutWith request merged sink left (machine.view view) = first at houtcome ⊢
  generalize recipe.carryOutWith request merged second right machine = last at houtcome ⊢
  cases houtcome with
  | ok a b _ other hrel _ hresult =>
      obtain rfl : a = b := hresult
      obtain rfl : _ = other.view view := hrel
      rfl
  | error error _ other hfailed =>
      obtain ⟨_, hrel⟩ | hbroken := hfailed
      · obtain rfl : _ = other.view view := hrel
        rfl
      · exact hbroken.elim
  | behind _ _ _ _ hahead => exact hahead.elim

/-- A run with a sink is what is seen of a run with the larger state, whose desk does the same. -/
theorem Recipe.generate_mirrors (view : τ → σ) {sink : Sink σ} {second : Sink τ} {desk : Desk τ}
    (hnote : ∀ moment, Action.Mirrors (Machine.view view) (sink.desk.note moment) (desk.note moment))
    (hhand : ∀ activation row,
      Action.Mirrors (Machine.view view) (Running.write sink row) (desk.hand activation row))
    (hdeclare : ∀ tables, Action.Mirrors view (sink.declare tables) (second.declare tables))
    (hflush : Action.Mirrors view sink.flush second.flush) (recipe : Recipe) (request : Request)
    (out : τ) :
    recipe.generate request sink (view out) =
      ((recipe.carryOut request second desk (request.start out)).1,
        view (recipe.carryOut request second desk (request.start out)).2.out) := by
  have hmirrors : Action.Mirrors (Machine.view view) (recipe.carryOut request sink sink.desk)
      (recipe.carryOut request second desk) :=
    Recipe.carryOut_mirrors hnote hhand hdeclare hflush recipe request
  exact congrArg (fun run => (run.1, run.2.out)) (hmirrors (request.start out))

end RecordRecipe
