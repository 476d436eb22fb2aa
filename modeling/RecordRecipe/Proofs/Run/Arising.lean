import RecordRecipe.Proofs.Run.Ledger
import RecordRecipe.Proofs.Run.Watch

/-!
# The registries that come about in runs

A registry changes in few ways: rows are started, fields of rows are set, references are noted and
random numbers are drawn. `Recipe.registries_arise` says that every registry that is seen in a run
has come about in these ways, so that a statement about the registries of runs is proved by
induction on `Registry.Arises`. The first such statement is that no name stands twice: not among the
nicknames, not among the tables with a latest row, and not among the fields of a row. Where a
statement hangs on what stands in the templates, `Registry.Kept.watch` says that it holds throughout
a run if every step keeps it.
-/

namespace RecordRecipe

open RecordRecipe.Random (Generator)

variable {σ : Type}

namespace Registry

/-- The registries that come about in runs. -/
inductive Arises : Registry → Prop where
  | start (generator : Generator) : Arises { generator }
  | draw {registry : Registry} (generator : Generator) (hbefore : Arises registry) :
      Arises { registry with generator }
  | startRow {registry : Registry} (table : String) (nickname : Option String)
      (hbefore : Arises registry) : Arises (registry.startRow table nickname).2
  | setField {registry : Registry} (row : RowRef) (name : String) (value : FieldValue)
      (hbefore : Arises registry) : Arises (registry.setField row name value)
  | noteReferences {registry : Registry} (row : RowRef) (hbefore : Arises registry) :
      Arises (registry.noteReferences row)

/-! ## The fields of all rows -/

section Rows

variable {registry : Registry} {P : Assoc FieldValue → Prop}

/-- What holds of the fields of all rows holds of those of a row, also of one that the run has not
made. -/
theorem fieldsOf_of_rows (hempty : P []) (h : ∀ fields ∈ registry.rows, P fields) (row : RowRef) :
    P (registry.fieldsOf row) := by
  unfold Registry.fieldsOf
  cases row.origin with
  | given index => exact hempty
  | made index =>
      by_cases hindex : index < registry.rows.size
      · have hfields := h registry.rows[index] (Array.getElem_mem hindex)
        simpa [Array.getD, hindex] using hfields
      · simpa [Array.getD, hindex] using hempty

/-- A row that is started has no fields. -/
theorem forall_rows_startRow (hempty : P []) (h : ∀ fields ∈ registry.rows, P fields)
    (table : String) (nickname : Option String) :
    ∀ fields ∈ (registry.startRow table nickname).2.rows, P fields := by
  intro fields hfields
  rw [startRow_rows] at hfields
  obtain hfields | rfl := Array.mem_push.mp hfields
  · exact h fields hfields
  · exact hempty

/-- A field is put to those that its row has. -/
theorem forall_rows_setField {name : String} {value : FieldValue}
    (hput : ∀ fields, P fields → P (Assoc.put name value fields))
    (h : ∀ fields ∈ registry.rows, P fields) (row : RowRef) :
    ∀ fields ∈ (registry.setField row name value).rows, P fields := by
  unfold Registry.setField
  cases row.origin with
  | given index => exact h
  | made index =>
      intro fields hfields
      obtain ⟨position, hposition, rfl⟩ := Array.mem_iff_getElem.mp hfields
      have hbefore := h _ (Array.getElem_mem (by simpa using hposition))
      rw [Array.getElem_modify]
      split
      · exact hput _ hbefore
      · exact hbefore

end Rows

/-- No name stands twice in a registry. -/
structure Unambiguous (registry : Registry) : Prop where
  nicknames : registry.nicknames.keys.Nodup
  latest : registry.latest.keys.Nodup
  rows : ∀ fields ∈ registry.rows, Assoc.keys fields |>.Nodup

namespace Unambiguous

variable {registry : Registry}

/-- No field of a row stands twice. -/
theorem fieldsOf (h : registry.Unambiguous) (row : RowRef) :
    (registry.fieldsOf row).keys.Nodup :=
  fieldsOf_of_rows (P := fun fields => (Assoc.keys fields).Nodup) List.nodup_nil h.rows row

/-- No name stands twice after a row has been started. -/
theorem startRow (h : registry.Unambiguous) (table : String) (nickname : Option String) :
    (registry.startRow table nickname).2.Unambiguous where
  nicknames := by
    cases nickname with
    | none => exact h.nicknames
    | some name => exact Assoc.nodup_keys_put h.nicknames
  latest := by
    rw [startRow_latest]
    exact Assoc.nodup_keys_put h.latest
  rows := forall_rows_startRow (P := fun fields => (Assoc.keys fields).Nodup) List.nodup_nil h.rows
    table nickname

/-- No name stands twice after a field has been set. -/
theorem setField (h : registry.Unambiguous) (row : RowRef) (name : String) (value : FieldValue) :
    (registry.setField row name value).Unambiguous where
  nicknames := by
    rw [setField_nicknames]
    exact h.nicknames
  latest := by
    rw [setField_latest]
    exact h.latest
  rows := by
    have hput (fields : Assoc FieldValue) (hfields : fields.keys.Nodup) :
        (Assoc.put name value fields).keys.Nodup := Assoc.nodup_keys_put hfields
    exact forall_rows_setField hput h.rows row

end Unambiguous

/-- No name stands twice in a registry that has come about in a run. -/
theorem Arises.unambiguous {registry : Registry} (h : registry.Arises) : registry.Unambiguous := by
  induction h with
  | start generator => exact ⟨List.nodup_nil, List.nodup_nil, by simp⟩
  | draw generator _ ih => exact ⟨ih.nicknames, ih.latest, ih.rows⟩
  | startRow table nickname _ ih => exact ih.startRow table nickname
  | setField row name value _ ih => exact ih.setField row name value
  | noteReferences row _ ih => exact ⟨ih.nicknames, ih.latest, ih.rows⟩

end Registry

/-- What every step of a run keeps about its registry, where fields keep to rules. -/
structure Registry.Kept (rules : Rules) (P : Registry → Prop) : Prop where
  start : ∀ generator, P { generator }
  draw : ∀ {registry : Registry} (generator : Generator), P registry →
    P { registry with generator }
  startRow : ∀ {registry : Registry} (table : String) (nickname : Option String), P registry →
    P (registry.startRow table nickname).2
  setField : ∀ {registry : Registry} (row : RowRef) (name : String) (value : FieldValue),
    rules.field row.table name → P registry → P (registry.setField row name value)
  noteReferences : ∀ {registry : Registry} (row : RowRef), P registry →
    P (registry.noteReferences row)

/-- Registries come about, whatever the fields are. -/
theorem Registry.Arises.kept : Registry.Kept Rules.all Registry.Arises where
  start := .start
  draw := .draw
  startRow := .startRow
  setField := fun row name value _ hbefore => .setField row name value hbefore
  noteReferences := .noteReferences

/-- Something holds of the registry and of every one that has been seen. -/
structure Machine.Holds (P : Registry → Prop) (machine : Machine (Watched σ)) : Prop where
  registry : P machine.registry
  sightings : ∀ sighting ∈ machine.out.sightings, P sighting.registry

/-- The registry has come about in a run, and so has every one that has been seen. -/
structure Machine.Arose (machine : Machine (Watched σ)) : Prop where
  registry : machine.registry.Arises
  sightings : ∀ sighting ∈ machine.out.sightings, sighting.registry.Arises

/-- A moment is seen. -/
theorem Machine.Holds.see {P : Registry → Prop} {machine : Machine (Watched σ)}
    (h : machine.Holds P) (moment : Moment) :
    ({ machine with out := machine.out.see moment machine.registry }).Holds P where
  registry := h.registry
  sightings := by
    intro sighting hsighting
    obtain hbefore | hnow := List.mem_append.mp hsighting
    · exact h.sightings sighting hbefore
    · rw [List.mem_singleton.mp hnow]
      exact h.registry

namespace Simulation

/-- A run that is watched, beside itself, with something that holds of its registries. -/
def keeping (rules : Rules) (P : Registry → Prop) (setting : Setting) (sink : Sink σ) :
    Simulation (Watched σ) (Watched σ) where
  rules := rules
  setting := setting
  left := sink.watchingDesk
  right := sink.watchingDesk
  rel := fun _ machine other => machine = other ∧ machine.Holds P
  known := fun _ _ => True
  broken := fun machine other => machine = other ∧ machine.Holds P

variable {rules : Rules} {P : Registry → Prop} {setting : Setting} {sink : Sink σ}
  {machine : Machine (Watched σ)}

/-- A moment is seen on both sides. -/
theorem keeping_note (frames : List Frame) (moment : Moment) (h : machine.Holds P) :
    (keeping rules P setting sink).Outcome (fun _ => True) frames SamePlain
      (sink.watchingDesk.note moment machine) (sink.watchingDesk.note moment machine) :=
  .ok () () _ _ ⟨rfl, h.see moment⟩ (fun _ hknown => hknown) rfl

/-- What a sink does leaves the registries as they are. -/
theorem keeping_onOut (frames : List Frame) (action : Action σ Unit) (h : machine.Holds P) :
    (keeping rules P setting sink).Outcome (fun _ => True) frames SamePlain
      (Running.onOut (Watched.unseen action) machine)
      (Running.onOut (Watched.unseen action) machine) := by
  rw [Machine.onOut_unseen]
  generalize action machine.out.out = run
  obtain ⟨answer, out⟩ := run
  have hafter : ({ machine with out := machine.out.setOut out }).Holds P :=
    ⟨h.registry, h.sightings⟩
  cases answer with
  | ok done => exact .ok () () _ _ ⟨rfl, hafter⟩ (fun _ hknown => hknown) rfl
  | error error => exact .error error _ _ (.inr ⟨rfl, hafter⟩)

/-- What every step keeps holds step by step. -/
theorem keeping_lawful (hkept : Registry.Kept rules P) :
    (keeping rules P setting sink).Lawful where
  patient := .of_never fun _ _ hahead => hahead
  registry_eq := fun hrel => congrArg Machine.registry hrel.1
  registry_within := fun _ =>
    ⟨fun _ _ => trivial, fun _ _ => trivial, fun _ _ _ _ => within_true _⟩
  surrounded := fun _ => surrounded_true _ _
  draw := by
    rintro frames machine _ generator ⟨rfl, hholds⟩
    have hdrawn : (machine.withGenerator generator).Holds P :=
      ⟨hkept.draw generator hholds.registry, hholds.sightings⟩
    exact ⟨⟨rfl, hdrawn⟩, fun _ hknown => hknown⟩
  enter := by
    rintro frames machine _ template ⟨rfl, hholds⟩
    exact keeping_note _ (.entered template) hholds
  render := by
    rintro frame frames machine _ moment ⟨rfl, hholds⟩ _
    exact keeping_note _ moment hholds
  failed := by
    intro machine other activation error hfailed
    have hbroken : machine = other ∧ machine.Holds P := by
      rcases hfailed with ⟨_, hrel⟩ | hbroken
      · exact hrel
      · exact hbroken
    obtain ⟨rfl, hholds⟩ := hbroken
    exact .inr ⟨rfl, hholds.see _⟩
  start := by
    rintro table enclosing started frames machine _ nickname ⟨rfl, hholds⟩ _ row rfl
    have hstarted : (machine.startRow table nickname).Holds P :=
      ⟨hkept.startRow table nickname hholds.registry, hholds.sightings⟩
    exact keeping_note _ _ hstarted
  setField := by
    rintro table enclosing number row frames machine _ name value ⟨rfl, hholds⟩ hfield _
    have hset : (machine.setField row name value).Holds P :=
      ⟨hkept.setField row name value hfield hholds.registry, hholds.sightings⟩
    exact ⟨⟨rfl, hset⟩, fun _ hknown => hknown⟩
  hand := by
    rintro table enclosing number row frames machine _ ⟨rfl, hholds⟩
    have hnoted : (machine.noteReferences row).Holds P :=
      ⟨hkept.noteReferences row hholds.registry, hholds.sightings⟩
    -- The sink knows nothing of what has been seen.
    change Outcome _ _ _ _ (Running.onOut (sink.watched.write _) (machine.noteReferences row))
      (Running.onOut (sink.watched.write _) (machine.noteReferences row))
    rw [Sink.watched_write]
    exact keeping_onOut _ (sink.write _) hnoted
  leave := fun hrel => hrel
  exit := by
    rintro table enclosing started frames machine _ ⟨rfl, hholds⟩
    exact keeping_note _ .left hholds

/-- Whatever is done in a run of templates that keep to the rules, it holds. -/
theorem carryOutWith_keeping (hkept : Registry.Kept rules P) {recipe : Recipe}
    (hobeys : ∀ template ∈ recipe.templates, template.Obeys rules) (request : Request)
    (merged : MergedOptions) (sink : Sink σ) (out : σ) :
    (keeping rules P (request.setting merged) sink).Outcome (fun _ => True) [] SamePlain
      (recipe.carryOutWith request merged sink.watched sink.watchingDesk (request.start { out }))
      (recipe.carryOutWith request merged sink.watched sink.watchingDesk
        (request.start { out })) := by
  have hstart : (request.start (Watched.mk out [] [])).Holds P :=
    ⟨hkept.start request.generator, List.forall_mem_nil _⟩
  refine carryOutWith_agrees (keeping_lawful hkept) rfl hobeys ?_ ?_
  · rw [Sink.watched_declare]
    exact keeping_onOut _ (sink.declare recipe.tables) hstart
  · refine ⟨?_, fun _ _ hahead => hahead.elim⟩
    rintro machine _ ⟨rfl, hholds⟩ _
    rw [Sink.watched_flush]
    exact keeping_onOut _ sink.flush hholds

end Simulation

/-- What every step keeps holds of every registry that is seen in a run of templates that keep to
the rules, and of the one that the run ends with. -/
theorem Registry.Kept.watch {rules : Rules} {P : Registry → Prop} (hkept : Registry.Kept rules P)
    {recipe : Recipe} (hobeys : ∀ template ∈ recipe.templates, template.Obeys rules)
    (request : Request) (sink : Sink σ) (out : σ) :
    (recipe.watch request sink out).2.Holds P := by
  unfold Recipe.watch
  cases hmerged : mergeOptions recipe.options request.options with
  | error error =>
      rw [Recipe.carryOut_eq_fail hmerged]
      exact ⟨hkept.start request.generator, List.forall_mem_nil _⟩
  | ok merged =>
      have hrun := Simulation.carryOutWith_keeping hkept hobeys request merged sink out
      rw [Recipe.carryOut_eq hmerged]
      generalize recipe.carryOutWith request merged sink.watched sink.watchingDesk
        (request.start { out }) = run at hrun ⊢
      cases hrun with
      | ok _ _ machine _ hrel _ _ => exact hrel.2
      | error error machine _ hfailed =>
          obtain ⟨_, _, hholds⟩ | ⟨_, hholds⟩ := hfailed
          · exact hholds
          · exact hholds
      | behind error machine result other hahead _ => exact hahead.elim

/-- Every registry that is seen in a run has come about in the ways of runs, and so has the one that
the run ends with. -/
theorem Recipe.registries_arise (recipe : Recipe) (request : Request) (sink : Sink σ) (out : σ) :
    (recipe.watch request sink out).2.Arose := by
  have hholds : (recipe.watch request sink out).2.Holds Registry.Arises :=
    Registry.Arises.kept.watch (fun template _ => template.obeys_all) request sink out
  exact ⟨hholds.registry, hholds.sightings⟩

end RecordRecipe
