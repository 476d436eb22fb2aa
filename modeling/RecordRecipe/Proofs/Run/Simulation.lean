import RecordRecipe.Proofs.Containment.Scope
import RecordRecipe.Run.Row

/-!
# Two runs side by side

A `Simulation` relates the states of two runs that differ in their desks alone. The activations that
have begun and not ended form a stack of frames; a relation between states speaks of them as well,
so that it can say which rows are still to be handed over. `Simulation.Lawful` lists what a
simulation has to show for the elementary steps of a run. `Simulation.Leads` is what follows for
whole parts of a run: from related states both give the same, or both fail with the same error, or
else the left run has failed where the right run goes on ahead of it. With one desk on both sides, a
simulation is an invariant.
-/

namespace RecordRecipe

open RecordRecipe.Random (Generator)

/-- An activation that has begun and not ended. -/
structure Frame where
  activation : Activation
  /-- Has its row been handed over? The friends of a row are made after that. -/
  handed : Bool

namespace Frame

/-- The frame of an activation between its rows. -/
def between (table : String) (enclosing : List RowRef) (started : Nat) : Frame where
  activation := { table, started, enclosing }
  handed := false

/-- The frame of an activation with a row. -/
def ofRow (table : String) (enclosing : List RowRef) (number : Nat) (row : RowRef)
    (handed : Bool) : Frame where
  activation := .ofRow table enclosing number row
  handed := handed

end Frame

/-- The activation in which something is being rendered at a moment. -/
def Moment.rendersIn? : Moment → Option Activation
  | .rendering activation | .rendered activation => some activation
  | .opened activation _ | .closed activation _ _ => some activation
  | .entered _ | .failed _ _ | .started _ | .left => none

/-- The rows around what is made next, in the innermost of some activations. -/
def rowsOf : List Frame → List RowRef
  | [] => []
  | frame :: _ => frame.activation.rows

/-- What stands in the templates of a recipe. -/
structure Rules where
  /-- The values that may be written out. -/
  literal : FieldValue → Prop
  /-- The tables that rows may belong to. -/
  table : String → Prop
  /-- The fields that the rows of a table may have. -/
  field : String → String → Prop

/-- Rules that allow everything. -/
def Rules.all : Rules where
  literal := fun _ => True
  table := fun _ => True
  field := fun _ _ => True

variable {σ τ α β : Type}

namespace Machine

/-- The state with other random numbers. -/
def withGenerator (generator : Generator) (machine : Machine σ) : Machine σ :=
  { machine with registry := { machine.registry with generator } }

/-- The state with a field of a row set. -/
def setField (row : RowRef) (name : String) (value : FieldValue) (machine : Machine σ) :
    Machine σ :=
  { machine with registry := machine.registry.setField row name value }

/-- The state when the references of a row have been noted. -/
def noteReferences (row : RowRef) (machine : Machine σ) : Machine σ :=
  { machine with registry := machine.registry.noteReferences row }

/-- The state after a row of a table has been started. -/
def startRow (table : String) (nickname : Option String) (machine : Machine σ) : Machine σ :=
  { machine with registry := (machine.registry.startRow table nickname).2 }

end Machine

/-- Runs that differ in their desks, and a relation between their states. -/
structure Simulation (σ τ : Type) where
  rules : Rules
  setting : Setting
  left : Desk σ
  right : Desk τ
  /-- The states that belong together within some activations. -/
  rel : List Frame → Machine σ → Machine τ → Prop
  /-- The rows that may be referenced. -/
  known : Machine σ → RowRef → Prop
  /-- The states that belong together where something outside of the runs has failed. -/
  broken : Machine σ → Machine τ → Prop := fun _ _ => False
  /-- The left run has failed in a state, and the right run may still go on. -/
  ahead : Machine σ → τ → Prop := fun _ _ => False

namespace Simulation

/-- Two runs have failed in states that belong together. -/
def Failed (S : Simulation σ τ) (machine : Machine σ) (other : Machine τ) : Prop :=
  (∃ frames, S.rel frames machine other) ∨ S.broken machine other

/-- Rows that are known in a state are known in a later one. -/
def Grows (S : Simulation σ τ) (before after : Machine σ) : Prop :=
  ∀ row, S.known before row → S.known after row

/-- Two parts of a run end alike: both with results that belong together, or both with the same
error, or the left one with an error and the right one ahead of it. The relation between results may
depend on the rows that are known by then, among them some that have been known before. -/
inductive Outcome (S : Simulation σ τ) (known : RowRef → Prop) (frames : List Frame)
    (R : (RowRef → Prop) → α → β → Prop) :
    Except Error α × Machine σ → Except Error β × Machine τ → Prop where
  | ok (a : α) (b : β) (machine : Machine σ) (other : Machine τ)
      (hrel : S.rel frames machine other) (hgrows : ∀ row, known row → S.known machine row)
      (hresult : R (S.known machine) a b) :
      Outcome S known frames R (.ok a, machine) (.ok b, other)
  | error (error : Error) (machine : Machine σ) (other : Machine τ)
      (hfailed : S.Failed machine other) :
      Outcome S known frames R (.error error, machine) (.error error, other)
  | behind (error : Error) (machine : Machine σ) (result : Except Error β) (other : Machine τ)
      (hahead : S.ahead machine other.out)
      (hresult : ∀ b, result = .ok b → ∃ a, R (fun _ => True) a b) :
      Outcome S known frames R (.error error, machine) (result, other)

/-- A part of a run stays ahead of a run that has failed, and gives what such a part may give. -/
def GoesOn (S : Simulation σ τ) (R : (RowRef → Prop) → α → β → Prop) (second : Running τ β) :
    Prop :=
  ∀ machine other, S.ahead machine other.out → S.ahead machine (second other).2.out ∧
    ∀ b, (second other).1 = .ok b → ∃ a, R (fun _ => True) a b

/-- Two parts of runs end alike wherever they start alike with some rows known, and lead from some
activations to some activations. -/
structure Leads (S : Simulation σ τ) (known : RowRef → Prop) (before after : List Frame)
    (R : (RowRef → Prop) → α → β → Prop) (first : Running σ α) (second : Running τ β) :
    Prop where
  outcome : ∀ machine other, S.rel before machine other →
    (∀ row, known row → S.known machine row) →
      S.Outcome (S.known machine) after R (first machine) (second other)
  goesOn : S.GoesOn R second

/-- Two parts of runs end alike wherever they start alike, and end in the activations they were
in. -/
abbrev Agree (S : Simulation σ τ) (frames : List Frame) (R : (RowRef → Prop) → α → β → Prop)
    (first : Running σ α) (second : Running τ β) : Prop :=
  S.Leads (fun _ => False) frames frames R first second

/-- The same value, with references to known rows alone. -/
def SameValue (known : RowRef → Prop) (value other : FieldValue) : Prop :=
  value = other ∧ value.Within known

/-- The same thing, which holds no references. -/
def SamePlain (_ : RowRef → Prop) (a b : α) : Prop := a = b

/-- The same known row. -/
def SameRow (known : RowRef → Prop) (row other : RowRef) : Prop := row = other ∧ known row

/-- Results that belong together still do when more rows are known. -/
def Lasts (R : (RowRef → Prop) → α → β → Prop) : Prop :=
  ∀ ⦃known later⦄ ⦃a b⦄, (∀ row, known row → later row) → R known a b → R later a b

theorem Lasts.value : Lasts SameValue := fun _ _ _ _ hlater h => ⟨h.1, h.2.mono hlater⟩

theorem Lasts.plain : Lasts (SamePlain (α := α)) := fun _ _ _ _ _ h => h

/-- Two ways to render one value. -/
abbrev Renders (S : Simulation σ τ) (frames : List Frame) (first : Running σ FieldValue)
    (second : Running τ FieldValue) : Prop :=
  S.Agree frames SameValue first second

/-- What a right run does keeps it ahead of a left run that has failed. -/
structure Patient (S : Simulation σ τ) : Prop where
  note : ∀ {machine} {other : Machine τ} (moment : Moment), S.ahead machine other.out →
    S.ahead machine (S.right.note moment other).2.out
  hand : ∀ {machine} {other : Machine τ} (activation : Activation) (row : RowRef),
    S.ahead machine other.out → S.ahead machine (S.right.hand activation row other).2.out
  /-- The left run takes note of its failure. -/
  failed : ∀ {machine} {out : τ} (activation : Activation) (error : Error), S.ahead machine out →
    S.ahead (S.left.note (.failed activation error) machine).2 out

/-- Runs of which neither gets ahead of the other. -/
theorem Patient.of_never {S : Simulation σ τ} (h : ∀ machine out, ¬ S.ahead machine out) :
    S.Patient where
  note := fun _ hahead => (h _ _ hahead).elim
  hand := fun _ _ hahead => (h _ _ hahead).elim
  failed := fun _ _ hahead => (h _ _ hahead).elim

/-- What is around a part of a run keeps to some rows. -/
structure Surrounded (S : Simulation σ τ) (frames : List Frame) (known : RowRef → Prop) :
    Prop where
  setting : S.setting.Within known
  literal : ∀ value, S.rules.literal value → value.Within known
  rows : ∀ row ∈ rowsOf frames, known row

/-- What a simulation has to show for what is only looked up and drawn in a run. -/
structure Observant (S : Simulation σ τ) : Prop where
  registry_eq : ∀ {frames machine other}, S.rel frames machine other →
    machine.registry = other.registry
  registry_within : ∀ {frames machine other}, S.rel frames machine other →
    machine.registry.Within (S.known machine)
  surrounded : ∀ {frames machine other}, S.rel frames machine other →
    S.Surrounded frames (S.known machine)
  /-- Random numbers are drawn. -/
  draw : ∀ {frames machine other} (generator : Generator), S.rel frames machine other →
    S.rel frames (machine.withGenerator generator) (other.withGenerator generator) ∧
      S.Grows machine (machine.withGenerator generator)

/-- What a simulation has to show for the elementary steps of runs. -/
structure Lawful (S : Simulation σ τ) : Prop extends S.Observant where
  patient : S.Patient
  /-- An activation begins. -/
  enter : ∀ {frames machine other} (template : Template), S.rel frames machine other →
    S.Outcome (S.known machine) (.between template.table (rowsOf frames) 0 :: frames) SamePlain
      (S.left.note (.entered template) machine) (S.right.note (.entered template) other)
  /-- Note is taken of something that is being rendered. -/
  render : ∀ {frame frames machine other moment}, S.rel (frame :: frames) machine other →
    moment.rendersIn? = some frame.activation →
      S.Outcome (S.known machine) (frame :: frames) SamePlain (S.left.note moment machine)
        (S.right.note moment other)
  /-- Note is taken of a failure. -/
  failed : ∀ {machine other} (activation : Activation) (error : Error), S.Failed machine other →
    S.Failed (S.left.note (.failed activation error) machine).2
      (S.right.note (.failed activation error) other).2
  /-- The next row of an activation is started. -/
  start : ∀ {table enclosing started frames machine other} (nickname : Option String),
    S.rel (.between table enclosing started :: frames) machine other → S.rules.table table →
      ∀ row, row = (machine.registry.startRow table nickname).1 →
        S.Outcome (S.known machine) (.ofRow table enclosing (started + 1) row false :: frames)
          SamePlain
          (S.left.note (.started (.ofRow table enclosing (started + 1) row))
            (machine.startRow table nickname))
          (S.right.note (.started (.ofRow table enclosing (started + 1) row))
            (other.startRow table nickname))
  /-- A field of the row is set. -/
  setField : ∀ {table enclosing number row frames machine other} (name : String)
    (value : FieldValue), S.rel (.ofRow table enclosing number row false :: frames) machine other →
      S.rules.field row.table name → value.Within (S.known machine) →
        S.rel (.ofRow table enclosing number row false :: frames) (machine.setField row name value)
          (other.setField row name value) ∧ S.Grows machine (machine.setField row name value)
  /-- The row is handed over. -/
  hand : ∀ {table enclosing number row frames machine other},
    S.rel (.ofRow table enclosing number row false :: frames) machine other →
      S.Outcome (S.known machine) (.ofRow table enclosing number row true :: frames) SamePlain
        (S.left.hand (.ofRow table enclosing number row) row machine)
        (S.right.hand (.ofRow table enclosing number row) row other)
  /-- A row that has been handed over is left. -/
  leave : ∀ {table enclosing number row frames machine other},
    S.rel (.ofRow table enclosing number row true :: frames) machine other →
      S.rel (.between table enclosing number :: frames) machine other
  /-- An activation ends. -/
  exit : ∀ {table enclosing started frames machine other},
    S.rel (.between table enclosing started :: frames) machine other →
      S.Outcome (S.known machine) frames SamePlain (S.left.note .left machine)
        (S.right.note .left other)

/-- Any value lies within all rows. -/
theorem within_true (value : FieldValue) : value.Within fun _ => True :=
  FieldValue.within_iff.mpr fun _ _ => trivial

/-- Whatever is around a part of a run keeps to all rows. -/
theorem surrounded_true (S : Simulation σ τ) (frames : List Frame) :
    S.Surrounded frames fun _ => True where
  setting := ⟨fun _ _ => within_true _, fun _ _ _ _ _ => within_true _⟩
  literal := fun _ _ => within_true _
  rows := fun _ _ => trivial

end Simulation

end RecordRecipe
