import RecordRecipe.Proofs.Error
import RecordRecipe.Proofs.Run.View

/-!
# Runs with a trail of fields

`Recipe.trail` carries a recipe out with any sink and keeps track of the fields that are being
rendered. A field that has been rendered is taken off the trail, and one that fails is not, so that
the trail of a run that has failed tells where that was. `generate_eq_trail` says that keeping the
trail changes nothing. `Suits` relates the error of a part of a run to the fields that it has left
on the trail; its rules follow the ways in which parts of runs are put together.
-/

namespace RecordRecipe

open RecordRecipe.Random (Generator)

variable {σ α β : Type}

/-- The state of a sink, and the fields that are being rendered, the innermost first. -/
structure Trailed (σ : Type) where
  out : σ
  fields : List String := []

namespace Trailed

/-- The fields that are being rendered behind a moment. -/
def follow (fields : List String) : Moment → List String
  | .opened _ field => field :: fields
  | .closed _ _ _ => fields.tail
  | .entered _ | .rendering _ | .rendered _ | .failed _ _ | .started _ | .left => fields

/-- The state of a sink, beside the trail. -/
def setOut (out : σ) (trailed : Trailed σ) : Trailed σ :=
  { trailed with out }

/-- Do something with the state of a sink, which leaves the trail alone. -/
def besides (action : Action σ α) : Action (Trailed σ) α :=
  Action.onPart out setOut action

/-- Note what a moment means for the trail. -/
def note (moment : Moment) (trailed : Trailed σ) : Trailed σ :=
  { trailed with fields := follow trailed.fields moment }

end Trailed

/-- The sink over its state with a trail, of which it knows nothing. -/
def Sink.overTrail (sink : Sink σ) : Sink (Trailed σ) :=
  sink.onPart Trailed.out Trailed.setOut

theorem Sink.overTrail_declare (sink : Sink σ) (tables : Tables) :
    sink.overTrail.declare tables = Trailed.besides (sink.declare tables) := rfl

theorem Sink.overTrail_write (sink : Sink σ) (row : Row) :
    sink.overTrail.write row = Trailed.besides (sink.write row) := rfl

theorem Sink.overTrail_flush (sink : Sink σ) :
    sink.overTrail.flush = Trailed.besides sink.flush := rfl

/-- What is done with the state of the sink gives what the sink gives. -/
theorem Machine.onOut_besides (action : Action σ α) (machine : Machine (Trailed σ)) :
    Running.onOut (Trailed.besides action) machine = ((action machine.out.out).1,
      { machine with out := machine.out.setOut (action machine.out.out).2 }) :=
  rfl

/-- The desk of a sink at which a trail is kept. -/
def Sink.trailingDesk (sink : Sink σ) : Desk (Trailed σ) where
  note := fun moment => Running.onOut (Action.modify (Trailed.note moment))
  hand := fun _ row => Running.write sink.overTrail row

/-- Carry out a recipe with a sink and keep a trail. -/
def Recipe.trail (recipe : Recipe) (request : Request) (sink : Sink σ) (out : σ) :
    Except Error Summary × Machine (Trailed σ) :=
  recipe.carryOut request sink.overTrail sink.trailingDesk (request.start { out })

/-- A run ends as it does with a trail beside the sink. -/
theorem generate_eq_trail (recipe : Recipe) (request : Request) (sink : Sink σ) (out : σ) :
    recipe.generate request sink out =
      ((recipe.trail request sink out).1, (recipe.trail request sink out).2.out.out) := by
  have hwrite : ∀ row, Action.Mirrors Trailed.out (sink.write row) (sink.overTrail.write row) :=
    fun _ _ => rfl
  refine Recipe.generate_mirrors Trailed.out ?_ ?_ ?_ ?_ recipe request { out }
  · exact fun _ _ => rfl
  · exact fun _ row => Action.Mirrors.write hwrite row
  · exact fun _ _ => rfl
  · exact fun _ => rfl

/-- A part of a run has taken the fields that it has put on the trail off again, or has failed with
an error that suits those that it has left there. -/
inductive Trailed.Ends (suits : List String → Error → Prop) (before : List String) :
    Except Error α × Machine (Trailed σ) → Prop where
  | ok (a : α) (machine : Machine (Trailed σ)) (hfields : machine.out.fields = before) :
      Ends suits before (.ok a, machine)
  | error (error : Error) (machine : Machine (Trailed σ)) (inner : List String)
      (hfields : machine.out.fields = inner ++ before) (hsuits : suits inner error) :
      Ends suits before (.error error, machine)

/-- A part of a run takes all fields that it puts on the trail off again, or fails with an error
that suits those that it leaves there. -/
def Running.Suits (suits : List String → Error → Prop) (part : Running (Trailed σ) α) : Prop :=
  ∀ machine, Trailed.Ends suits machine.out.fields (part machine)

namespace Running.Suits

open Trailed (Ends)

variable {suits others : List String → Error → Prop} {part : Running (Trailed σ) α}

/-- What cannot fail and leaves the trail alone. -/
theorem quiet (h : ∀ machine, ∃ a last, part machine = (.ok a, last) ∧
    last.out.fields = machine.out.fields) : part.Suits suits := by
  intro machine
  obtain ⟨a, last, hpart, hfields⟩ := h machine
  rw [hpart]
  exact .ok a last hfields

theorem pure {a : α} : Running.Suits suits (Pure.pure a : Running (Trailed σ) α) :=
  fun machine => .ok a machine rfl

theorem fail {error : Error} (h : suits [] error) :
    Running.Suits suits (Action.fail error : Running (Trailed σ) α) :=
  fun machine => .error error machine [] rfl h

theorem lift {result : Except Error α} (h : Refuses (suits []) result) :
    Running.Suits suits (Action.lift result : Running (Trailed σ) α) := by
  cases result with
  | ok a => exact pure
  | error error => exact fail h

/-- A sequence fails where one of its parts does, the second one behind what the first one may
give. -/
theorem bindGiven {next : α → Running (Trailed σ) β} (hpart : part.Suits suits)
    (hnext : ∀ machine a last, part machine = (.ok a, last) → (next a).Suits suits) :
    Running.Suits suits (part >>= next) := by
  intro machine
  have hends := hpart machine
  have hthen := hnext machine
  rw [Action.bind_apply]
  generalize part machine = run at hends hthen
  cases hends with
  | ok a last hfields =>
      rw [← hfields]
      exact hthen a last rfl last
  | error error last inner hfields hsuits => exact .error error last inner hfields hsuits

/-- A sequence fails where one of its parts does. -/
theorem bind {next : α → Running (Trailed σ) β} (hpart : part.Suits suits)
    (hnext : ∀ a, (next a).Suits suits) : Running.Suits suits (part >>= next) :=
  hpart.bindGiven fun _ a _ _ => hnext a

/-- What has been settled beforehand goes on or fails. -/
theorem liftBind {result : Except Error α} {P : α → Prop} {next : α → Running (Trailed σ) β}
    (hrefuses : Refuses (suits []) result) (hgives : Gives P result)
    (hnext : ∀ a, P a → (next a).Suits suits) :
    Running.Suits suits (Action.lift result >>= next) :=
  (lift hrefuses).bindGiven fun _ a _ h =>
    hnext a (hgives.of_eq_ok (congrArg Prod.fst h))

/-- A frame passes an error on. -/
theorem mapError (h : part.Suits suits) {frame : Error → Error}
    (hframe : ∀ fields error, suits fields error → others fields (frame error)) :
    Running.Suits others (Action.mapError frame part) := by
  intro machine
  have hends := h machine
  unfold Action.mapError
  generalize part machine = run at hends
  cases hends with
  | ok a last hfields => exact .ok a last hfields
  | error error last inner hfields hsuits =>
      exact .error (frame error) last inner hfields (hframe inner error hsuits)

/-- An error that suits suits also in a weaker way. -/
theorem imp (h : part.Suits suits)
    (himp : ∀ fields error, suits fields error → others fields error) :
    part.Suits others := by
  intro machine
  have hends := h machine
  generalize part machine = run at hends ⊢
  cases hends with
  | ok a last hfields => exact .ok a last hfields
  | error error last inner hfields hsuits =>
      exact .error error last inner hfields (himp inner error hsuits)

theorem registry : Running.Suits suits (Running.registry : Running (Trailed σ) Registry) :=
  quiet fun machine => ⟨machine.registry, machine, rfl, rfl⟩

theorem onRegistry {change : Registry → α × Registry} :
    Running.Suits suits (Running.onRegistry change : Running (Trailed σ) α) :=
  quiet fun machine =>
    ⟨(change machine.registry).1, { machine with registry := (change machine.registry).2 },
      rfl, rfl⟩

/-- Random numbers are drawn for something that may go wrong. -/
theorem draw {drawing : Generator → Except Error α × Generator}
    (h : ∀ generator, Refuses (suits []) (drawing generator).1) :
    Running.Suits suits (Running.draw drawing : Running (Trailed σ) α) := by
  intro machine
  have hdrawn := h machine.registry.generator
  unfold Running.draw
  generalize drawing machine.registry.generator = drawn at hdrawn
  obtain ⟨result, generator⟩ := drawn
  cases result with
  | ok a => exact .ok a _ rfl
  | error error => exact .error error _ [] rfl hdrawn

/-- What the sink does leaves the trail alone. -/
theorem onOut {action : Action σ α} (h : ∀ out, Refuses (suits []) (action out).1) :
    Running.Suits suits (Running.onOut (Trailed.besides action)) := by
  intro machine
  have hdone := h machine.out.out
  rw [Machine.onOut_besides]
  generalize (action machine.out.out).1 = result at hdone
  cases result with
  | ok a => exact .ok a _ rfl
  | error error => exact .error error _ [] rfl hdone

variable {sink : Sink σ}

/-- A note of a moment at which the trail stays as it is. -/
theorem note {moment : Moment} (h : ∀ fields, Trailed.follow fields moment = fields) :
    Running.Suits suits (sink.trailingDesk.note moment) :=
  quiet fun machine => ⟨(), _, rfl, h machine.out.fields⟩

/-- What is rendered with a note of it fails as it does by itself. -/
theorem attend (h : part.Suits suits) (activation : Activation) :
    Running.Suits suits (sink.trailingDesk.attend activation part) := by
  refine (note fun _ => rfl).bind fun _ => ?_
  refine bind ?_ fun _ => (note fun _ => rfl).bind fun _ => pure
  intro machine
  have hends := h machine
  unfold Action.onError
  generalize part machine = run at hends
  cases hends with
  | ok a last hfields => exact .ok a last hfields
  | error error last inner hfields hsuits => exact .error error _ inner hfields hsuits

/-- A field that fails stays on the trail, around the fields that have failed inside. -/
theorem renderField {part : Running (Trailed σ) FieldValue} (h : part.Suits suits)
    (activation : Activation) (name : String) :
    Running.Suits (fun fields error => ∃ inner, fields = inner ++ [name] ∧ suits inner error)
      (sink.trailingDesk.renderField activation name part) := by
  intro machine
  let opened : Machine (Trailed σ) :=
    { machine with out := machine.out.note (.opened activation name) }
  have hends : Ends suits (name :: machine.out.fields) (part opened) := h opened
  change Ends _ _ ((do
    let value ← part
    sink.trailingDesk.note (.closed activation name value)
    return value) opened)
  rw [Action.bind_apply]
  generalize part opened = run at hends
  cases hends with
  | ok a last hfields =>
      refine .ok a _ ?_
      change last.out.fields.tail = machine.out.fields
      rw [hfields, List.tail_cons]
  | error error last inner hfields hsuits =>
      exact .error error last (inner ++ [name]) (by simp [hfields]) ⟨inner, rfl, hsuits⟩

end Running.Suits

end RecordRecipe
