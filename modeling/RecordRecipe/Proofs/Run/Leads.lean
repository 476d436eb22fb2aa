import Mathlib.Data.List.Forall2
import Mathlib.Data.Option.Basic
import RecordRecipe.Proofs.Run.Registry
import RecordRecipe.Proofs.Run.Simulation

/-!
# Rules for parts of runs

Parts of runs that lead from related states to related states may be put together: in sequence,
under a frame for errors, with a note of what is rendered. The elementary steps that a lawful
simulation accounts for are such parts, each from the activations that it finds to those that it
leaves.
-/

namespace RecordRecipe

open RecordRecipe.Random (Generator)

namespace Simulation

variable {σ τ α β γ δ : Type} {S : Simulation σ τ} {known later : RowRef → Prop}
  {before middle after : List Frame} {R : (RowRef → Prop) → α → β → Prop}
  {Q : (RowRef → Prop) → γ → δ → Prop}

/-- Results that belong together, or one error. -/
inductive SameResult {ε : Type} (R : α → β → Prop) : Except ε α → Except ε β → Prop where
  | ok (a : α) (b : β) (h : R a b) : SameResult R (.ok a) (.ok b)
  | error (e : ε) : SameResult R (.error e) (.error e)

theorem SameResult.cases_eq {ε : Type} {R : α → β → Prop} {result : Except ε α}
    {other : Except ε β} (h : SameResult R result other) :
    (∃ e, result = .error e ∧ other = .error e) ∨
      ∃ a b, result = .ok a ∧ other = .ok b ∧ R a b := by
  cases h with
  | ok a b h => exact .inr ⟨a, b, rfl, rfl, h⟩
  | error e => exact .inl ⟨e, rfl, rfl⟩

/-- Results that belong together item by item belong together as lists. -/
theorem SameResult.mapM {ε : Type} {R : α → β → Prop} {Q : γ → δ → Prop} {items : List α}
    {others : List β} {f : α → Except ε γ} {g : β → Except ε δ}
    (hitems : List.Forall₂ R items others)
    (h : ∀ a b, R a b → SameResult Q (f a) (g b)) :
    SameResult (List.Forall₂ Q) (items.mapM f) (others.mapM g) := by
  induction hitems with
  | nil => exact .ok [] [] .nil
  | @cons a b items others hfirst _ ih =>
      have hresult := h a b hfirst
      rw [List.mapM_cons, List.mapM_cons]
      generalize f a = left at hresult
      generalize g b = right at hresult
      cases hresult with
      | error e => exact .error e
      | ok c d hcd =>
          generalize items.mapM f = left at ih
          generalize others.mapM g = right at ih
          cases ih with
          | error e => exact .error e
          | ok cs ds hrest => exact .ok (c :: cs) (d :: ds) (.cons hcd hrest)

namespace GoesOn

variable {second : Running τ β} {follow : β → Running τ δ}

/-- What leaves the sink's state alone goes on. -/
theorem of_out (hout : ∀ other, (second other).2.out = other.out)
    (h : ∀ other b, (second other).1 = .ok b → ∃ a, R (fun _ => True) a b) : S.GoesOn R second :=
  fun _ other hahead => ⟨(hout other).symm ▸ hahead, h other⟩

/-- A sequence goes on if its parts do. -/
theorem bind (hfirst : S.GoesOn R second)
    (hnext : ∀ a b, R (fun _ => True) a b → S.GoesOn Q (follow b)) :
    S.GoesOn Q (second >>= follow) := by
  intro machine other hahead
  have hsecond := hfirst machine other hahead
  rw [Action.bind_apply]
  generalize second other = right at hsecond
  obtain ⟨result, last⟩ := right
  cases result with
  | error error => exact ⟨hsecond.1, nofun⟩
  | ok b =>
      obtain ⟨a, hresult⟩ := hsecond.2 b rfl
      exact hnext a b hresult machine last hsecond.1

end GoesOn

namespace Outcome

variable {frames : List Frame} {machine : Machine σ} {other : Machine τ}

/-- What ends alike with some rows known does so with fewer of them. -/
theorem since {left : Except Error α × Machine σ} {right : Except Error β × Machine τ}
    (h : S.Outcome later frames R left right) (hlater : ∀ row, known row → later row) :
    S.Outcome known frames R left right := by
  cases h with
  | ok a b machine other hrel hgrows hresult =>
      exact .ok a b machine other hrel (fun row hrow => hgrows row (hlater row hrow)) hresult
  | error error machine other hfailed => exact .error error machine other hfailed
  | behind error machine result other hahead hresult =>
      exact .behind error machine result other hahead hresult

/-- A sequence ends alike if its parts do, the second after whatever the first gives. -/
theorem bind {first : Running σ α} {second : Running τ β} {next : α → Running σ γ}
    {follow : β → Running τ δ} (hfirst : S.Outcome known middle R (first machine) (second other))
    (hnext : ∀ later, (∀ row, known row → later row) → ∀ a b, R later a b →
      S.Leads later middle after Q (next a) (follow b)) :
    S.Outcome known after Q ((first >>= next) machine) ((second >>= follow) other) := by
  rw [Action.bind_apply, Action.bind_apply]
  generalize first machine = left at hfirst
  generalize second other = right at hfirst
  cases hfirst with
  | ok a b machine other hrel hgrows hresult =>
      have hthen := (hnext _ hgrows a b hresult).outcome machine other hrel fun _ hrow => hrow
      exact hthen.since hgrows
  | error error machine other hfailed => exact .error error machine other hfailed
  | behind error machine result other hahead hresult =>
      cases result with
      | error fault => exact .behind error machine (.error fault) other hahead nofun
      | ok b =>
          obtain ⟨a, hab⟩ := hresult b rfl
          have hthen := hnext (fun _ => True) (fun _ _ => trivial) a b hab
          have hon := hthen.goesOn machine other hahead
          exact .behind error machine (follow b other).1 (follow b other).2 hon.1 hon.2

end Outcome

namespace Leads

variable {frames : List Frame} {first : Running σ α} {second : Running τ β}
  {next : α → Running σ γ} {follow : β → Running τ δ}

/-- What ends alike with some rows known does so with more of them. -/
theorem above (h : S.Leads known before after R first second)
    (hlater : ∀ row, known row → later row) : S.Leads later before after R first second where
  outcome := fun machine other hrel hknown =>
    h.outcome machine other hrel fun row hrow => hknown row (hlater row hrow)
  goesOn := h.goesOn

/-- What ends alike wherever it starts alike does so with any rows known. -/
theorem anywhere (h : S.Leads (fun _ => False) before after R first second) :
    S.Leads known before after R first second :=
  h.above fun _ hrow => hrow.elim

theorem pure {a : α} {b : β} (h : ∀ later, (∀ row, known row → later row) → R later a b) :
    S.Leads known frames frames R (Pure.pure a) (Pure.pure b) where
  outcome := fun machine other hrel hknown =>
    .ok a b machine other hrel (fun _ hrow => hrow) (h _ hknown)
  goesOn := .of_out (fun _ => rfl) fun _ _ hb => ⟨a, by
    cases hb
    exact h _ fun _ _ => trivial⟩

theorem fail {error : Error} :
    S.Leads known frames frames R (Action.fail error) (Action.fail error) where
  outcome := fun machine other hrel _ => .error error machine other (.inl ⟨frames, hrel⟩)
  goesOn := .of_out (fun _ => rfl) nofun

/-- A sequence ends alike if its parts do, with what is known in between. -/
theorem bindKnowing (hfirst : S.Leads known before middle R first second)
    (hnext : ∀ later, (∀ row, known row → later row) → ∀ a b, R later a b →
      S.Leads later middle after Q (next a) (follow b)) :
    S.Leads known before after Q (first >>= next) (second >>= follow) where
  outcome := fun machine other hrel hknown =>
    (hfirst.outcome machine other hrel hknown).bind fun later hlater =>
      hnext later fun row hrow => hlater row (hknown row hrow)
  goesOn := hfirst.goesOn.bind fun a b hresult =>
    (hnext (fun _ => True) (fun _ _ => trivial) a b hresult).goesOn

/-- A sequence ends alike if its parts do. -/
theorem bind (hfirst : S.Leads known before middle R first second)
    (hnext : ∀ later a b, R later a b → S.Leads known middle after Q (next a) (follow b)) :
    S.Leads known before after Q (first >>= next) (second >>= follow) :=
  hfirst.bindKnowing fun later hlater a b hresult => (hnext later a b hresult).above hlater

/-- Errors that are framed alike are the same errors. -/
theorem mapError (h : S.Leads known before after R first second) (frame : Error → Error) :
    S.Leads known before after R (first.mapError frame) (second.mapError frame) where
  outcome := fun machine other hrel hknown => by
    have houtcome := h.outcome machine other hrel hknown
    unfold Action.mapError
    generalize first machine = left at houtcome
    generalize second other = right at houtcome
    cases houtcome with
    | ok a b machine other hrel hgrows hresult => exact .ok a b machine other hrel hgrows hresult
    | error error machine other hfailed => exact .error (frame error) machine other hfailed
    | behind error machine result other hahead hresult =>
        cases result with
        | ok b => exact .behind (frame error) machine (.ok b) other hahead hresult
        | error fault =>
            exact .behind (frame error) machine (.error (frame fault)) other hahead nofun
  goesOn := fun machine other hahead => by
    have hon := h.goesOn machine other hahead
    unfold Action.mapError
    generalize second other = right at hon
    obtain ⟨result, last⟩ := right
    cases result with
    | ok b => exact hon
    | error fault => exact ⟨hon.1, nofun⟩

theorem lift {P : α → β → Prop} {result : Except Error α} {other : Except Error β}
    (h : SameResult P result other) :
    S.Leads known frames frames (fun _ => P) (Action.lift result) (Action.lift other) := by
  cases h with
  | ok a b h => exact .pure fun _ _ => h
  | error e => exact .fail

/-- One result that is given on both sides. -/
theorem liftSame {result : Except Error α} :
    S.Leads known frames frames SamePlain (Action.lift result) (Action.lift result) := by
  cases result with
  | ok a => exact .pure fun _ _ => rfl
  | error e => exact .fail

section Observant

variable (hS : S.Observant)

include hS

/-- Random numbers that are drawn alike give the same. -/
theorem draw {drawing : Generator → Except Error α × Generator}
    {R : (RowRef → Prop) → α → α → Prop}
    (h : ∀ later, (∀ row, known row → later row) → ∀ generator a,
      (drawing generator).1 = .ok a → R later a a) :
    S.Leads known frames frames R (Running.draw drawing) (Running.draw drawing) where
  outcome := fun machine other hrel hknown => by
    have hgenerator : other.registry.generator = machine.registry.generator := by
      rw [hS.registry_eq hrel]
    have hresult : ∀ later, (∀ row, known row → later row) → ∀ a,
        (drawing machine.registry.generator).1 = .ok a → R later a a :=
      fun later hlater a => h later hlater _ a
    unfold Running.draw
    rw [hgenerator]
    generalize drawing machine.registry.generator = drawn at hresult
    obtain ⟨result, generator⟩ := drawn
    obtain ⟨hdrawn, hgrows⟩ := hS.draw generator hrel
    cases result with
    | ok a =>
        have hlater : ∀ row, known row → S.known (machine.withGenerator generator) row :=
          fun row hrow => hgrows row (hknown row hrow)
        exact .ok a a _ _ hdrawn hgrows (hresult _ hlater a rfl)
    | error e => exact .error e _ _ (.inl ⟨frames, hdrawn⟩)
  goesOn := .of_out (fun _ => rfl) fun _ a ha => ⟨a, h _ (fun _ _ => trivial) _ a ha⟩

/-- Random numbers that are drawn alike give the same value. -/
theorem drawValue {drawing : Generator → Except Error FieldValue × Generator}
    (h : ∀ generator, Gives (fun value => value.Within known) (drawing generator).1) :
    S.Leads known frames frames SameValue (Running.draw drawing) (Running.draw drawing) :=
  draw hS fun _ hlater generator _ hvalue => ⟨rfl, ((h generator).of_eq_ok hvalue).mono hlater⟩

/-- Random numbers that are drawn alike give the same thing. -/
theorem drawPlain {drawing : Generator → Except Error α × Generator} :
    S.Leads known frames frames SamePlain (Running.draw drawing) (Running.draw drawing) :=
  draw hS fun _ _ _ _ _ => rfl

/-- What is around a part of a run keeps to the rows that are known there. -/
theorem within (h : ∀ later, (∀ row, known row → later row) → S.Surrounded before later →
      S.Leads later before after R first second) : S.Leads known before after R first second where
  outcome := fun machine other hrel hknown =>
    (h _ hknown (hS.surrounded hrel)).outcome machine other hrel fun _ hrow => hrow
  goesOn := (h _ (fun _ _ => trivial) (S.surrounded_true before)).goesOn

/-- Both sides see the same registry, which keeps to the rows that are known by then. -/
theorem withRegistry {next : Registry → Running σ α} {follow : Registry → Running τ β}
    (h : ∀ later registry, (∀ row, known row → later row) → registry.Within later →
      S.Surrounded before later → S.Leads later before after R (next registry) (follow registry)) :
    S.Leads known before after R (Running.registry >>= next) (Running.registry >>= follow) where
  outcome := fun machine other hrel hknown => by
    change S.Outcome _ after R (next machine.registry machine) (follow other.registry other)
    rw [← hS.registry_eq hrel]
    have hthen := h _ _ hknown (hS.registry_within hrel) (hS.surrounded hrel)
    exact hthen.outcome machine other hrel fun _ hrow => hrow
  goesOn := fun machine other hahead =>
    (h _ other.registry (fun _ _ => trivial)
      ⟨fun _ _ => trivial, fun _ _ => trivial, fun _ _ _ _ => within_true _⟩
      (S.surrounded_true before)).goesOn machine other hahead

end Observant

section Lawful

variable (hS : S.Lawful)

include hS

/-- Note is taken of something that is being rendered. -/
theorem noteRendering {frame : Frame} {moment : Moment}
    (hmoment : moment.rendersIn? = some frame.activation) :
    S.Leads known (frame :: frames) (frame :: frames) SamePlain (S.left.note moment)
      (S.right.note moment) where
  outcome := fun _ _ hrel _ => hS.render hrel hmoment
  goesOn := fun _ _ hahead => ⟨hS.patient.note moment hahead, fun _ _ => ⟨(), rfl⟩⟩

/-- What ends alike by itself does so with a note of its failure. -/
theorem noteFailure (h : S.Leads known before after R first second) (activation : Activation) :
    S.Leads known before after R
      (first.onError fun error => S.left.note (.failed activation error))
      (second.onError fun error => S.right.note (.failed activation error)) where
  outcome := fun machine other hrel hknown => by
    have houtcome := h.outcome machine other hrel hknown
    unfold Action.onError
    generalize first machine = left at houtcome
    generalize second other = right at houtcome
    cases houtcome with
    | ok a b machine other hrel hgrows hresult => exact .ok a b machine other hrel hgrows hresult
    | error error machine other hfailed => exact .error error _ _ (hS.failed _ error hfailed)
    | behind error machine result other hahead hresult =>
        have hbehind := hS.patient.failed activation error hahead
        cases result with
        | ok b => exact .behind error _ (.ok b) other hbehind hresult
        | error fault => exact .behind error _ (.error fault) _ (hS.patient.note _ hbehind) nofun
  goesOn := fun machine other hahead => by
    have hon := h.goesOn machine other hahead
    unfold Action.onError
    generalize second other = right at hon
    obtain ⟨result, last⟩ := right
    cases result with
    | ok b => exact hon
    | error fault => exact ⟨hS.patient.note _ hon.1, nofun⟩

/-- What is rendered with a note of it and of how it ends agrees if it does so by itself. -/
theorem attend {frame : Frame} (hR : Lasts R)
    (h : S.Leads known (frame :: frames) (frame :: frames) R first second) :
    S.Leads known (frame :: frames) (frame :: frames) R (S.left.attend frame.activation first)
      (S.right.attend frame.activation second) := by
  refine (noteRendering hS rfl).bind fun _ _ _ _ => ?_
  refine (noteFailure hS h frame.activation).bindKnowing fun later _ a b hresult => ?_
  exact (noteRendering hS rfl).bindKnowing fun _ hlast _ _ _ =>
    .pure fun _ hmore => hR (fun row hrow => hmore row (hlast row hrow)) hresult

/-- A field that is rendered with a note of it agrees if it does so by itself. -/
theorem renderField {frame : Frame} {first : Running σ FieldValue}
    {second : Running τ FieldValue}
    (h : S.Leads known (frame :: frames) (frame :: frames) SameValue first second)
    (name : String) :
    S.Leads known (frame :: frames) (frame :: frames) SameValue
      (S.left.renderField frame.activation name first)
      (S.right.renderField frame.activation name second) := by
  refine (noteRendering hS rfl).bind fun _ _ _ _ => ?_
  refine h.bindKnowing ?_
  rintro later _ value _ ⟨rfl, hvalue⟩
  exact (noteRendering hS rfl).bindKnowing fun _ hlast _ _ _ =>
    .pure fun _ hmore => ⟨rfl, hvalue.mono fun row hrow => hmore row (hlast row hrow)⟩

/-- An activation begins. -/
theorem enter (template : Template) :
    S.Leads known frames (.between template.table (rowsOf frames) 0 :: frames) SamePlain
      (S.left.note (.entered template)) (S.right.note (.entered template)) where
  outcome := fun _ _ hrel _ => hS.enter template hrel
  goesOn := fun _ _ hahead => ⟨hS.patient.note _ hahead, fun _ _ => ⟨(), rfl⟩⟩

/-- An activation ends. -/
theorem exit {table : String} {enclosing : List RowRef} {started : Nat} :
    S.Leads known (.between table enclosing started :: frames) frames SamePlain
      (S.left.note .left) (S.right.note .left) where
  outcome := fun _ _ hrel _ => hS.exit hrel
  goesOn := fun _ _ hahead => ⟨hS.patient.note _ hahead, fun _ _ => ⟨(), rfl⟩⟩

variable {table : String} {enclosing : List RowRef} {number : Nat} {row : RowRef}

/-- Both sides start the same row. -/
theorem start (htable : S.rules.table table) (nickname : Option String)
    {next : RowRef → Running σ α} {follow : RowRef → Running τ β}
    (h : ∀ row, row.table = table →
      S.Leads known (.ofRow table enclosing (number + 1) row false :: frames) after R (next row)
        (follow row)) :
    S.Leads known (.between table enclosing number :: frames) after R
      (do
        let row ← Running.onRegistry (Registry.startRow table nickname)
        S.left.note (.started (.ofRow table enclosing (number + 1) row))
        next row)
      (do
        let row ← Running.onRegistry (Registry.startRow table nickname)
        S.right.note (.started (.ofRow table enclosing (number + 1) row))
        follow row) where
  outcome := fun machine other hrel hknown => by
    obtain ⟨row, hrow⟩ : ∃ row, row = (machine.registry.startRow table nickname).1 := ⟨_, rfl⟩
    have hother : row = (other.registry.startRow table nickname).1 := by
      rw [hrow, hS.registry_eq hrel]
    have hbelongs : row.table = table := hrow ▸ Registry.startRow_table
    change S.Outcome _ _ _
      ((do
        S.left.note (.started (.ofRow table enclosing (number + 1)
          (machine.registry.startRow table nickname).1))
        next (machine.registry.startRow table nickname).1) (machine.startRow table nickname))
      ((do
        S.right.note (.started (.ofRow table enclosing (number + 1)
          (other.registry.startRow table nickname).1))
        follow (other.registry.startRow table nickname).1) (other.startRow table nickname))
    rw [← hrow, ← hother]
    exact (hS.start nickname hrel htable row hrow).bind fun later hlater _ _ _ =>
      (h row hbelongs).above fun row hrow => hlater row (hknown row hrow)
  goesOn := fun machine other hahead => by
    have hthen := (h (other.registry.startRow table nickname).1 Registry.startRow_table).goesOn
    have hnote : S.GoesOn SamePlain (S.right.note (.started (.ofRow table enclosing (number + 1)
        (other.registry.startRow table nickname).1))) :=
      fun _ _ hahead => ⟨hS.patient.note _ hahead, fun _ _ => ⟨(), rfl⟩⟩
    exact (hnote.bind fun _ _ _ => hthen) machine (other.startRow table nickname) hahead

/-- A field of the row is set to a value that keeps to the known rows. -/
theorem setField {name : String} {value : FieldValue} (hfield : S.rules.field row.table name)
    (hvalue : value.Within known) :
    S.Leads known (.ofRow table enclosing number row false :: frames)
      (.ofRow table enclosing number row false :: frames) SamePlain
      (Running.setField row name value) (Running.setField row name value) where
  outcome := fun machine other hrel hknown => by
    obtain ⟨hset, hgrows⟩ := hS.setField name value hrel hfield (hvalue.mono hknown)
    exact .ok () () _ _ hset hgrows rfl
  goesOn := .of_out (fun _ => rfl) fun _ _ _ => ⟨(), rfl⟩

/-- The row is handed over. -/
theorem hand : S.Leads known (.ofRow table enclosing number row false :: frames)
    (.ofRow table enclosing number row true :: frames) SamePlain
    (S.left.hand (.ofRow table enclosing number row) row)
    (S.right.hand (.ofRow table enclosing number row) row) where
  outcome := fun _ _ hrel _ => hS.hand hrel
  goesOn := fun _ _ hahead => ⟨hS.patient.hand _ _ hahead, fun _ _ => ⟨(), rfl⟩⟩

/-- A row that has been handed over is left and given. -/
theorem leave : S.Leads known (.ofRow table enclosing number row true :: frames)
    (.between table enclosing number :: frames) SameRow (Pure.pure row) (Pure.pure row) where
  outcome := fun machine other hrel _ =>
    .ok row row machine other (hS.leave hrel) (fun _ hrow => hrow)
      ⟨rfl, (hS.surrounded hrel).rows row List.mem_cons_self⟩
  goesOn := .of_out (fun _ => rfl) fun _ b _ => ⟨b, rfl, trivial⟩

end Lawful

end Leads

end Simulation

end RecordRecipe
