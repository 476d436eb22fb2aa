import RecordRecipe.Proofs.Expr.Lookup
import RecordRecipe.Proofs.Recipe.Faults
import RecordRecipe.Proofs.Run.Fitting
import RecordRecipe.Proofs.Run.Ledger

/-!
# Errors of runs

Between telling the sink the tables and flushing it, a run fails in one of many places: while a
count, a field or an argument is rendered, at any depth, or while a row is written. On its way out
the error passes a frame with a line, and a frame for every field on the trail. `errors_located`
puts this together with the errors of reading.
-/

namespace RecordRecipe

open RecordRecipe.Random (Generator)

variable {σ : Type}

namespace Expr

/-- What has no place in a field is told without a place. -/
theorem toField_refuses (value : Value) : Refuses Error.Bare value.toField := by
  unfold Value.toField
  repeat' split
  all_goals trivial

theorem resultValue_refuses (scope : Scope) (definition : String) (value : Value) :
    Refuses Error.Bare (resultValue scope definition value) := by
  unfold resultValue
  split
  next =>
    cases hmissing : missingRowField? scope definition with
    | none => exact Error.bare_unplaced
    | some error =>
        obtain ⟨message, rfl⟩ := exists_name_of_missingRowField? hmissing
        exact Error.bare_unplaced
  next => exact Refuses.except_map_iff.mpr (toField_refuses value)

/-- What goes wrong while a definition is evaluated is told without a place. -/
theorem runBody_refuses (scope : Scope) (definition : String) (body : List Statement)
    (generator : Generator) : Refuses Error.Bare (runBody scope definition body generator).1 := by
  unfold runBody
  dsimp only
  split
  next => trivial
  next fault _ _ =>
    obtain ⟨message, herror⟩ := evaluationError_eq scope definition fault
    exact herror ▸ Error.bare_unplaced

theorem Program.evaluate_refuses (scope : Scope) (definition : String) (generator : Generator)
    (program : Program) :
    Refuses Error.Bare (program.evaluate scope definition generator).1 := by
  cases program with
  | literal => trivial
  | expression body =>
      exact (runBody_refuses scope definition body generator).bind fun _ =>
        resultValue_refuses _ _ _
  | template body =>
      exact Refuses.except_map_iff.mpr (runBody_refuses scope definition body generator)

end Expr

open Running.Suits

/-- Values are rendered with errors at their lines. -/
theorem Written.render_locates (setting : Setting) (activation : Activation) (written : Written) :
    Running.Locates (written.render setting activation : Running (Trailed σ) FieldValue) := by
  unfold Written.render
  split
  next definition _ =>
    split
    next => exact fail Error.located_atLine
    next program _ =>
      have hevaluates : Running.Fits (do
          let registry ← Running.registry
          Running.draw fun generator =>
            program.evaluate (activation.scope setting registry) definition generator :
          Running (Trailed σ) FieldValue) :=
        registry.bind fun known => draw fun generator =>
          (program.evaluate_refuses _ definition generator).imp fun _ herror => herror.fits
      exact hevaluates.mapError fun _ _ herror => herror.orAtLine
  next => exact pure

/-- Counts are rendered with errors at their lines. -/
theorem Count.render_locates (setting : Setting) (activation : Activation) (count : Option Count) :
    Running.Locates (Count.render setting activation count : Running (Trailed σ) Nat) := by
  unfold Count.render
  split
  · exact pure
  · exact pure
  next definition =>
    refine (definition.render_locates setting activation).bind fun value => ?_
    split
    · exact pure
    · exact fail Error.located_atLine

/-- Rows that are made one after the other fail as one of them does. -/
theorem repeatRows_locates {make : Nat → Running (Trailed σ) RowRef}
    (h : ∀ number, Running.Locates (make number)) (left number : Nat) (last : Option RowRef) :
    Running.Locates (repeatRows make left number last) := by
  induction left generalizing number last with
  | zero => exact pure
  | succ left ih => exact (h number).bind fun row => ih (number + 1) (some row)

section

variable {sink : Sink σ} (hsink : ∀ row out, Refuses Error.Bare (sink.write row out).1)

include hsink

/-- A row that cannot be written fails with an error of the sink. -/
theorem hand_fits (activation : Activation) (row : RowRef) :
    Running.Fits (sink.trailingDesk.hand activation row) := by
  refine onRegistry.bind fun _ => registry.bind fun known => ?_
  rw [Sink.overTrail_write]
  exact onOut fun out => (hsink _ out).imp fun _ herror => herror.fits

end

mutual

/-- Definitions are rendered with located errors. -/
theorem operand_fits {sink : Sink σ}
    (hsink : ∀ row out, Refuses Error.Bare (sink.write row out).1) (setting : Setting)
    (activation : Activation) :
    (definition : Definition) → (definition.operand setting sink.trailingDesk activation).Fits
  | .value written =>
      ⟨((written.render_locates setting activation).attend activation).imp
        fun _ _ herror => herror.fits, by simp [Definition.operand]⟩
  | .call function positional named file line => by
      have hpositional := operands_fit hsink setting activation positional
      have hnamed := namedOperands_fit hsink setting activation named
      have hcall : Running.Fits (Call.run setting activation function _ _) :=
        Call.run_fits hpositional hnamed function
      have hlocated : Running.Locates (Action.mapError (Error.orAtLine file line) _) :=
        hcall.mapError fun _ _ herror => herror.orAtLine
      refine ⟨(hlocated.attend activation).imp fun _ _ herror => herror.fits, ?_⟩
      dsimp only [Definition.operand]
      split
      · rintro _ ⟨rfl⟩
        refine ⟨?_, ?_⟩
        · exact List.forall_mem_map.mpr fun first hfirst => (hpositional first hfirst).render
        · exact List.forall_mem_map.mpr fun first hfirst => (hnamed first hfirst).render
      · simp
  | .child record _ _ => by
      have hmade := makeRows_locates hsink setting activation.rows record
      have hrendered : Running.Locates (do
          let last ← record.makeRows setting sink.trailingDesk activation.rows
          return (last.map FieldValue.row).getD .null) := hmade.bind fun _ => pure
      exact ⟨(hrendered.attend activation).imp fun _ _ herror => herror.fits,
        by simp [Definition.operand]⟩

theorem operands_fit {sink : Sink σ}
    (hsink : ∀ row out, Refuses Error.Bare (sink.write row out).1) (setting : Setting)
    (activation : Activation) :
    (definitions : List Definition) →
      ∀ operand ∈ operands setting sink.trailingDesk activation definitions, operand.Fits
  | [] => by simp [operands]
  | first :: rest =>
      List.forall_mem_cons.mpr ⟨operand_fits hsink setting activation first,
        operands_fit hsink setting activation rest⟩

theorem namedOperands_fit {sink : Sink σ}
    (hsink : ∀ row out, Refuses Error.Bare (sink.write row out).1) (setting : Setting)
    (activation : Activation) :
    (definitions : List (String × Definition)) →
      ∀ argument ∈ namedOperands setting sink.trailingDesk activation definitions,
        argument.2.Fits
  | [] => by simp [namedOperands]
  | (_, first) :: rest =>
      List.forall_mem_cons.mpr ⟨operand_fits hsink setting activation first,
        namedOperands_fit hsink setting activation rest⟩

/-- Fields are rendered with errors that name the innermost of them. -/
theorem renderFields_locates {sink : Sink σ}
    (hsink : ∀ row out, Refuses Error.Bare (sink.write row out).1) (setting : Setting)
    (activation : Activation) (row : RowRef) :
    (fields : List Field) →
      Running.Locates (renderFields setting sink.trailingDesk activation row fields)
  | [] => pure
  | .mk name definition file line :: rest => by
      have hvalue := (operand_fits hsink setting activation definition).render
      refine ((hvalue.renderField activation name).mapError ?_).bind fun value => ?_
      · rintro _ error ⟨inner, rfl, herror⟩
        exact (herror.inField name).orAtLine
      · exact onRegistry.bind fun _ => renderFields_locates hsink setting activation row rest

/-- Templates make rows with located errors. -/
theorem makeRows_locates {sink : Sink σ}
    (hsink : ∀ row out, Refuses Error.Bare (sink.write row out).1) (setting : Setting)
    (enclosing : List RowRef) :
    (template : Template) →
      Running.Locates (template.makeRows setting sink.trailingDesk enclosing)
  | .mk table nickname count fields friends file line => by
      refine (note fun _ => rfl).bind fun _ => ?_
      refine ((Count.render_locates setting _ count).attend _).bind fun rows => ?_
      refine (repeatRows_locates (fun number => ?_) rows 1 none).bind fun last =>
        (note fun _ => rfl).bind fun _ => pure
      refine onRegistry.bind fun row => (note fun _ => rfl).bind fun _ => ?_
      have hfields :=
        renderFields_locates hsink setting (.ofRow table enclosing number row) row fields
      refine (hfields.mapError fun _ _ herror => herror.fits.orAtLine).bind fun _ => ?_
      refine ((hand_fits hsink _ row).mapError fun _ _ herror => herror.orAtLine).bind fun _ => ?_
      exact (makeAll_locates hsink setting _ friends).bind fun _ => pure

theorem makeAll_locates {sink : Sink σ}
    (hsink : ∀ row out, Refuses Error.Bare (sink.write row out).1) (setting : Setting)
    (enclosing : List RowRef) :
    (templates : List Template) →
      Running.Locates (makeAll setting sink.trailingDesk enclosing templates)
  | [] => pure
  | first :: rest =>
      (makeRows_locates hsink setting enclosing first).bind fun _ =>
        makeAll_locates hsink setting enclosing rest

end

/-- Batches of rows fail with located errors. -/
theorem makeBatches_locates {sink : Sink σ}
    (hsink : ∀ row out, Refuses Error.Bare (sink.write row out).1) (setting : Setting)
    (templates : List Template) (batches : Nat) :
    Running.Locates (makeBatches setting sink.trailingDesk templates batches) := by
  induction batches with
  | zero => exact pure
  | succ batches ih => exact (makeAll_locates hsink setting [] templates).bind fun _ => ih

/-- A value that cannot be stored is refused without a place. -/
theorem FieldValue.encode_refuses (name : String) (encoders : EncoderTable) (value : FieldValue) :
    Refuses Error.Bare (value.encode name encoders) := by
  unfold FieldValue.encode
  dsimp only
  split
  · trivial
  · exact rfl

theorem encodeFields_refuses (name : String) (encoders : EncoderTable) (fields : Assoc FieldValue)
    (encoded : EncodedRow) : Refuses Error.Bare (encodeFields name encoders fields encoded) := by
  induction fields generalizing encoded with
  | nil => trivial
  | cons first rest ih =>
      unfold encodeFields
      split
      · exact ih encoded
      · split
        next => exact ih _
        next error herror =>
          exact (FieldValue.encode_refuses name encoders first.2).of_eq_error herror

theorem Row.encode_refuses (name : String) (encoders : EncoderTable) (row : Row) :
    Refuses Error.Bare (row.encode name encoders) := by
  unfold Row.encode
  split
  next => exact encodeFields_refuses _ _ _ _
  next error herror => exact (FieldValue.encode_refuses _ _ _).of_eq_error herror

/-- A step that may be taken only changes the state. -/
theorem Action.when_modify (due : Bool) (change : σ → σ) (state : σ) :
    Action.when due (Action.modify change) state =
      (.ok (), if due then change state else state) := by
  cases due <;> rfl

/-- Rows kept in memory are refused without a place, if at all. -/
theorem Sink.memory_refuses (row : Row) (kept : Kept) :
    Refuses Error.Bare (Sink.memory.write row kept).1 := by
  have hencode := row.encode_refuses Sink.memory.name Sink.memory.encoders
  unfold Sink.memory at hencode ⊢
  dsimp only at hencode ⊢
  unfold Sink.encodeAndStore
  rw [Action.bind_apply, Action.lift_apply]
  generalize row.encode _ _ = encoded at hencode
  cases encoded with
  | error error => exact hencode
  | ok encoded =>
      -- What is done behind the encoding cannot fail.
      simp [Action.when_modify]

namespace Recipe

variable {recipe : Recipe} {request : Request} {sink : Sink σ} {out : σ} {merged : MergedOptions}
  {error : Error}

/-- The part of a run with a trail that comes before the sink is flushed. -/
def makeRows (recipe : Recipe) (request : Request) (merged : MergedOptions) (sink : Sink σ)
    (out : σ) : Except Error Unit × Machine (Trailed σ) :=
  recipe.beforeFlush request merged sink.overTrail sink.trailingDesk (request.start { out })

/-- A run whose options settle fails among the rows or when the sink is flushed behind them. -/
theorem trail_of_error (hmerged : mergeOptions recipe.options request.options = .ok merged)
    (hfailed : (recipe.trail request sink out).1 = .error error) :
    (∃ last, recipe.makeRows request merged sink out = (.ok (), last) ∧
      (sink.flush last.out.out).1 = .error error) ∨
    recipe.makeRows request merged sink out =
      (.error error, (recipe.trail request sink out).2) := by
  rw [trail, carryOut_eq hmerged, carryOutWith_eq, Action.bind_apply] at hfailed ⊢
  rw [← makeRows] at hfailed ⊢
  generalize recipe.makeRows request merged sink out = run at hfailed ⊢
  obtain ⟨result, last⟩ := run
  cases result with
  | ok done =>
      refine .inl ⟨last, rfl, ?_⟩
      -- Nothing but the flush can fail at the end.
      dsimp only at hfailed
      rw [conclude, Action.bind_apply, Sink.overTrail_flush, Machine.onOut_besides] at hfailed
      generalize (sink.flush last.out.out).1 = flushed at hfailed ⊢
      cases flushed with
      | ok done => cases hfailed
      | error fault =>
          obtain rfl : fault = error := Except.error.inj hfailed
          rfl
  | error fault =>
      obtain rfl : fault = error := Except.error.inj hfailed
      exact .inr rfl

/-- Rows that cannot be made are refused with located errors, once the sink has taken the tables. -/
theorem makeRows_located (hsink : ∀ row out, Refuses Error.Bare (sink.write row out).1)
    {last : Machine (Trailed σ)}
    (hfailed : recipe.makeRows request merged sink out = (.error error, last)) :
    (sink.declare recipe.tables out).1 = .error error ∨
      (sink.declare recipe.tables out).1 = .ok () ∧ error.Located last.out.fields := by
  let taken : Trailed σ := { out := (sink.declare recipe.tables out).2 }
  have hdeclared : Running.onOut (sink.overTrail.declare recipe.tables) (request.start { out }) =
      ((sink.declare recipe.tables out).1, request.start taken) := rfl
  have hmade := makeBatches_locates hsink (request.setting merged) recipe.templates
    request.batches (request.start taken)
  rw [makeRows, beforeFlush, Action.bind_apply, hdeclared] at hfailed
  cases hresult : (sink.declare recipe.tables out).1 with
  | error fault =>
      rw [hresult] at hfailed
      exact .inl (congrArg Prod.fst hfailed)
  | ok done =>
      rw [hresult] at hfailed
      dsimp only at hfailed
      rw [hfailed] at hmade
      cases hmade with
      | error _ _ inner hfields hlocated =>
          -- Nothing was on the trail when the first row was begun.
          have htrail : last.out.fields = inner := hfields.trans (List.append_nil inner)
          exact .inr ⟨rfl, htrail ▸ hlocated⟩

/-- A text that is no recipe, and options that do not settle, are refused at a file and a line. A
run fails when its options do not settle, or when its sink refuses the tables or the last flush, or
else among the rows: with a file and a line, and with the innermost of the fields that are being
rendered then, if any. Of the sink it is assumed that its own errors tell no place. -/
theorem errors_located (fs : Files) (file text : String) (recipe : Recipe) (request : Request)
    {sink : Sink σ} (hsink : ∀ row out, Refuses Error.Bare (sink.write row out).1) (out : σ) :
    (∀ error, Recipe.ofText fs file text = .error error → error.Located []) ∧
    (∀ error, mergeOptions recipe.options request.options = .error error → error.Located []) ∧
    ∀ error, (recipe.generate request sink out).1 = .error error →
      mergeOptions recipe.options request.options = .error error ∨
      ∃ merged, mergeOptions recipe.options request.options = .ok merged ∧
        ((sink.declare recipe.tables out).1 = .error error ∨
        (∃ last, recipe.makeRows request merged sink out = (.ok (), last) ∧
          (sink.flush last.out.out).1 = .error error) ∨
        (sink.declare recipe.tables out).1 = .ok () ∧
          recipe.makeRows request merged sink out =
            (.error error, (recipe.trail request sink out).2) ∧
          error.Located (recipe.trail request sink out).2.out.fields) := by
  refine ⟨fun error herror => (ofText_locates fs file text).of_eq_error herror,
    fun error herror => (mergeOptions_locates _ _).of_eq_error herror, fun error herror => ?_⟩
  rw [generate_eq_trail] at herror
  cases hmerged : mergeOptions recipe.options request.options with
  | error fault =>
      rw [trail, carryOut_eq_fail hmerged] at herror
      obtain rfl : fault = error := Except.error.inj herror
      exact .inl rfl
  | ok merged =>
      refine .inr ⟨merged, rfl, ?_⟩
      obtain hflush | hfailed := trail_of_error hmerged herror
      · exact .inr (.inl hflush)
      · obtain hdeclare | ⟨hdeclare, hlocated⟩ := makeRows_located hsink hfailed
        · exact .inl hdeclare
        · exact .inr (.inr ⟨hdeclare, hfailed, hlocated⟩)

/-- A recipe with a call that fails in a field of a child record. -/
def troubled : Recipe where
  file := "recipe.yml"
  options := []
  groups := []
  templates :=
    [.mk "A" none none
      [.mk "outer" (.child (.mk "B" none none
        [.mk "inner" (.call "random_number" [] [] "recipe.yml" 6) "recipe.yml" 5] []
        "recipe.yml" 4) "recipe.yml" 4) "recipe.yml" 3] [] "recipe.yml" 1]

theorem errors_located_troubled :
    ∃ error, (troubled.generate once Sink.memory {}).1 = .error error ∧
      error.Located ["inner", "outer"] := by
  have hfails : (troubled.generate once Sink.memory {}).1.isOk = false := by decide +kernel
  have htrail : (troubled.trail once Sink.memory {}).2.out.fields = ["inner", "outer"] := by
    decide +kernel
  cases hrun : (troubled.generate once Sink.memory {}).1 with
  | ok summary =>
      rw [hrun] at hfails
      cases hfails
  | error error =>
      obtain ⟨-, -, hruns⟩ :=
        errors_located {} "recipe.yml" "" troubled once Sink.memory_refuses {}
      obtain hoptions | ⟨_, _, hdeclare | ⟨_, _, hflush⟩ | ⟨_, _, hlocated⟩⟩ := hruns error hrun
      · cases hoptions
      · cases hdeclare
      · cases hflush
      · rw [htrail] at hlocated
        exact ⟨error, rfl, hlocated⟩

end Recipe

end RecordRecipe
