import RecordRecipe.Proofs.Expr.Plain
import RecordRecipe.Proofs.Run.Hosts

/-!
# The name of the run

Expressions supply the run to template functions under a name of its own, next to the names that a
recipe chooses. `Recipe.functions_reach_run` says which of those get in the way: a field of that
name in the row that is being built, and nothing else. Template functions then fail for lack of the
run, whatever is asked of them; otherwise they are called on the run.
-/

namespace RecordRecipe

open RecordRecipe.Expr (Arguments Drawing Evaluation Fault Scope Statement Store Value runName)

variable {σ : Type} {setting : Setting} {activation : Activation} {registry : Registry}

/-! ## Functions with and without the run -/

namespace Host

/-- A template function that has the run. -/
def reached? (host : Host) (name : String) : Option (Arguments → Drawing Value) :=
  (host.inline? name).map fun function => function true

/-- A template function that does not have the run. -/
def refused? (host : Host) (name : String) : Option (Arguments → Drawing Value) :=
  (host.inline? name).map fun function => function false

/-- A function that receives values and has the run is called on it. -/
theorem reached?_eager {name : String} {function : EagerFunction}
    (hname : EagerFunction.ofName? name = some function) (host : Host) :
    host.reached? name = some (callInline host function) := by
  unfold reached?
  rw [inline?_eager hname]
  rfl

/-- No call succeeds without the run. The switch of the locale looks at its arguments first. -/
theorem refused?_fails {host : Host} {name : String} {call : Arguments → Drawing Value}
    (h : host.refused? name = some call) (arguments : Arguments)
    (generator : Random.Generator) :
    ∃ fault, call arguments generator = (.error fault, generator) ∧
      (name ≠ "fake_i18n" → fault = .noRun) := by
  obtain ⟨function, hfunction, rfl⟩ := Option.map_eq_some_iff.mp h
  unfold inline? at hfunction
  split at hfunction
  next =>
    cases hfunction
    exact ⟨.noRun, rfl, fun _ => rfl⟩
  next =>
    split at hfunction
    next hlocale =>
      cases hfunction
      unfold localizedFake
      split
      next fault _ => exact ⟨fault, rfl, fun hother => absurd hlocale hother⟩
      next => exact ⟨.noRun, rfl, fun _ => rfl⟩
    next =>
      obtain ⟨eager, _, rfl⟩ := Option.map_eq_some_iff.mp hfunction
      exact ⟨.noRun, rfl, fun _ => rfl⟩

end Host

/-! ## What the name of the run stands for -/

/-- A field's value is not the run. -/
theorem Expr.Value.ofField_ne_run (value : FieldValue) : Value.ofField value ≠ .run := by
  cases value <;> exact nofun

namespace Activation

/-- A field of the row that is being built comes before the run, and nothing else does. -/
theorem valueOf?_runName (setting : Setting) (activation : Activation) (registry : Registry) :
    activation.valueOf? setting registry runName =
      some (((activation.ownField? registry runName).map Value.ofField).getD .run) := by
  unfold valueOf?
  cases activation.ownField? registry runName <;> rfl

theorem valueOf?_eq_run_iff :
    activation.valueOf? setting registry runName = some .run ↔
      activation.ownField? registry runName = none := by
  rw [valueOf?_runName]
  cases activation.ownField? registry runName with
  | none => simp
  | some value => simpa using Value.ofField_ne_run value

/-- The scope supplies the run unless the row has a field of its name. -/
theorem scope_suppliesRun :
    (activation.scope setting registry).suppliesRun =
      (activation.ownField? registry runName).isNone := by
  have hvalue : (activation.scope setting registry).valueOf? runName =
      activation.valueOf? setting registry runName := rfl
  unfold Scope.suppliesRun
  rw [hvalue, valueOf?_runName]
  cases activation.ownField? registry runName with
  | none => rfl
  | some value => cases value <;> rfl

/-- The template functions of a scope, once it is settled whether they have the run. -/
theorem scope_linked (hregistry : registry.Unambiguous) :
    (activation.scope setting registry).linked =
      (activation.scope setting registry).calling
        (if (activation.ownField? registry runName).isNone
          then (activation.host setting registry).reached?
          else (activation.host setting registry).refused?) := by
  unfold Scope.linked
  congr 1
  funext name
  have hfunction : (activation.scope setting registry).function? name =
      (activation.host setting registry).inline? name :=
    congrArg (fun host : Host => host.inline? name) (Snapshot.host_take hregistry)
  rw [scope_suppliesRun, hfunction]
  cases (activation.ownField? registry runName).isNone <;> rfl

end Activation

/-! ## Recipes without fields of that name -/

/-- Rules by which no field has the name of the run. -/
def Rules.sparing : Rules where
  literal := fun _ => True
  table := fun _ => True
  field := fun _ name => name ≠ runName

/-- No row has a field of the name of the run. -/
def Registry.Spares (registry : Registry) : Prop :=
  ∀ fields ∈ registry.rows, Assoc.find? runName fields = none

/-- Where no field of a template has the name of the run, no field of a row has it. -/
theorem Registry.Spares.kept : Registry.Kept Rules.sparing Registry.Spares where
  start := by simp [Spares]
  draw := fun _ h => h
  startRow := fun table nickname h =>
    forall_rows_startRow (P := fun fields => Assoc.find? runName fields = none) rfl h table nickname
  setField := by
    intro registry row name value hname h
    have hput (fields : Assoc FieldValue) (hfields : fields.find? runName = none) :
        (Assoc.put name value fields).find? runName = none := by
      rwa [Assoc.find?_put, if_neg hname]
    exact forall_rows_setField hput h row
  noteReferences := fun _ h => h

/-- Then the row that is being built has no such field. -/
theorem Registry.Spares.ownField? (h : registry.Spares) (activation : Activation) :
    activation.ownField? registry runName = none := by
  unfold Activation.ownField?
  cases activation.row with
  | none => rfl
  | some row =>
      exact fieldsOf_of_rows (P := fun fields => Assoc.find? runName fields = none) rfl h row

namespace Recipe

/-- At every moment of every run, whatever the options, nicknames and tables are called, the name of
the run stands for the run in an expression, unless the row that is being built has a field of this
name. Without such a field, a plain template calls its template functions on the run as it is at the
moment; with such a field, each call in it fails. In a run of templates without a field of this name
there is never such a row. -/
theorem functions_reach_run (recipe : Recipe) (request : Request) (sink : Sink σ) (out : σ) :
    (∀ sighting ∈ (recipe.watch request sink out).2.out.sightings,
      ∀ (setting : Setting) (activation : Activation),
        let scope := activation.scope setting sighting.registry
        let run := activation.host setting sighting.registry
        let field := activation.ownField? sighting.registry runName
        (scope.valueOf? runName = some .run ↔ field = none) ∧
        (∀ value, field = some value → scope.valueOf? runName = some (.ofField value)) ∧
        ∀ body : List Statement, (∀ s ∈ body, s.Plain) → ∀ store : Store, store.Plain →
          Evaluation.template scope body store =
            Evaluation.statements
              (scope.calling (if field.isNone then run.reached? else run.refused?))
              (Evaluation.handler scope Evaluation.depthLimit) body store) ∧
    (∀ (host : Host) (name : String) (function : EagerFunction),
      EagerFunction.ofName? name = some function →
        host.reached? name = some (callInline host function)) ∧
    (∀ (host : Host) (name : String) (call : Arguments → Drawing Value),
      host.refused? name = some call → ∀ arguments generator,
        ∃ fault, call arguments generator = (.error fault, generator) ∧
          (name ≠ "fake_i18n" → fault = .noRun)) ∧
    ((∀ template ∈ recipe.templates, template.Obeys Rules.sparing) →
      ∀ sighting ∈ (recipe.watch request sink out).2.out.sightings,
        ∀ activation : Activation, activation.ownField? sighting.registry runName = none) := by
  refine ⟨fun sighting hsighting setting activation => ?_, fun host _ _ hname =>
    Host.reached?_eager hname host, fun _ _ _ hrefused => Host.refused?_fails hrefused,
    fun hobeys sighting hsighting activation => ?_⟩
  · have harises : sighting.registry.Arises :=
      (registries_arise recipe request sink out).sightings sighting hsighting
    refine ⟨Activation.valueOf?_eq_run_iff, fun value hvalue => ?_, fun body hplain store hstore => ?_⟩
    · show activation.valueOf? setting sighting.registry runName = _
      rw [Activation.valueOf?_runName, hvalue]
      rfl
    · rw [Evaluation.template_linked hplain hstore, Activation.scope_linked harises.unambiguous]
  · have hspares := (Registry.Spares.kept.watch hobeys request sink out).sightings sighting hsighting
    exact hspares.ownField? activation

/-- A recipe with a nickname and a hidden field, whose second field calls a template function. -/
def veiled (nickname : Option String) (field : String) : Recipe where
  file := "recipe.yml"
  options := []
  groups := []
  templates :=
    [.mk "A" nickname none
      [.mk field (.value ⟨.int 1, "recipe.yml", 3⟩) "recipe.yml" 3,
        .mk "x" (.value ⟨.text "<<int(7)>>", "recipe.yml", 4⟩) "recipe.yml" 4]
      [] "recipe.yml" 1]

/-- Its templates keep to the rules if its hidden field does. -/
theorem veiled_sparing (nickname : Option String) {field : String} (hfield : field ≠ runName) :
    ∀ template ∈ (veiled nickname field).templates, template.Obeys Rules.sparing := by
  have hx : "x" ≠ runName := by decide
  refine List.forall_mem_singleton.mpr ?_
  refine .mk _ _ _ _ _ _ _ trivial (fun _ _ => trivial) ?_ ?_ (List.forall_mem_nil _)
  · exact List.forall_mem_cons.mpr ⟨hfield, List.forall_mem_singleton.mpr hx⟩
  · exact List.forall_mem_cons.mpr
      ⟨.value _ trivial, List.forall_mem_singleton.mpr (.value _ trivial)⟩

/-- A nickname of the name of the run is not in the way of a single value tag. -/
theorem functions_reach_run_nickname :
    ∃ sighting ∈ ((veiled (some runName) "__x").watch once Sink.memory {}).2.out.sightings,
      ∃ activation ∈ sighting.moment.rendersIn?,
        activation.ownField? sighting.registry runName = none ∧
        (activation.ownField? sighting.registry "__x").isSome = true ∧
        sighting.registry.visibleObject runName = some ⟨.made 0, "A", 1⟩ ∧
        let scope := activation.scope (once.setting ⟨[], []⟩) sighting.registry
        scope.valueOf? runName = some .run ∧
        ∀ (term : Expr.Term) (generator : Random.Generator),
          Evaluation.template scope [.set (.name Expr.resultName) term] { generator } =
            Evaluation.statements
              (scope.calling (activation.host (once.setting ⟨[], []⟩) sighting.registry).reached?)
              (Evaluation.handler scope Evaluation.depthLimit)
              [.set (.name Expr.resultName) term] { generator } := by
  have hseen : ((veiled (some runName) "__x").watch once Sink.memory {}).2.out.sightings.any
      (fun sighting => sighting.moment.rendersIn?.any fun activation =>
        (activation.ownField? sighting.registry "__x").isSome &&
          sighting.registry.visibleObject runName == some ⟨.made 0, "A", 1⟩) = true := by
    decide +kernel
  obtain ⟨sighting, hsighting, hseen⟩ := List.any_eq_true.mp hseen
  obtain ⟨activation, hactivation, hseen⟩ := (Option.any_eq_true _ _).mp hseen
  simp only [Bool.and_eq_true, beq_iff_eq] at hseen
  obtain ⟨hmoments, _, _, hspares⟩ :=
    functions_reach_run (veiled (some runName) "__x") once Sink.memory {}
  have hfield := hspares (veiled_sparing _ (by decide)) sighting hsighting activation
  obtain ⟨hrun, _, htemplate⟩ := hmoments sighting hsighting (once.setting ⟨[], []⟩) activation
  refine ⟨sighting, hsighting, activation, hactivation, hfield, hseen.1, hseen.2,
    hrun.mpr hfield, fun term generator => ?_⟩
  have hplain : ∀ s ∈ [Statement.set (.name Expr.resultName) term], s.Plain :=
    List.forall_mem_singleton.mpr (.set _ _ (.name _ (by decide)))
  rw [htemplate _ hplain _ Store.plain_start, hfield]
  rfl

/-- A template function finds the run next to a hidden field, unless the field has the name of the
run: then it fails while rows are generated since it is only available while rows are. -/
theorem hidden_field_hides_run :
    ((veiled none "__x").generate once Sink.memory {}).1.isOk = true ∧
    ((veiled none "__x").generate once Sink.memory {}).2.rows.map
      (fun row => row.2.map fun field => (field.1, field.2.display)) = [[("id", "1"), ("x", "7")]] ∧
    ∃ error, ((veiled none runName).generate once Sink.memory {}).1 = .error error ∧
      error.message = "invalid operation: template functions are only available while " ++
        "rows are generated in `<<int(7)>>`" ∧
      error.place?.bind Place.field = some "x" := by
  have hfails : ((veiled none runName).generate once Sink.memory {}).1.map (fun _ => ()) =
      .error (.placed .value ("invalid operation: template functions are only available while " ++
        "rows are generated in `<<int(7)>>`") ⟨"recipe.yml", some 4, "x"⟩ none) := by
    decide +kernel
  have hfinds : (((veiled none "__x").generate once Sink.memory {}).1.isOk,
      ((veiled none "__x").generate once Sink.memory {}).2.rows.map
        fun row => row.2.map fun field => (field.1, field.2.display)) =
          (true, [[("id", "1"), ("x", "7")]]) := by decide +kernel
  obtain ⟨hsucceeds, hrows⟩ := Prod.mk.inj hfinds
  refine ⟨hsucceeds, hrows, ?_⟩
  cases hrun : ((veiled none runName).generate once Sink.memory {}).1 with
  | ok summary =>
      rw [hrun] at hfails
      cases hfails
  | error error =>
      rw [hrun] at hfails
      cases hfails
      exact ⟨_, rfl, by decide, rfl⟩

end Recipe

end RecordRecipe
