import RecordRecipe.Proofs.Expr.Lookup
import RecordRecipe.Proofs.Run.Arising

/-!
# Calls inside expressions and in the structure of a recipe

Functions that receive values are called in two places. In the structure of a recipe they look at
the run itself, inside an expression at a snapshot of it, and there their values and faults pass
through those of expressions. `Recipe.hosts_agree` says that this makes no difference, at any moment
of any run: both calls resolve every name alike, give the same value or an error of the same kind,
and leave the same random numbers behind.
-/

namespace RecordRecipe

open RecordRecipe.Random (Generator)

variable {σ : Type} {setting : Setting} {activation : Activation} {registry : Registry}

/-! ## What functions see of a run -/

/-- How a function finds what it asks for by name. -/
structure Host.Resolves (host : Host) (setting : Setting) (activation : Activation)
    (registry : Registry) : Prop where
  /-- A nickname comes before the latest row of a table. -/
  findObject : ∀ name, host.findObject name =
    (registry.nicknames.find? name).or (registry.latest.find? name)
  /-- The rows of a table are counted over the whole run. -/
  counterTotal : ∀ table, host.counterTotal table = registry.totals.value table
  /-- Of the rows around an activation that belong to a table, the nearest one is found. -/
  ancestor : ∀ table, host.ancestor table =
    activation.enclosing.find? fun row => row.table = table
  fake : host.fake = setting.fake
  today : host.today = setting.today

/-- The run itself resolves names so. -/
theorem Activation.host_resolves (setting : Setting) (activation : Activation)
    (registry : Registry) :
    (activation.host setting registry).Resolves setting activation registry where
  findObject := by
    intro name
    show (registry.nicknames.find? name <|> registry.latest.find? name) = _
    cases registry.nicknames.find? name <;> rfl
  counterTotal := fun _ => rfl
  ancestor := fun _ => rfl
  fake := rfl
  today := rfl

/-- A snapshot shows what the run itself shows. Its map of rows takes the latest rows first and then
the nicknames, each of which takes the place of a table of the same name. -/
theorem Snapshot.host_take (hregistry : registry.Unambiguous) :
    (Snapshot.take setting activation registry).host = activation.host setting registry := by
  have hobjects : (fun name => (Assoc.putAll registry.nicknames registry.latest).find? name) =
      registry.findObject := by
    funext name
    rw [Assoc.find?_putAll hregistry.nicknames]
    exact ((activation.host_resolves setting registry).findObject name).symm
  show ({ (activation.host setting registry) with
    findObject := fun name => (Assoc.putAll registry.nicknames registry.latest).find? name } :
      Host) = _
  rw [hobjects]
  rfl

/-! ## The kinds of errors -/

namespace Error

variable {error : Error} {kind : ErrorKind}

/-- A frame with a line leaves the kind of an error alone. -/
theorem kind?_orAtLine (h : error.kind? = some kind) (file : String) (line : Nat) :
    (error.orAtLine file line).kind? = some kind := by
  cases error with
  | placed => exact h
  | noEncoder | io => cases h

end Error

/-- The fault of a call has one of three kinds. -/
theorem CallFault.kind_ne_general (fault : CallFault) : fault.kind ≠ .general := by
  cases fault <;> exact nofun

namespace Expr

/-- The error of a fault has the kind of the fault. -/
theorem evaluationError_kind (scope : Scope) (definition : String) (fault : Fault) :
    (evaluationError scope definition fault).kind? = some fault.kind.errorKind := by
  obtain ⟨message, herror⟩ := evaluationError_eq scope definition fault
  rw [herror]
  rfl

/-- The kind of a call's fault survives in the expression around the call. -/
theorem Fault.ofError_kind (fault : CallFault) :
    (Fault.ofError fault.error).kind.errorKind = fault.kind := by
  have hplain : fault.error.kind? = some fault.kind := rfl
  unfold Fault.ofError
  rw [hplain]
  cases hkind : fault.kind with
  | name | grammar | value => rfl
  | general => exact absurd hkind fault.kind_ne_general

/-! ## Arguments -/

/-- A value that has a place in a field is no space of variables. -/
theorem resolve_eq_pure {value : Value} {field : FieldValue} (h : value.toField = .ok field) :
    Evaluation.resolve value = pure value := by
  cases value with
  | space number => cases h
  | _ => rfl

/-- What is drawn leaves the rest of a store as it is. -/
theorem Evaluation.draw_apply {α : Type} (drawing : Drawing α) (store : Store) :
    Evaluation.draw drawing store = match drawing store.generator with
      | (.ok a, generator) => .ok a { store with generator }
      | (.error fault, generator) => .error fault { store with generator } := by
  have hdraw : Evaluation.draw drawing store =
      Evaluation.lift (drawing store.generator).1
        { store with generator := (drawing store.generator).2 } := rfl
  rw [hdraw]
  rcases drawing store.generator with ⟨result, generator⟩
  cases result <;> rfl

/-- Arguments that have places in fields are passed as they are. -/
theorem resolveAll_eq_pure {given : Arguments} {arguments : CallArguments}
    (h : given.toFields = .ok arguments) : Evaluation.resolveAll given = pure given := by
  have hpositional (items : List Value) (fields : List FieldValue)
      (hitems : items.mapM Value.toField = .ok fields) :
      items.mapM Evaluation.resolve = (pure items : Evaluation (List Value)) := by
    induction items generalizing fields with
    | nil => rfl
    | cons first rest ih =>
        rw [List.mapM_cons] at hitems
        obtain ⟨field, hfirst, hitems⟩ := bind_eq_ok hitems
        obtain ⟨others, hrest, _⟩ := bind_eq_ok hitems
        rw [List.mapM_cons, resolve_eq_pure hfirst, pure_bind, ih others hrest, pure_bind]
  have hnamed (entries : Assoc Value) (fields : List (String × FieldValue))
      (hentries : entries.mapM namedField = .ok fields) :
      (entries.mapM fun entry => do return (entry.1, ← Evaluation.resolve entry.2)) =
        (pure entries : Evaluation (Assoc Value)) := by
    induction entries generalizing fields with
    | nil => rfl
    | cons first rest ih =>
        obtain ⟨name, value⟩ := first
        rw [List.mapM_cons] at hentries
        obtain ⟨field, hfirst, hentries⟩ := bind_eq_ok hentries
        obtain ⟨others, hrest, _⟩ := bind_eq_ok hentries
        obtain ⟨_, hvalue, _⟩ := bind_eq_ok hfirst
        rw [List.mapM_cons, resolve_eq_pure hvalue, pure_bind, pure_bind, ih others hrest,
          pure_bind]
  obtain ⟨fields, hfields, h⟩ := bind_eq_ok h
  obtain ⟨entries, hentries, _⟩ := bind_eq_ok h
  unfold Evaluation.resolveAll
  rw [hpositional _ fields hfields, pure_bind, hnamed _ entries hentries, pure_bind]

end Expr

/-! ## Calls -/

/-- In the structure of a recipe the name of such a function leads to it. -/
theorem Call.run_eq_eager {name : String} {function : EagerFunction}
    (hname : EagerFunction.ofName? name = some function) (positional : List (Operand σ))
    (named : Assoc (Operand σ)) :
    Call.run setting activation name positional named =
      Call.eager setting activation function positional named := by
  unfold EagerFunction.ofName? at hname
  split at hname
  case h_10 => cases hname
  all_goals
    cases hname
    rfl

/-- Inside an expression it leads to the same one. -/
theorem Host.inline?_eager {name : String} {function : EagerFunction}
    (hname : EagerFunction.ofName? name = some function) (host : Host) :
    host.inline? name = some fun running arguments =>
      whenRunning running (callInline host function arguments) := by
  have hchoice : name ≠ "random_choice" := by
    rintro rfl
    cases hname
  have hlocale : name ≠ "fake_i18n" := by
    rintro rfl
    cases hname
  unfold Host.inline?
  rw [if_neg hchoice, if_neg hlocale, hname, Option.map_some]

/-- What a call of a function ends with in the structure of a recipe. -/
def CallResult.inStructure (result : CallResult) : Except Error FieldValue × Generator :=
  (result.1.mapError CallFault.error, result.2)

/-- What it ends with inside an expression. -/
def CallResult.inExpression (result : CallResult) :
    Except Expr.Fault Expr.Value × Generator :=
  match result with
  | (.ok value, generator) => (.ok (.ofField value), generator)
  | (.error fault, generator) => (.error (Expr.Fault.ofError fault.error), generator)

/-- A call in the structure of a recipe and one inside an expression end alike: with the same value,
or with errors that have the same kind where they leave the definition around the call, and with the
same random numbers behind them. -/
inductive EndAlike :
    Except Error FieldValue × Generator → Except Expr.Fault Expr.Value × Generator → Prop where
  | value (value : FieldValue) (generator : Generator) :
      EndAlike (.ok value, generator) (.ok (.ofField value), generator)
  | failed (error : Error) (fault : Expr.Fault) (generator : Generator)
      (hkind : ∀ scope definition file line,
        ((Expr.evaluationError scope definition fault).orAtLine file line).kind? =
          (error.orAtLine file line).kind?) :
      EndAlike (.error error, generator) (.error fault, generator)

/-- Whatever a function gives, it ends alike on both ways out. -/
theorem CallResult.endAlike (result : CallResult) :
    EndAlike result.inStructure result.inExpression := by
  rcases result with ⟨answer, generator⟩
  cases answer with
  | ok value => exact .value value generator
  | error fault =>
      refine .failed fault.error (Expr.Fault.ofError fault.error) generator ?_
      intro scope definition file line
      have hraised : (Expr.evaluationError scope definition
          (Expr.Fault.ofError fault.error)).kind? = some fault.kind := by
        rw [Expr.evaluationError_kind, Expr.Fault.ofError_kind]
      have hplain : fault.error.kind? = some fault.kind := rfl
      rw [Error.kind?_orAtLine hraised, Error.kind?_orAtLine hplain]

/-- A call in the structure of a recipe, once its arguments have been rendered, is a call of the
function on the run. -/
theorem Call.run_function {name : String} {function : EagerFunction}
    {positional : List (Operand σ)} {named : Assoc (Operand σ)} {machine later : Machine σ}
    {arguments : CallArguments} (hname : EagerFunction.ofName? name = some function)
    (hvalues : Call.values positional named machine = (.ok arguments, later)) :
    Call.run setting activation name positional named machine =
      let result := function (activation.host setting later.registry) arguments
        later.registry.generator
      (result.inStructure.1, later.withGenerator result.inStructure.2) := by
  rw [Call.run_eq_eager hname]
  unfold Call.eager
  rw [Action.bind_apply, hvalues]
  rfl

/-- A call inside an expression that finds the run is a call of the function on the snapshot. -/
theorem Expr.Evaluation.call_function {handler : Handler} {name : String}
    {function : EagerFunction} {given : Arguments} {arguments : CallArguments} {store : Store}
    (hname : EagerFunction.ofName? name = some function) (hfields : given.toFields = .ok arguments)
    (hrun : lookup? (activation.scope setting registry) runName store = .ok (some .run) store) :
    call (activation.scope setting registry) handler (.function name) given store =
      draw (fun generator => (function (Snapshot.take setting activation registry).host arguments
        generator).inExpression) store := by
  have hfunction : (activation.scope setting registry).function? name = some _ :=
    Host.inline?_eager hname (Snapshot.take setting activation registry).host
  have hinline : callInline (Snapshot.take setting activation registry).host function given =
      fun generator => (function (Snapshot.take setting activation registry).host arguments
        generator).inExpression := by
    funext generator
    unfold callInline
    rw [hfields]
    rfl
  show (resolveAll given >>= fun given => _) store = _
  rw [resolveAll_eq_pure hfields, pure_bind, hfunction, ← hinline]
  show (lookup? (activation.scope setting registry) runName >>= _) store = _
  simp only [bind, EStateM.bind, hrun]
  rfl

/-- An expression finds the run, unless the row that is being built has a field of its name. -/
theorem Activation.lookup?_run (hown : activation.ownField? registry Expr.runName = none)
    (generator : Generator) :
    Expr.Evaluation.lookup? (activation.scope setting registry) Expr.runName { generator } =
      .ok (some .run) { generator } := by
  have hvalue : activation.valueOf? setting registry Expr.runName = some .run := by
    unfold Activation.valueOf?
    rw [hown]
    rfl
  show EStateM.Result.ok (none <|> (none <|> activation.valueOf? setting registry Expr.runName) <|>
    _) _ = _
  rw [hvalue]
  rfl

namespace Recipe

/-- At every moment of every run, functions inside expressions see a snapshot that shows the run
itself: they find the row of a nickname before the latest row of a table, the nearest row around
them, and counts over the whole run. So a function ends alike in both places, whatever its
arguments are, and what it ends with is what the calls in both places end with. -/
theorem hosts_agree (recipe : Recipe) (request : Request) (sink : Sink σ) (out : σ) :
    ∀ sighting ∈ (recipe.watch request sink out).2.out.sightings,
      ∀ (setting : Setting) (activation : Activation),
        let snapshot := (Snapshot.take setting activation sighting.registry).host
        let run := activation.host setting sighting.registry
        snapshot = run ∧ run.Resolves setting activation sighting.registry ∧
        (∀ (function : EagerFunction) (arguments : CallArguments) (generator : Generator),
          EndAlike (function run arguments generator).inStructure
            (function snapshot arguments generator).inExpression) ∧
        ∀ (name : String) (function : EagerFunction),
          EagerFunction.ofName? name = some function →
          (∀ {τ : Type} {positional : List (Operand τ)} {named : Assoc (Operand τ)}
            {machine later : Machine τ} {arguments : CallArguments} {generator : Generator},
            Call.values positional named machine = (.ok arguments, later) →
            later.registry = { sighting.registry with generator } →
            Call.run setting activation name positional named machine =
              ((function run arguments generator).inStructure.1,
                later.withGenerator (function run arguments generator).inStructure.2)) ∧
          ∀ (handler : Expr.Handler) {given : Expr.Arguments} {arguments : CallArguments}
            {store : Expr.Store}, given.toFields = .ok arguments →
            Expr.Evaluation.lookup? (activation.scope setting sighting.registry) Expr.runName
              store = .ok (some .run) store →
            Expr.Evaluation.call (activation.scope setting sighting.registry) handler
              (.function name) given store =
              Expr.Evaluation.draw (fun generator =>
                (function snapshot arguments generator).inExpression) store := by
  intro sighting hsighting setting activation snapshot run
  have harises : sighting.registry.Arises :=
    (registries_arise recipe request sink out).sightings sighting hsighting
  have hsnapshot : snapshot = run := Snapshot.host_take harises.unambiguous
  refine ⟨hsnapshot, activation.host_resolves setting _, ?_, ?_⟩
  · intro function arguments generator
    rw [hsnapshot]
    exact CallResult.endAlike _
  · intro name function hname
    refine ⟨?_, fun handler _ _ _ hfields hrun =>
      Expr.Evaluation.call_function hname hfields hrun⟩
    intro τ positional named machine later arguments generator hvalues hlater
    -- What the functions see of the run does not hang on its random numbers.
    have hrun : activation.host setting later.registry = run := by
      rw [hlater]
      rfl
    have hgenerator : later.registry.generator = generator := by rw [hlater]
    rw [Call.run_function hname hvalues, hrun, hgenerator]

/-- A recipe with a nickname that is the name of a table. -/
def clashing : Recipe where
  file := "recipe.yml"
  options := []
  groups := []
  templates :=
    [.mk "Account" none none
      [.mk "Name" (.value ⟨.text "first", "recipe.yml", 3⟩) "recipe.yml" 3] [] "recipe.yml" 1,
    .mk "Contact" (some "Account") none
      [.mk "Name" (.value ⟨.text "contact", "recipe.yml", 7⟩) "recipe.yml" 7] [] "recipe.yml" 4,
    .mk "Report" none none [] [] "recipe.yml" 8]

/-- Both calls for a reference find the row of the nickname. -/
theorem hosts_agree_clashing :
    ∃ sighting ∈ (clashing.watch once Sink.memory {}).2.out.sightings,
      ∃ activation ∈ sighting.moment.rendersIn?,
        sighting.registry.latest.find? "Account" = some ⟨.made 0, "Account", 1⟩ ∧
        (Call.run (once.setting ⟨[], []⟩) activation "reference"
          [{ render := return .text "Account" }] [] (⟨sighting.registry, ()⟩ : Machine Unit)).1 =
            .ok (.row ⟨.made 1, "Contact", 1⟩) ∧
        Expr.Evaluation.call (activation.scope (once.setting ⟨[], []⟩) sighting.registry)
          ⟨fun _ _ _ _ _ => return .null, fun _ => return (), fun _ => return (),
            fun _ _ _ => return ()⟩
          (.function "reference") { positional := [.text "Account"] }
          { generator := sighting.registry.generator } =
            .ok (.row ⟨.made 1, "Contact", 1⟩) { generator := sighting.registry.generator } := by
  have hseen : (clashing.watch once Sink.memory {}).2.out.sightings.any (fun sighting =>
      (sighting.moment.rendersIn?.any fun activation => activation.row.isNone) &&
        sighting.registry.latest.find? "Account" == some ⟨.made 0, "Account", 1⟩ &&
        sighting.registry.nicknames.find? "Account" == some ⟨.made 1, "Contact", 1⟩) = true := by
    decide +kernel
  obtain ⟨sighting, hsighting, hseen⟩ := List.any_eq_true.mp hseen
  obtain ⟨hseen, hnickname⟩ := Bool.and_eq_true_iff.mp hseen
  obtain ⟨hmoment, hlatest⟩ := Bool.and_eq_true_iff.mp hseen
  rcases hactivation : sighting.moment.rendersIn? with _ | activation
  · rw [hactivation] at hmoment
    cases hmoment
  have hrow : activation.row = none := by
    rw [hactivation] at hmoment
    exact Option.isNone_iff_eq_none.mp hmoment
  have hown : activation.ownField? sighting.registry Expr.runName = none := by
    unfold Activation.ownField?
    rw [hrow]
    rfl
  obtain ⟨hsnapshot, hresolves, _, hcalls⟩ := hosts_agree clashing once Sink.memory {} sighting
    hsighting (once.setting ⟨[], []⟩) activation
  obtain ⟨hstructure, hexpression⟩ := hcalls "reference" _ rfl
  have hfound : (activation.host (once.setting ⟨[], []⟩) sighting.registry).findObject "Account" =
      some ⟨.made 1, "Contact", 1⟩ := by
    rw [hresolves.findObject, eq_of_beq hnickname]
    rfl
  have hreference : EagerFunction.pure EagerFunction.reference
      (activation.host (once.setting ⟨[], []⟩) sighting.registry) ⟨[.text "Account"], []⟩
        sighting.registry.generator =
          (.ok (.row ⟨.made 1, "Contact", 1⟩), sighting.registry.generator) := by
    have hargument : CallArguments.require "reference" 0 "x" ⟨[.text "Account"], []⟩ =
        .ok (.text "Account") := rfl
    unfold EagerFunction.pure EagerFunction.reference
    rw [hargument]
    dsimp only [bind, Except.bind]
    rw [hfound]
    rfl
  have hvalues : Call.values [{ render := return .text "Account" }] []
      (⟨sighting.registry, ()⟩ : Machine Unit) =
        (.ok ⟨[.text "Account"], []⟩, ⟨sighting.registry, ()⟩) := rfl
  have hfields : ({ positional := [.text "Account"] } : Expr.Arguments).toFields =
      .ok ⟨[.text "Account"], []⟩ := rfl
  refine ⟨sighting, hsighting, activation, hactivation, eq_of_beq hlatest, ?_, ?_⟩
  · rw [hstructure hvalues rfl, hreference]
    rfl
  · rw [hexpression _ hfields (Activation.lookup?_run hown _), hsnapshot,
      Expr.Evaluation.draw_apply, hreference]
    rfl

end Recipe

end RecordRecipe
