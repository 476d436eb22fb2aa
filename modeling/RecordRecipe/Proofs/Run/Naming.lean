import RecordRecipe.Proofs.Expr.Lookup
import RecordRecipe.Proofs.Mapping.Steps
import RecordRecipe.Proofs.Run.Hosts
import RecordRecipe.Run.Row

/-!
# Names in front of a dot and in expressions

A name in front of a dot stands for a row, and in an expression it is a variable. The row is looked
for in one place after the other; the variables of an expression are put one over the other, those
of the next place first. `Recipe.dotted_agree` says that both come to the same row at any moment of
any run, and that they read the same field of it.
-/

namespace RecordRecipe

open RecordRecipe.Expr (Scope Value)

variable {σ : Type} {setting : Setting} {activation : Activation} {registry : Registry}
  {name : String}

/-! ## The variables of an expression -/

/-- The names stay when all values are changed alike. -/
theorem Assoc.keys_map {α β : Type} {change : α → β} (entries : Assoc α) :
    keys (entries.map fun entry => (entry.1, change entry.2)) = keys entries := by
  unfold keys
  rw [List.map_map]
  rfl

/-- Rows as variables. -/
def Assoc.asVariables (rows : Assoc RowRef) : Assoc Value :=
  rows.map fun entry => (entry.1, .row entry.2)

namespace Activation

/-- The names of the variables that every expression has. -/
def builtinNames : List String := ["id", "this", "number", "today", "fake", Expr.runName]

/-- The variables that every expression has. -/
def builtins (setting : Setting) (activation : Activation) : Assoc Value :=
  (activation.currentId.toList.map fun id => ("id", .ofInt id)) ++
    (activation.row.toList.map fun row => ("this", .row row)) ++
    [("number", .ofInt activation.started), ("today", .date setting.today), ("fake", .fake none),
      (Expr.runName, .run)]

/-- The fields of the row that is being built. -/
def ownFields (activation : Activation) (registry : Registry) : Assoc FieldValue :=
  activation.row.elim [] registry.fieldsOf

/-- The variables of an expression, put one over the other: the options, the rows that have a
nickname, the latest rows of the tables, the rows around the activation from the farthest to the
nearest, the variables that every expression has, and the fields of the row that is being built. -/
def bindings (setting : Setting) (activation : Activation) (registry : Registry) : Assoc Value :=
  let options : Assoc Value := setting.options.map fun entry => (entry.1, .ofField entry.2)
  let nicknamed := Assoc.putAll (Assoc.asVariables registry.nicknames) options
  let visible := Assoc.putAll (Assoc.asVariables registry.latest) nicknamed
  let surrounded := Assoc.putAll
    (activation.enclosing.reverse.map fun row => (row.table, .row row)) visible
  let equipped := Assoc.putAll (activation.builtins setting) surrounded
  Assoc.putAll ((activation.ownFields registry).map fun entry => (entry.1, .ofField entry.2))
    equipped

/-- The nearest row of a table is found under its name. -/
theorem find?_rows (rows : List RowRef) :
    Assoc.find? name (rows.map fun row => (row.table, Value.row row)) =
      (nearest? rows name).map Value.row := by
  induction rows with
  | nil => rfl
  | cons first rest ih =>
      by_cases htable : first.table = name
      · simp [Assoc.find?, nearest?, htable]
      · simpa [Assoc.find?, nearest?, htable] using ih

/-- No variable that every expression has stands twice. -/
theorem nodup_builtins : (activation.builtins setting).keys.Nodup := by
  unfold builtins Assoc.keys
  cases activation.currentId <;> cases activation.row <;> simp [Expr.runName]

/-- No other names are among them. -/
theorem keys_builtins_subset : (activation.builtins setting).keys ⊆ builtinNames := by
  unfold builtins Assoc.keys builtinNames
  cases activation.currentId <;> cases activation.row <;> simp

/-- The variables that every expression has, by their names. -/
theorem find?_builtins :
    (activation.builtins setting).find? name = activation.builtin? setting name := by
  unfold builtin? builtins
  by_cases hrun : name = Expr.runName
  · subst hrun
    cases activation.currentId <;> cases activation.row <;> rfl
  · rw [if_neg hrun]
    split
    case h_6 hfake htoday hnumber hthis hid =>
      cases activation.currentId <;> cases activation.row <;>
        simp [Assoc.find?, Ne.symm hid, Ne.symm hthis, Ne.symm hnumber, Ne.symm htoday,
          Ne.symm hfake, Ne.symm hrun]
    all_goals
      cases activation.currentId <;> cases activation.row <;> rfl

/-- The row in view under a name, among variables. -/
theorem find?_visible (hregistry : registry.Unambiguous) (options : Assoc Value) :
    (Assoc.putAll (Assoc.asVariables registry.latest)
      (Assoc.putAll (Assoc.asVariables registry.nicknames) options)).find? name =
        ((registry.visibleObject name).map Value.row).or (options.find? name) := by
  have hlatest : (Assoc.asVariables registry.latest).keys.Nodup := by
    rw [Assoc.asVariables, Assoc.keys_map]
    exact hregistry.latest
  have hnicknames : (Assoc.asVariables registry.nicknames).keys.Nodup := by
    rw [Assoc.asVariables, Assoc.keys_map]
    exact hregistry.nicknames
  rw [Assoc.find?_putAll hlatest, Assoc.find?_putAll hnicknames]
  unfold Assoc.asVariables Registry.visibleObject
  rw [Assoc.find?_map, Assoc.find?_map]
  cases registry.latest.find? name <;> rfl

/-- Every variable of an expression has the value that was put last. -/
theorem find?_bindings (hregistry : registry.Unambiguous) :
    (activation.bindings setting registry).find? name =
      activation.valueOf? setting registry name := by
  have hown : (activation.ownFields registry).find? name = activation.ownField? registry name := by
    unfold ownFields ownField?
    cases activation.row <;> rfl
  have hfields : (Assoc.keys ((activation.ownFields registry).map fun entry =>
      (entry.1, Value.ofField entry.2))).Nodup := by
    rw [Assoc.keys_map, ownFields]
    cases activation.row with
    | none => exact List.nodup_nil
    | some row => exact hregistry.fieldsOf row
  unfold bindings
  dsimp only
  -- From the outermost put inwards, each is one more place to look at.
  rw [Assoc.find?_putAll hfields, Assoc.find?_map, hown, Assoc.find?_putAll nodup_builtins,
    find?_builtins, Assoc.find?_putAll_reverse, ← List.map_reverse, List.reverse_reverse,
    find?_rows, find?_visible hregistry, Assoc.find?_map]
  unfold valueOf? ancestor?
  simp only [Option.orElse_eq_orElse, Option.orElse_eq_or]

end Activation

/-- The row that a variable of an expression is. -/
def Expr.Scope.row? (scope : Scope) (name : String) : Option RowRef :=
  match scope.valueOf? name with
  | some (.row target) => some target
  | _ => none

/-- Such a variable is that row. -/
theorem Expr.Scope.valueOf?_of_row? {scope : Scope} {target : RowRef}
    (h : scope.row? name = some target) : scope.valueOf? name = some (.row target) := by
  unfold row? at h
  split at h
  next found hfound =>
    cases h
    exact hfound
  next => cases h

/-- The row that an option holds. -/
def Setting.row? (setting : Setting) (name : String) : Option RowRef :=
  (setting.options.find? name).bind FieldValue.row?

namespace Activation

/-- A name in front of a dot stands for the row that the variable of that name is. An option is a
variable only. -/
theorem scope_row? (hbuiltin : name ∉ builtinNames)
    (hown : ∀ value, activation.ownField? registry name = some value →
      ∃ target, value = .row target) :
    (activation.scope setting registry).row? name =
      (activation.rowNamed? registry name).or (setting.row? name) := by
  have hnone : activation.builtin? setting name = none := by
    rw [← find?_builtins]
    exact Assoc.find?_eq_none fun hmem => hbuiltin (keys_builtins_subset hmem)
  have hid : name ≠ "id" := by
    rintro rfl
    exact hbuiltin (by simp [builtinNames])
  have hthis : name ≠ "this" := by
    rintro rfl
    exact hbuiltin (by simp [builtinNames])
  have hfield : (activation.row.bind fun row => (registry.field? row name).bind FieldValue.row?) =
      (activation.ownField? registry name).bind FieldValue.row? := by
    unfold ownField? Registry.field?
    simp only [if_neg hid, Option.bind_assoc]
  unfold Expr.Scope.row? rowNamed?
  rw [if_neg hthis, hfield]
  show (match activation.valueOf? setting registry name with
    | some (.row target) => some target
    | _ => none) = _
  unfold valueOf?
  rw [hnone]
  -- Both go through the same places, and the options are left for the variable alone.
  cases hvalue : activation.ownField? registry name with
  | some value =>
      obtain ⟨target, rfl⟩ := hown value hvalue
      rfl
  | none =>
      cases activation.ancestor? name with
      | some row => rfl
      | none =>
          cases registry.visibleObject name with
          | some row => rfl
          | none =>
              unfold Setting.row?
              cases setting.options.find? name with
              | none => rfl
              | some value => cases value <;> rfl

end Activation

/-! ## Reading a field of a named row -/

namespace Registry

/-- A field of the row that a name stands for. -/
def readField (registry : Registry) (name : String) (target : RowRef) (field : String) :
    Except Error FieldValue :=
  match registry.field? target field with
  | some value => .ok value
  | none => .error (CallFault.missingField name target.table field).error

end Registry

/-- A call behind a dot finds the row that the name in front of it stands for, and reads the field
there. -/
theorem Call.run_dotted {field : String} (hfake : name ≠ "fake") (hname : '.' ∉ name.toList)
    (hfield : '.' ∉ field.toList) (positional : List (Operand σ)) (named : Assoc (Operand σ))
    (machine : Machine σ) :
    Call.run setting activation (name ++ "." ++ field) positional named machine =
      (match activation.rowNamed? machine.registry name with
        | some target => machine.registry.readField name target field
        | none => .error (CallFault.undefinedObject name).error, machine) := by
  have hshort : field.toList.contains '.' = false := by
    simpa using hfield
  unfold run
  rw [Expr.toList_path, Text.splitOnce_append hname]
  dsimp only
  rw [hshort, String.ofList_toList, String.ofList_toList]
  unfold dotted
  rw [if_neg Bool.false_ne_true, if_neg hfake, Action.bind_apply]
  dsimp only [Running.registry]
  cases activation.rowNamed? machine.registry name with
  | none => rfl
  | some target =>
      unfold Registry.readField
      dsimp only
      cases machine.registry.field? target field <;> rfl

/-- A definition whose program gives one result, whatever the random numbers are, and draws none of
them. -/
theorem Written.render_of_evaluate {definition : String} {program : Expr.Program}
    {machine : Machine σ} {result : Except Error FieldValue}
    (hprogram : Expr.Program.ofText definition = .ok program)
    (hevaluate : ∀ generator, program.evaluate (activation.scope setting machine.registry) definition
      generator = (result, generator))
    (file : String) (line : Nat) :
    Written.render setting activation ⟨.text definition, file, line⟩ machine =
      (result.mapError (Error.orAtLine file line), machine) := by
  unfold Written.render
  dsimp only
  rw [hprogram]
  dsimp only
  unfold Action.mapError
  dsimp only [bind, Action.andThen, Running.registry]
  rw [funext hevaluate]
  dsimp only [Running.draw]
  cases result <;> rfl

/-- A definition that is a value tag around a path of two names reads the field of the row that the
variable is. -/
theorem Written.render_path {field : String} {target : RowRef} (hname : Expr.IsName name)
    (hreserved : name ∉ Expr.reservedWords) (hfield : Expr.IsName field) {machine : Machine σ}
    (hrow : (activation.scope setting machine.registry).row? name = some target)
    (file : String) (line : Nat) :
    Written.render setting activation ⟨.text (Expr.pathDefinition name field), file, line⟩ machine =
      (((machine.registry.readField name target field).bind Expr.passed).mapError
        (Error.orAtLine file line), machine) := by
  have hvalue := Expr.Scope.valueOf?_of_row? hrow
  refine Written.render_of_evaluate (Expr.Program.ofText_path hname hreserved hfield)
    (fun generator => ?_) file line
  rw [Expr.Program.evaluate_path hname hfield hvalue]
  unfold Registry.readField
  show (match machine.registry.field? target field with
    | some value => Expr.passed value
    | none => _, generator) = _
  cases machine.registry.field? target field <;> rfl

/-- A definition that is a value tag around a name gives what the variable holds, passed through an
expression. -/
theorem Written.render_name (hname : Expr.IsName name) (hreserved : name ∉ Expr.reservedWords)
    {machine : Machine σ} {value : FieldValue}
    (hvalue : activation.valueOf? setting machine.registry name = some (Value.ofField value))
    (file : String) (line : Nat) :
    Written.render setting activation ⟨.text (Expr.nameDefinition name), file, line⟩ machine =
      ((Expr.passed value).mapError (Error.orAtLine file line), machine) :=
  Written.render_of_evaluate (Expr.Program.ofText_name hname hreserved)
    (fun generator => Expr.Program.evaluate_name hvalue _ generator) file line

namespace Recipe

/-- At every moment of every run, whatever is given for it and wherever it is: the variables of an
expression are put one over the other, and a name in front of a dot stands for the very row that its
variable is. Only the rows that options hold are variables without being found in front of a dot.
The call behind the dot and the expression read the same field of this row, provided that an
expression can spell both names: they give the field, or they fail for the lack of it. What the
expression gives has passed through an expression. -/
theorem dotted_agree (recipe : Recipe) (request : Request) (sink : Sink σ) (out : σ) :
    ∀ sighting ∈ (recipe.watch request sink out).2.out.sightings,
      ∀ (setting : Setting) (activation : Activation) (name : String),
        name ∉ Activation.builtinNames →
        (∀ value, activation.ownField? sighting.registry name = some value →
          ∃ target, value = .row target) →
        let scope := activation.scope setting sighting.registry
        (∀ other, scope.valueOf? other =
          (activation.bindings setting sighting.registry).find? other) ∧
        scope.row? name =
          (activation.rowNamed? sighting.registry name).or (setting.row? name) ∧
        ∀ {τ : Type} (machine : Machine τ), machine.registry = sighting.registry →
          ∀ field : String,
            ('.' ∉ name.toList → '.' ∉ field.toList →
              ∀ (positional : List (Operand τ)) (named : Assoc (Operand τ)),
                Call.run setting activation (name ++ "." ++ field) positional named machine =
                  (match activation.rowNamed? sighting.registry name with
                    | some target => sighting.registry.readField name target field
                    | none => .error (CallFault.undefinedObject name).error, machine)) ∧
            (Expr.IsName name → name ∉ Expr.reservedWords → Expr.IsName field →
              ∀ target, activation.rowNamed? sighting.registry name = some target →
              ∀ (file : String) (line : Nat),
                Written.render setting activation
                    ⟨.text (Expr.pathDefinition name field), file, line⟩ machine =
                  (((sighting.registry.readField name target field).bind Expr.passed).mapError
                    (Error.orAtLine file line), machine) ∧
                ∀ value, sighting.registry.readField name target field = .ok value →
                  ∃ result, Expr.passed value = .ok result ∧
                    ((∀ content, value ≠ .text content) → (∀ x, value ≠ .float x) →
                      result = value)) := by
  intro sighting hsighting setting activation name hbuiltin hown scope
  have harises : sighting.registry.Arises :=
    (registries_arise recipe request sink out).sightings sighting hsighting
  have hrows : scope.row? name =
      (activation.rowNamed? sighting.registry name).or (setting.row? name) :=
    Activation.scope_row? hbuiltin hown
  refine ⟨fun other => (Activation.find?_bindings harises.unambiguous).symm, hrows, ?_⟩
  intro τ machine hmachine field
  refine ⟨?_, ?_⟩
  · intro hname hfield positional named
    have hfake : name ≠ "fake" := by
      rintro rfl
      exact hbuiltin (by simp [Activation.builtinNames])
    rw [Call.run_dotted hfake hname hfield, hmachine]
  · intro hname hreserved hfield target htarget file line
    have hrow : (activation.scope setting machine.registry).row? name = some target := by
      rw [hmachine]
      show scope.row? name = _
      rw [hrows, htarget]
      rfl
    refine ⟨?_, fun value _ => Expr.passed_ok value⟩
    rw [Written.render_path hname hreserved hfield hrow, hmachine]

/-- A call and an expression both find the row of the table where a nickname has its name. -/
theorem dotted_agree_clashing :
    ∃ sighting ∈ (clashing.watch once Sink.memory {}).2.out.sightings,
      ∃ activation ∈ sighting.moment.rendersIn?,
        sighting.registry.nicknames.find? "Account" = some ⟨.made 1, "Contact", 1⟩ ∧
        (activation.scope (once.setting ⟨[], []⟩) sighting.registry).row? "Account" =
          some ⟨.made 0, "Account", 1⟩ ∧
        (Call.run (once.setting ⟨[], []⟩) activation "Account.Name" [] []
          (⟨sighting.registry, ()⟩ : Machine Unit)).1 = .ok (.text "first") ∧
        (Written.render (once.setting ⟨[], []⟩) activation
          ⟨.text "<<Account.Name>>", "recipe.yml", 8⟩
          (⟨sighting.registry, ()⟩ : Machine Unit)).1 = .ok (.text "first") := by
  have hseen : (clashing.watch once Sink.memory {}).2.out.sightings.any (fun sighting =>
      (sighting.moment.rendersIn?.any fun activation =>
        activation.row.isNone && activation.enclosing.isEmpty) &&
        sighting.registry.latest.find? "Account" == some ⟨.made 0, "Account", 1⟩ &&
        sighting.registry.nicknames.find? "Account" == some ⟨.made 1, "Contact", 1⟩ &&
        (sighting.registry.field? ⟨.made 0, "Account", 1⟩ "Name").bind FieldValue.text? ==
          some "first") = true := by
    decide +kernel
  obtain ⟨sighting, hsighting, hseen⟩ := List.any_eq_true.mp hseen
  simp only [Bool.and_eq_true, beq_iff_eq] at hseen
  obtain ⟨⟨⟨hmoment, hlatest⟩, hnickname⟩, hvalue⟩ := hseen
  obtain ⟨activation, hactivation, hmoment⟩ := (Option.any_eq_true _ _).mp hmoment
  obtain ⟨hrow, henclosing⟩ := Bool.and_eq_true_iff.mp hmoment
  have hown : ∀ value, activation.ownField? sighting.registry "Account" = some value →
      ∃ target, value = .row target := by
    intro value howned
    unfold Activation.ownField? at howned
    rw [Option.isNone_iff_eq_none.mp hrow] at howned
    cases howned
  have hnamed : activation.rowNamed? sighting.registry "Account" =
      some ⟨.made 0, "Account", 1⟩ := by
    unfold Activation.rowNamed? Activation.ancestor? Registry.visibleObject
    rw [if_neg (by decide), Option.isNone_iff_eq_none.mp hrow, List.isEmpty_iff.mp henclosing,
      hlatest]
    rfl
  have hread : sighting.registry.readField "Account" ⟨.made 0, "Account", 1⟩ "Name" =
      .ok (.text "first") := by
    obtain ⟨value, hfound, htext⟩ := Option.bind_eq_some_iff.mp hvalue
    unfold Registry.readField
    rw [hfound]
    cases value with
    | text content =>
        obtain rfl : content = "first" := Option.some.inj htext
        rfl
    | _ => cases htext
  obtain ⟨_, hrows, hreads⟩ := dotted_agree clashing once Sink.memory {} sighting hsighting
    (once.setting ⟨[], []⟩) activation "Account" (by decide) hown
  obtain ⟨hcall, hexpression⟩ := hreads (⟨sighting.registry, ()⟩ : Machine Unit) rfl "Name"
  refine ⟨sighting, hsighting, activation, hactivation, hnickname, ?_, ?_, ?_⟩
  · rw [hrows, hnamed]
    rfl
  · have hcalled := hcall (by decide) (by decide) [] []
    rw [hnamed] at hcalled
    exact (congrArg Prod.fst hcalled).trans hread
  · obtain ⟨hrendered, _⟩ := hexpression ⟨by decide, by decide⟩ (by decide) ⟨by decide, by decide⟩ _
      hnamed "recipe.yml" 8
    rw [hread] at hrendered
    exact congrArg Prod.fst hrendered

/-- A recipe that asks for a field of a row that an option holds. -/
def askingOption : Recipe where
  file := "recipe.yml"
  options := []
  groups := []
  templates := [.mk "A" none none
    [.mk "f" (.call "o.id" [] [] "recipe.yml" 4) "recipe.yml" 3] [] "recipe.yml" 1]

/-- A recipe with a table whose name is a word of expressions. -/
def tableNone : Recipe where
  file := "recipe.yml"
  options := []
  groups := []
  templates := [.mk "none" none none [] [] "recipe.yml" 1, .mk "B" none none
    [.mk "f" (.value ⟨.text "<<none.id>>", "recipe.yml", 4⟩) "recipe.yml" 4] [] "recipe.yml" 2]

/-- A row that an option holds is a variable, and it is not found in front of a dot. A row of a
table whose name is a word of expressions is found in front of a dot, and expressions cannot read
it. -/
theorem dotted_differs :
    (∃ merged, mergeOptions askingOption.options withForeignRow.options = .ok merged ∧
      ∃ sighting ∈ (askingOption.watch withForeignRow Sink.memory {}).2.out.sightings,
        ∃ activation ∈ sighting.moment.rendersIn?,
          activation.ownField? sighting.registry "o" = none ∧
          activation.rowNamed? sighting.registry "o" = none ∧
          (activation.scope (withForeignRow.setting merged) sighting.registry).row? "o" =
            some ⟨.given 0, "X", 3⟩) ∧
    ∃ sighting ∈ (tableNone.watch once Sink.memory {}).2.out.sightings,
      ∃ activation ∈ sighting.moment.rendersIn?,
        activation.ownField? sighting.registry "none" = none ∧
        activation.rowNamed? sighting.registry "none" = some ⟨.made 0, "none", 1⟩ ∧
        (Call.run (once.setting ⟨[], []⟩) activation "none.id" [] []
          (⟨sighting.registry, ()⟩ : Machine Unit)).1.isOk = true ∧
        (Written.render (once.setting ⟨[], []⟩) activation ⟨.text "<<none.id>>", "recipe.yml", 4⟩
          (⟨sighting.registry, ()⟩ : Machine Unit)).1.isOk = false := by
  have hoption : (askingOption.watch withForeignRow Sink.memory {}).2.out.sightings.any
      (fun sighting => sighting.moment.rendersIn?.any fun activation =>
        (activation.ownField? sighting.registry "o").isNone &&
        (activation.rowNamed? sighting.registry "o").isNone &&
        (activation.scope (withForeignRow.setting ⟨withForeignRow.options, ["o"]⟩)
          sighting.registry).row? "o" == some ⟨.given 0, "X", 3⟩) = true := by
    decide +kernel
  have hword : (tableNone.watch once Sink.memory {}).2.out.sightings.any
      (fun sighting => sighting.moment.rendersIn?.any fun activation =>
        (activation.ownField? sighting.registry "none").isNone &&
        activation.rowNamed? sighting.registry "none" == some ⟨.made 0, "none", 1⟩ &&
        (Call.run (once.setting ⟨[], []⟩) activation "none.id" [] []
          (⟨sighting.registry, ()⟩ : Machine Unit)).1.isOk &&
        !(Written.render (once.setting ⟨[], []⟩) activation ⟨.text "<<none.id>>", "recipe.yml", 4⟩
          (⟨sighting.registry, ()⟩ : Machine Unit)).1.isOk) = true := by
    decide +kernel
  constructor
  · obtain ⟨sighting, hsighting, hseen⟩ := List.any_eq_true.mp hoption
    obtain ⟨activation, hactivation, hseen⟩ := (Option.any_eq_true _ _).mp hseen
    simp only [Bool.and_eq_true, beq_iff_eq, Option.isNone_iff_eq_none] at hseen
    obtain ⟨⟨hown, hnamed⟩, hrow⟩ := hseen
    exact ⟨_, rfl, sighting, hsighting, activation, hactivation, hown, hnamed, hrow⟩
  · obtain ⟨sighting, hsighting, hseen⟩ := List.any_eq_true.mp hword
    obtain ⟨activation, hactivation, hseen⟩ := (Option.any_eq_true _ _).mp hseen
    simp only [Bool.and_eq_true, beq_iff_eq, Option.isNone_iff_eq_none,
      Bool.not_eq_true'] at hseen
    obtain ⟨⟨⟨hown, hnamed⟩, hcall⟩, hexpression⟩ := hseen
    exact ⟨sighting, hsighting, activation, hactivation, hown, hnamed, hcall, hexpression⟩

end Recipe

end RecordRecipe
