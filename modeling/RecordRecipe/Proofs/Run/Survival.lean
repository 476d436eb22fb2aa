import RecordRecipe.Proofs.Expr.Whole
import RecordRecipe.Proofs.Run.Naming

/-!
# Values that expressions hand on

A definition that is a single value tag around a name hands on what the name stands for: an earlier
field of the row, or an option. `Activation.values_survive_iff` says which values come out as they
went in.
-/

namespace RecordRecipe

open RecordRecipe.Expr (IsName Value nameDefinition reservedWords)

variable {setting : Setting} {activation : Activation} {registry : Registry} {name : String}
  {value : FieldValue}

/-- The value is no float that is whole. -/
def FieldValue.Survives (value : FieldValue) : Prop := ∀ x, value = .float x → ∀ n, ¬ IsWhole x n

namespace Activation

/-- What an expression finds under a name among the earlier fields of the row and the options. Other
variables of the name hide an option. -/
inductive Finds (setting : Setting) (activation : Activation) (registry : Registry)
    (name : String) (value : FieldValue) : Prop
  | field (h : activation.ownField? registry name = some value)
  | option (hfield : activation.ownField? registry name = none)
      (hbuiltin : activation.builtin? setting name = none)
      (hancestor : activation.ancestor? name = none)
      (hvisible : registry.visibleObject name = none)
      (h : setting.options.find? name = some value)

theorem Finds.valueOf? (h : Finds setting activation registry name value) :
    activation.valueOf? setting registry name = some (Value.ofField value) := by
  unfold Activation.valueOf?
  cases h with
  | field h => rw [h]; rfl
  | option hfield hbuiltin hancestor hvisible h =>
      rw [hfield, hbuiltin, hancestor, hvisible, h]
      rfl

/-- A value goes into expressions and comes back as it was if and only if it is no whole float; a
whole float comes back as its integer, the power of two behind the integers of 64 bits as the
greatest of them. So it is, without a trace in the run, when a definition is a single value tag
around the name of an earlier field or of an option that holds anything but a text. -/
theorem values_survive_iff (value : FieldValue) :
    ((Value.ofField value).toField = .ok value ↔ value.Survives) ∧
    (∀ x n, value = .float x → IsWhole x n →
      (Value.ofField value).toField = .ok (.ofInt (min n (2 ^ 63 - 1)))) ∧
    ∀ {σ : Type} (setting : Setting) (activation : Activation) (machine : Machine σ)
      (name file : String) (line : Nat),
      IsName name → name ∉ reservedWords → Finds setting activation machine.registry name value →
      (∀ content, value ≠ .text content) →
      let rendered := Written.render setting activation
        ⟨.text (nameDefinition name), file, line⟩ machine
      (rendered = (.ok value, machine) ↔ value.Survives) ∧
      ∀ x n, value = .float x → IsWhole x n →
        rendered = (.ok (.ofInt (min n (2 ^ 63 - 1))), machine) := by
  have hinteger : ∀ x n, value = .float x → IsWhole x n →
      (Value.ofField value).toField = .ok (.ofInt (min n (2 ^ 63 - 1))) := by
    rintro x n rfl hn
    exact Value.toField_ofField_whole hn
  refine ⟨Value.toField_ofField_iff value, hinteger, ?_⟩
  intro σ setting activation machine name file line hname hreserved hfinds htext rendered
  have hrendered : rendered = ((Expr.passed value).mapError (Error.orAtLine file line), machine) :=
    Written.render_name hname hreserved hfinds.valueOf? file line
  have hwhole : ∀ x n, value = .float x → IsWhole x n →
      rendered = (.ok (.ofInt (min n (2 ^ 63 - 1))), machine) := by
    intro x n hx hn
    rw [hrendered, Expr.passed, hinteger x n hx hn]
    rfl
  refine ⟨⟨fun hkept x hx n hn => ?_, fun hsurvives => ?_⟩, hwhole⟩
  · rw [hwhole x n hx hn, hx] at hkept
    cases hkept
  · rw [hrendered, Expr.passed, (Value.toField_ofField_iff value).mpr hsurvives]
    cases value with
    | text content => exact absurd rfl (htext content)
    | _ => rfl

/-- An option that is a half comes out as it went in, and one that is the float of two as an integer. -/
theorem values_survive_iff_half :
    let setting : Setting := ⟨[("half", .float 2.5), ("two", .float 2.0)], .epoch, .builtin⟩
    let machine : Machine Unit := ⟨{ generator := .ofSeed 0 }, ()⟩
    Written.render setting { table := "A" } ⟨.text "<<half>>", "recipe.yml", 3⟩ machine =
        (.ok (.float 2.5), machine) ∧
      Written.render setting { table := "A" } ⟨.text "<<two>>", "recipe.yml", 4⟩ machine =
        (.ok (.int 2), machine) := by
  intro setting machine
  have hhalf : FieldValue.Survives (.float 2.5) := by
    rintro _ ⟨⟩ n hn
    have hnone : Expr.wholeNumber? 2.5 = none := by decide +kernel
    rw [Expr.wholeNumber?_of_isWhole hn] at hnone
    cases hnone
  have htwo : Expr.wholeNumber? 2.0 = some 2 := by decide +kernel
  obtain ⟨n, hn⟩ := Expr.isWhole_of_wholeNumber? htwo
  rw [Expr.wholeNumber?_of_isWhole hn] at htwo
  constructor
  · have hkept := (values_survive_iff (.float 2.5)).2.2 setting { table := "A" } machine "half"
      "recipe.yml" 3 ⟨by decide, by decide⟩ (by decide) (.option rfl rfl rfl rfl rfl) nofun
    exact hkept.1.mpr hhalf
  · have htaken := (values_survive_iff (.float 2.0)).2.2 setting { table := "A" } machine "two"
      "recipe.yml" 4 ⟨by decide, by decide⟩ (by decide) (.option rfl rfl rfl rfl rfl) nofun
    have hwhole := htaken.2 2.0 n rfl hn
    rw [Option.some.inj htwo] at hwhole
    exact hwhole

end Activation

/-- A request that brings along a float that is whole. -/
def Recipe.withWholeFloat : Request :=
  { once with options := [("o", .float 2.0)] }

/-- A float that is whole comes back as an integer, the power of two behind the integers of 64 bits as
another number; and a field that hands on an option holds an integer where the option is a float. -/
theorem Recipe.whole_float_changes :
    (Value.ofField (.float 2.0)).toField = .ok (.int 2) ∧
    (Value.ofField (.float 9223372036854775808.0)).toField = .ok (.int 9223372036854775807) ∧
    withWholeFloat.options.map (fun option => (option.1, option.2.typeName)) = [("o", "float")] ∧
    (handedOn.generate withWholeFloat Sink.memory {}).2.rows.map (fun row =>
      row.2.map fun field => (field.1, field.2.typeName)) = [[("id", "int"), ("f", "int")]] :=
  ⟨rfl, rfl, by decide, by decide +kernel⟩

end RecordRecipe
