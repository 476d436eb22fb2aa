import RecordRecipe.Proofs.Containment.Program
import RecordRecipe.Run.Scope

/-!
# What is seen from a row lies within rows

A registry lies within some rows if every row that can be found in it does and every reference in
the fields of its rows. From there, the values of variables, the results of functions and the
values of whole definitions lie within the rows; `Activation.scope_within` is the main result.
-/

namespace RecordRecipe

open RecordRecipe.Expr (Arguments Value)
open RecordRecipe.Random (Generator)

variable {rows more : RowRef → Prop}

namespace FieldsWithin

variable {fields : Assoc FieldValue}

/-- The value under a name is within the rows of the fields. -/
theorem find? (h : FieldsWithin rows fields) {name : String} :
    ∀ value ∈ Assoc.find? name fields, value.Within rows :=
  fun _ hvalue => h _ (Assoc.mem_of_find? hvalue)

/-- Setting a field keeps the fields within rows. -/
theorem put (h : FieldsWithin rows fields) {name : String} {value : FieldValue}
    (hvalue : value.Within rows) : FieldsWithin rows (Assoc.put name value fields) := by
  intro entry hentry
  obtain rfl | hentry := Assoc.mem_put hentry
  · exact hvalue
  · exact h entry hentry

/-- Fields stay within more rows. -/
theorem mono (h : FieldsWithin rows fields) (hmore : ∀ row, rows row → more row) :
    FieldsWithin more fields :=
  fun entry hentry => (h entry hentry).mono hmore

end FieldsWithin

/-- What functions may ask of a run lies within some rows. -/
structure Host.Within (rows : RowRef → Prop) (host : Host) : Prop where
  objects : ∀ name, ∀ row ∈ host.findObject name, rows row
  ancestors : ∀ table, ∀ row ∈ host.ancestor table, rows row
  fake : host.fake.Within rows

/-- The references in the arguments of a function lie within some rows. -/
structure CallArguments.Within (rows : RowRef → Prop) (arguments : CallArguments) : Prop where
  positional : ∀ value ∈ arguments.positional, value.Within rows
  named : FieldsWithin rows arguments.named

namespace CallArguments

variable {arguments : CallArguments}

/-- Arguments stay within more rows. -/
theorem Within.mono (h : arguments.Within rows) (hmore : ∀ row, rows row → more row) :
    arguments.Within more :=
  ⟨fun value hvalue => (h.positional value hvalue).mono hmore, h.named.mono hmore⟩

/-- An argument is within the rows of the arguments. -/
theorem Within.get? (h : arguments.Within rows) (index : Nat) (name : String) :
    ∀ value ∈ arguments.get? index name, value.Within rows := by
  intro found hfound
  unfold CallArguments.get? at hfound
  split at hfound
  next value hvalue =>
    obtain rfl : value = found := by simpa using hfound
    exact h.named.find? value hvalue
  next => exact h.positional found (List.mem_of_getElem? hfound)

/-- An argument that has to be there is within the rows of the arguments. -/
theorem Within.require (h : arguments.Within rows) (function : String) (index : Nat)
    (name : String) : Gives (fun value => value.Within rows)
      (arguments.require function index name) := by
  unfold CallArguments.require
  split
  next value hvalue => exact h.get? index name value hvalue
  next => trivial

end CallArguments

namespace EagerFunction

variable {host : Host} {arguments : CallArguments}

/-- An integer is no reference. -/
theorem int_within (host : Host) :
    Gives (fun value => value.Within rows) (int host arguments) := by
  unfold int
  simp only [Gives.bind_iff, Gives.pure_iff]
  exact Gives.of_forall fun _ => FieldValue.within_ofInt

/-- A random number is no reference. -/
theorem randomNumber_within {generator : Generator} :
    Gives (fun value => value.Within rows) (randomNumber host arguments generator).1 := by
  unfold randomNumber
  split <;> trivial

/-- A moment is no reference. -/
theorem datetime_within : Gives (fun value => value.Within rows) (datetime host arguments) := by
  unfold datetime
  dsimp only
  split
  · simp only [Gives.bind_iff, Gives.pure_iff]
    exact Gives.of_forall fun _ => FieldValue.within_moment
  · simp only [Gives.bind_iff]
    refine Gives.of_forall fun _ => Gives.of_forall fun _ => Gives.of_forall fun _ =>
      Gives.of_forall fun _ => ?_
    split <;> trivial

/-- A random date is no reference. -/
theorem dateBetween_within {generator : Generator} :
    Gives (fun value => value.Within rows) (dateBetween host arguments generator).1 := by
  unfold dateBetween
  split
  · trivial
  next start stop _ =>
    dsimp only
    split
    · trivial
    · cases start.addDays? (Random.between64 0 (stop.daysSince start) generator).1 with
      | none => trivial
      | some day => trivial

/-- A reference is one to a row that is given or found. -/
theorem reference_within (hhost : host.Within rows) (harguments : arguments.Within rows) :
    Gives (fun value => value.Within rows) (reference host arguments) := by
  unfold reference
  rw [Gives.bind_iff]
  refine (harguments.require "reference" 0 "x").imp fun value hvalue => ?_
  split
  · exact hvalue
  next name =>
    split
    next target htarget => exact hhost.objects name target htarget
    next => trivial
  · trivial

/-- A number of rows is no reference. -/
theorem counter_within : Gives (fun value => value.Within rows) (counter host arguments) := by
  unfold counter
  rw [Gives.bind_iff]
  refine Gives.of_forall fun _ => ?_
  split <;> trivial

/-- Fake data is within the rows of its supply. -/
theorem fake_within (hhost : host.Within rows) {generator : Generator} :
    Gives (fun value => value.Within rows) (fake host arguments generator).1 := by
  unfold fake
  split
  · trivial
  next name locale _ =>
    dsimp only
    split
    next value hvalue => exact hhost.fake name locale generator value hvalue
    next => trivial

/-- An ancestor is one of the rows around. -/
theorem ancestor_within (hhost : host.Within rows) :
    Gives (fun value => value.Within rows) (ancestor host arguments) := by
  unfold ancestor
  rw [Gives.bind_iff]
  refine Gives.of_forall fun _ => ?_
  split
  next table _ =>
    split
    next target htarget => exact hhost.ancestors table target htarget
    next => trivial
  · trivial

/-- Every function gives values within the rows of the run and of its arguments. -/
theorem ofName?_within {name : String} {function : EagerFunction}
    (hfunction : ofName? name = some function) (hhost : host.Within rows)
    (harguments : arguments.Within rows) (generator : Generator) :
    Gives (fun value => value.Within rows) (function host arguments generator).1 := by
  unfold ofName? at hfunction
  split at hfunction <;> cases hfunction
  -- The cases stand in the order of the names.
  · exact int_within host
  · exact randomNumber_within
  · change Gives _ (do return FieldValue.date (← date host arguments))
    simp only [Gives.bind_iff, Gives.pure_iff]
    exact Gives.of_forall fun _ => FieldValue.within_date
  · exact datetime_within
  · exact dateBetween_within
  · exact reference_within hhost harguments
  · exact counter_within
  · exact fake_within hhost
  · exact ancestor_within hhost

end EagerFunction

/-- The arguments of a call as field values are within their rows. -/
theorem Expr.Arguments.toFields_within {arguments : Arguments} (h : arguments.Within rows) :
    Gives (fun values => values.Within rows) arguments.toFields := by
  have hnamed : ∀ entry ∈ arguments.named,
      Gives (fun field : String × FieldValue => field.2.Within rows) (namedField entry) := by
    intro entry hentry
    unfold namedField
    simp only [Gives.bind_iff, Gives.pure_iff]
    exact Value.toField_within (h.named entry hentry)
  unfold Arguments.toFields
  simp only [Gives.bind_iff, Gives.pure_iff]
  refine (Gives.mapM fun value hvalue => Value.toField_within (h.positional value hvalue)).imp ?_
  intro positional hpositional
  exact (Gives.mapM hnamed).imp fun named hnamed => ⟨hpositional, hnamed⟩

/-- A function inside an expression gives values within rows. -/
theorem callInline_within {host : Host} {function : EagerFunction} {arguments : Arguments}
    (hfunction : ∀ values : CallArguments, values.Within rows → ∀ generator,
      Gives (fun value => value.Within rows) (function host values generator).1)
    (harguments : arguments.Within rows) (generator : Generator) :
    Gives (fun value => value.Within rows) (callInline host function arguments generator).1 := by
  have hfields := Expr.Arguments.toFields_within harguments
  unfold callInline
  split
  · trivial
  next values hvalues =>
    rw [hvalues] at hfields
    have hresult := hfunction values hfields generator
    split
    next value after hresult' =>
      rw [hresult'] at hresult
      exact Value.within_ofField.mpr hresult
    next => trivial

/-- A choice between values gives one of them, and one between names gives no reference. -/
theorem chooseInline_within {arguments : Arguments} (harguments : arguments.Within rows)
    (generator : Generator) :
    Gives (fun value => value.Within rows) (chooseInline arguments generator).1 := by
  unfold chooseInline
  split
  · trivial
  next values _ =>
    split
    · split
      next value after hchosen =>
        refine Value.within_ofField.mpr ?_
        unfold chooseName at hchosen
        split at hchosen
        · simp at hchosen
        · split at hchosen
          · obtain ⟨rfl, rfl⟩ : _ = value ∧ _ = after := by simpa using hchosen
            exact FieldValue.within_ofText
          · simp at hchosen
      next => trivial
    · split
      · trivial
      · exact Value.within_list_getD harguments.positional .null _

/-- The functions that expressions call give values within the rows of the run. -/
theorem Host.inline?_within {host : Host} (hhost : host.Within rows) (name : String) :
    ∀ function ∈ host.inline? name, ∀ running arguments generator,
      Expr.Arguments.Within rows arguments →
        Gives (fun value => value.Within rows) (function running arguments generator).1 := by
  intro function hfunction running arguments generator harguments
  have hrunning (call : Expr.Drawing Value)
      (h : Gives (fun value => value.Within rows) (call generator).1) :
      Gives (fun value => value.Within rows) (whenRunning running call generator).1 := by
    cases running
    · trivial
    · exact h
  unfold Host.inline? at hfunction
  split at hfunction
  · obtain rfl : _ = function := by simpa using hfunction
    exact hrunning _ (chooseInline_within harguments generator)
  · split at hfunction
    · obtain rfl : _ = function := by simpa using hfunction
      unfold localizedFake
      split
      · trivial
      · split
        · exact Value.Within.fake _
        · trivial
    · obtain ⟨eager, heager, rfl⟩ := Option.map_eq_some_iff.mp hfunction
      refine hrunning _ (callInline_within (fun values hvalues generator => ?_) harguments _)
      exact EagerFunction.ofName?_within heager hhost hvalues generator

/-- Every row that can be found in a registry, and every reference in the fields of its rows, lies
within some rows. -/
structure Registry.Within (rows : RowRef → Prop) (registry : Registry) : Prop where
  nicknames : ∀ entry ∈ registry.nicknames, rows entry.2
  latest : ∀ entry ∈ registry.latest, rows entry.2
  fields : ∀ fields ∈ registry.rows, FieldsWithin rows fields

/-- What is given for a run holds no references but those to some rows. -/
structure Setting.Within (rows : RowRef → Prop) (setting : Setting) : Prop where
  options : FieldsWithin rows setting.options
  fake : setting.fake.Within rows

/-- What is given for a run stays within more rows. -/
theorem Setting.Within.mono {setting : Setting} (h : setting.Within rows)
    (hmore : ∀ row, rows row → more row) : setting.Within more :=
  ⟨h.options.mono hmore,
    fun name locale generator value hvalue =>
      (h.fake name locale generator value hvalue).mono hmore⟩

/-- The values of declared options are within rows that the supplied values and the defaults keep
to. -/
theorem resolveDeclared_within {supplied : Assoc FieldValue}
    (hsupplied : FieldsWithin rows supplied) {declarations : List OptionDeclaration}
    (hdefaults : ∀ option ∈ declarations, ∀ value ∈ option.default, value.Within rows)
    {values : Assoc FieldValue} (hvalues : FieldsWithin rows values) :
    Gives (FieldsWithin rows) (resolveDeclared supplied declarations values) := by
  induction declarations generalizing values with
  | nil => exact hvalues
  | cons declaration rest ih =>
      obtain ⟨hfirst, hrest⟩ := List.forall_mem_cons.mp hdefaults
      unfold resolveDeclared
      split
      next value hvalue =>
        refine ih hrest (hvalues.put ?_)
        unfold OptionDeclaration.resolve? at hvalue
        split at hvalue
        next found hfound =>
          obtain rfl : found = value := by simpa using hvalue
          exact hsupplied.find? found hfound
        next => exact hfirst value hvalue
      next => trivial

/-- The options of a run are within rows that the supplied values and the defaults keep to. -/
theorem mergeOptions_within {supplied : Assoc FieldValue} (hsupplied : FieldsWithin rows supplied)
    {declarations : List OptionDeclaration}
    (hdefaults : ∀ option ∈ declarations, ∀ value ∈ option.default, value.Within rows) :
    Gives (fun merged => FieldsWithin rows merged.values) (mergeOptions declarations supplied) := by
  have hdeclared := resolveDeclared_within hsupplied hdefaults
    (show FieldsWithin rows [] by simp [FieldsWithin])
  unfold mergeOptions
  split
  next => trivial
  next declared heq =>
    rw [heq] at hdeclared
    intro entry hentry
    obtain hentry | hentry := Assoc.mem_putAll hentry
    · exact hsupplied entry (List.mem_of_mem_filter hentry)
    · exact hdeclared entry hentry

namespace Registry

variable {registry : Registry}

/-- A registry stays within more rows. -/
theorem Within.mono (h : registry.Within rows) (hmore : ∀ row, rows row → more row) :
    registry.Within more :=
  ⟨fun entry hentry => hmore _ (h.nicknames entry hentry),
    fun entry hentry => hmore _ (h.latest entry hentry),
    fun fields hfields => (h.fields fields hfields).mono hmore⟩

/-- The fields of a row are within the rows of the registry. -/
theorem Within.fieldsOf (h : registry.Within rows) (row : RowRef) :
    FieldsWithin rows (registry.fieldsOf row) := by
  unfold Registry.fieldsOf
  split
  next index _ =>
    by_cases hindex : index < registry.rows.size
    · simpa [Array.getD, hindex] using h.fields _ (Array.getElem_mem hindex)
    · simp [Array.getD, hindex, FieldsWithin]
  next => simp [FieldsWithin]

/-- A field of a row is within the rows of the registry. -/
theorem Within.field? (h : registry.Within rows) (row : RowRef) (name : String) :
    ∀ value ∈ registry.field? row name, value.Within rows := by
  intro value hvalue
  unfold Registry.field? at hvalue
  split at hvalue
  · obtain rfl : _ = value := by simpa using hvalue
    exact FieldValue.within_ofInt
  · exact (h.fieldsOf row).find? value hvalue

/-- A row under a nickname is within the rows of the registry. -/
theorem Within.nickname (h : registry.Within rows) {name : String} {row : RowRef}
    (hrow : registry.nicknames.find? name = some row) : rows row :=
  h.nicknames _ (Assoc.mem_of_find? hrow)

/-- The latest row of a table is within the rows of the registry. -/
theorem Within.latestRow (h : registry.Within rows) {name : String} {row : RowRef}
    (hrow : registry.latest.find? name = some row) : rows row :=
  h.latest _ (Assoc.mem_of_find? hrow)

/-- The row that a function finds is within the rows of the registry. -/
theorem Within.findObject (h : registry.Within rows) (name : String) :
    ∀ row ∈ registry.findObject name, rows row := by
  intro row hrow
  rw [Option.mem_def, Registry.findObject, Option.orElse_eq_orElse, Option.orElse_eq_or,
    Option.or_eq_some_iff] at hrow
  obtain hrow | ⟨_, hrow⟩ := hrow
  · exact h.nickname hrow
  · exact h.latestRow hrow

/-- The row that an expression sees is within the rows of the registry. -/
theorem Within.visibleObject (h : registry.Within rows) (name : String) :
    ∀ row ∈ registry.visibleObject name, rows row := by
  intro row hrow
  rw [Option.mem_def, Registry.visibleObject, Option.orElse_eq_orElse, Option.orElse_eq_or,
    Option.or_eq_some_iff] at hrow
  obtain hrow | ⟨_, hrow⟩ := hrow
  · exact h.latestRow hrow
  · exact h.nickname hrow

end Registry

namespace Activation

variable {setting : Setting} {activation : Activation} {registry : Registry}

/-- The nearest row of a table is one of the rows. -/
theorem nearest?_mem {among : List RowRef} {table : String} {row : RowRef}
    (h : nearest? among table = some row) : row ∈ among :=
  List.mem_of_find?_eq_some h

/-- The run as functions see it lies within the rows of the run. -/
theorem host_within (hsetting : setting.Within rows) (hregistry : registry.Within rows)
    (hrows : ∀ row ∈ activation.rows, rows row) :
    (activation.host setting registry).Within rows where
  objects := hregistry.findObject
  ancestors := fun _ row hrow => hrows row (List.mem_append_right _ (nearest?_mem hrow))
  fake := hsetting.fake

/-- The run as functions inside expressions see it lies within the rows of the run. -/
theorem snapshot_within (hsetting : setting.Within rows) (hregistry : registry.Within rows)
    (hrows : ∀ row ∈ activation.rows, rows row) :
    (Snapshot.take setting activation registry).host.Within rows where
  objects := fun _ _ hrow => (Assoc.mem_putAll (Assoc.mem_of_find? hrow)).elim
    (hregistry.nicknames _) (hregistry.latest _)
  ancestors := fun _ row hrow => hrows row (List.mem_append_right _ (nearest?_mem hrow))
  fake := hsetting.fake

/-- A variable that every expression has is within the rows of the activation. -/
theorem builtin?_within (hrows : ∀ row ∈ activation.rows, rows row) (name : String) :
    ∀ value ∈ activation.builtin? setting name, value.Within rows := by
  intro value hvalue
  unfold builtin? at hvalue
  split at hvalue
  · obtain rfl : _ = value := by simpa using hvalue
    exact .run
  · split at hvalue
    · obtain rfl : _ = value := by simpa using hvalue
      exact .fake _
    · obtain rfl : _ = value := by simpa using hvalue
      exact .date _
    · obtain rfl : _ = value := by simpa using hvalue
      exact Value.within_ofInt
    · obtain ⟨row, hrow, rfl⟩ := Option.map_eq_some_iff.mp hvalue
      exact Value.within_row.mpr (hrows row (List.mem_append_left _ (by simp [hrow])))
    · obtain ⟨id, _, rfl⟩ := Option.map_eq_some_iff.mp hvalue
      exact Value.within_ofInt
    · simp at hvalue

/-- A variable of an expression is within the rows of the run. -/
theorem valueOf?_within (hsetting : setting.Within rows) (hregistry : registry.Within rows)
    (hrows : ∀ row ∈ activation.rows, rows row) (name : String) :
    ∀ value ∈ activation.valueOf? setting registry name, value.Within rows := by
  intro value hvalue
  simp only [valueOf?, Option.mem_def, Option.orElse_eq_orElse, Option.orElse_eq_or,
    Option.or_eq_some_iff] at hvalue
  obtain hvalue | ⟨_, hvalue | ⟨_, hvalue | ⟨_, hvalue | ⟨_, hvalue⟩⟩⟩⟩ := hvalue
  · obtain ⟨field, hfield, rfl⟩ := Option.map_eq_some_iff.mp hvalue
    obtain ⟨row, _, hfield⟩ := Option.bind_eq_some_iff.mp hfield
    exact Value.within_ofField.mpr ((hregistry.fieldsOf row).find? field hfield)
  · exact builtin?_within hrows name value hvalue
  · obtain ⟨row, hrow, rfl⟩ := Option.map_eq_some_iff.mp hvalue
    exact Value.within_row.mpr (hrows row (List.mem_append_right _ (nearest?_mem hrow)))
  · obtain ⟨row, hrow, rfl⟩ := Option.map_eq_some_iff.mp hvalue
    exact Value.within_row.mpr (hregistry.visibleObject name row hrow)
  · obtain ⟨field, hfield, rfl⟩ := Option.map_eq_some_iff.mp hvalue
    exact Value.within_ofField.mpr (hsetting.options.find? field hfield)

/-- What an expression sees lies within the rows of the run. -/
theorem scope_within (hsetting : setting.Within rows) (hregistry : registry.Within rows)
    (hrows : ∀ row ∈ activation.rows, rows row) :
    (activation.scope setting registry).Within rows where
  values := valueOf?_within hsetting hregistry hrows
  fields := hregistry.field?
  fake := hsetting.fake
  functions := Host.inline?_within (snapshot_within hsetting hregistry hrows)

end Activation

end RecordRecipe
