import RecordRecipe.Proofs.Recipe.Tables

/-!
# The templates of a recipe

A recipe has the templates it begins with, the child records in fields of these, at any depth of
arguments, their friends, and so on. Whatever a run makes rows of is one of them. The tables of the
recipe list every field of each that is not hidden: `Recipe.Has.lists`.
-/

namespace RecordRecipe

/-- The template of a child record stands in a definition, maybe among arguments. -/
inductive Definition.Holds (record : Template) : Definition → Prop where
  | child (file : String) (line : Nat) : Definition.Holds record (.child record file line)
  | positional {function : String} {positional : List Definition}
      {named : List (String × Definition)} {file : String} {line : Nat} {definition : Definition}
      (hmem : definition ∈ positional) (h : Definition.Holds record definition) :
      Definition.Holds record (.call function positional named file line)
  | named {function : String} {positional : List Definition}
      {named : List (String × Definition)} {file : String} {line : Nat}
      {entry : String × Definition} (hmem : entry ∈ named) (h : Definition.Holds record entry.2) :
      Definition.Holds record (.call function positional named file line)

/-- The templates that are used after every row. -/
def Template.friends : Template → List Template
  | .mk _ _ _ _ friends _ _ => friends

/-- A template stands in a recipe, at any depth. -/
inductive Recipe.Has (recipe : Recipe) : Template → Prop where
  | top {template : Template} (hmem : template ∈ recipe.templates) : recipe.Has template
  | friend {template friend : Template} (h : recipe.Has template)
      (hmem : friend ∈ template.friends) : recipe.Has friend
  | child {template record : Template} {field : Field} (h : recipe.Has template)
      (hmem : field ∈ template.fields) (hholds : field.definition.Holds record) : recipe.Has record

/-- The tables of a template are among some tables. -/
def Template.Among (template : Template) (all : Tables) : Prop :=
  ∃ tables, (template.addTables tables).Extends all

variable {all tables : Tables} {template : Template}

theorem among_of_templatesTables {templates : List Template} (hmem : template ∈ templates)
    (hall : (templatesTables templates tables).Extends all) : template.Among all := by
  induction templates generalizing tables with
  | nil => cases hmem
  | cons first rest ih =>
      rw [templatesTables] at hall
      obtain rfl | hmem := List.mem_cons.mp hmem
      · exact ⟨tables, (extends_templatesTables _ rest).trans hall⟩
      · exact ih hmem hall

/-- The tables of the definition of a field are added somewhere among those of the fields. -/
theorem exists_of_fieldsTables {fields : List Field} {field : Field} (hmem : field ∈ fields)
    (hall : (fieldsTables fields tables).Extends all) :
    ∃ earlier, (field.definition.addTables earlier).Extends all := by
  induction fields generalizing tables with
  | nil => cases hmem
  | cons first rest ih =>
      obtain ⟨name, definition, file, line⟩ := first
      rw [fieldsTables] at hall
      obtain rfl | hmem := List.mem_cons.mp hmem
      · exact ⟨tables, (extends_fieldsTables _ rest).trans hall⟩
      · exact ih hmem hall

theorem exists_of_argumentTables {definitions : List Definition} {definition : Definition}
    (hmem : definition ∈ definitions) (hall : (argumentTables definitions tables).Extends all) :
    ∃ earlier, (definition.addTables earlier).Extends all := by
  induction definitions generalizing tables with
  | nil => cases hmem
  | cons first rest ih =>
      rw [argumentTables] at hall
      obtain rfl | hmem := List.mem_cons.mp hmem
      · exact ⟨tables, (extends_argumentTables _ rest).trans hall⟩
      · exact ih hmem hall

theorem exists_of_namedTables {named : List (String × Definition)} {entry : String × Definition}
    (hmem : entry ∈ named) (hall : (namedTables named tables).Extends all) :
    ∃ earlier, (entry.2.addTables earlier).Extends all := by
  induction named generalizing tables with
  | nil => cases hmem
  | cons first rest ih =>
      obtain ⟨name, definition⟩ := first
      rw [namedTables] at hall
      obtain rfl | hmem := List.mem_cons.mp hmem
      · exact ⟨tables, (extends_namedTables _ rest).trans hall⟩
      · exact ih hmem hall

/-- The tables of a child record are added with those of the definition that it stands in. -/
theorem Definition.Holds.among {definition : Definition} (h : definition.Holds template)
    (hall : (definition.addTables tables).Extends all) : template.Among all := by
  induction h generalizing tables with
  | child file line => exact ⟨tables, hall⟩
  | @positional _ _ named _ _ _ hmem _ ih =>
      rw [Definition.addTables] at hall
      obtain ⟨earlier, hearlier⟩ :=
        exists_of_argumentTables hmem ((extends_namedTables _ named).trans hall)
      exact ih hearlier
  | named hmem _ ih =>
      rw [Definition.addTables] at hall
      obtain ⟨earlier, hearlier⟩ := exists_of_namedTables hmem hall
      exact ih hearlier

/-- The tables of every template of a recipe are among those of the recipe. -/
theorem Recipe.Has.among {recipe : Recipe} (h : recipe.Has template) :
    template.Among recipe.tables := by
  induction h with
  | top hmem => exact among_of_templatesTables hmem (.refl _)
  | @friend outer friend _ hmem ih =>
      obtain ⟨table, nickname, count, fields, friends, file, line⟩ := outer
      obtain ⟨tables, hall⟩ := ih
      exact among_of_templatesTables hmem hall
  | @child outer record field _ hmem hholds ih =>
      obtain ⟨table, nickname, count, fields, friends, file, line⟩ := outer
      obtain ⟨tables, hall⟩ := ih
      obtain ⟨earlier, hearlier⟩ :=
        exists_of_fieldsTables hmem ((extends_templatesTables _ friends).trans hall)
      exact hholds.among hearlier

/-- The tables of a recipe take in what every template of it adds. -/
theorem Recipe.Has.extends {recipe : Recipe} (h : recipe.Has template) :
    ∃ earlier, (addTable template.table template.fields earlier).Extends recipe.tables := by
  obtain ⟨tables, hall⟩ := h.among
  obtain ⟨table, nickname, count, fields, friends, file, line⟩ := template
  exact ⟨tables, ((extends_fieldsTables _ fields).trans (extends_templatesTables _ friends)).trans
    hall⟩

/-- The table of every template of a recipe is among its tables. -/
theorem Recipe.Has.table_mem {recipe : Recipe} (h : recipe.Has template) :
    template.table ∈ recipe.tables.keys := by
  obtain ⟨earlier, hearlier⟩ := h.extends
  obtain ⟨_, hfound, -⟩ := hearlier _ _ (find?_addTable_self template.table template.fields earlier)
  exact Tables.mem_keys_of_find? hfound

/-- The tables of a recipe list the fields of its templates that are not hidden. -/
theorem Recipe.Has.lists {recipe : Recipe} (h : recipe.Has template) {field : Field}
    (hmem : field ∈ template.fields) (hvisible : isHidden field.name = false) :
    recipe.tables.Lists template.table field.name := by
  obtain ⟨earlier, hearlier⟩ := h.extends
  have hlists := (addTable_lists template.table template.fields earlier hmem).resolve_left
    (by simp [hvisible])
  exact hearlier.lists hlists

end RecordRecipe
