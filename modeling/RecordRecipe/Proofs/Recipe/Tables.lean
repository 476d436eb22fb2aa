import RecordRecipe.Proofs.Assoc
import RecordRecipe.Proofs.Recipe.Plain
import RecordRecipe.Recipe.Tables

/-!
# The tables of a recipe cover it

Tables are collected from the tree of templates before a run, whatever becomes of its branches.
Nothing that is listed is ever lost while more is added, so that the tables of a recipe list every
table and every written field of its templates, at any depth: `Recipe.listed_keeps`.
-/

namespace RecordRecipe

/-- More tables, or more fields of tables. -/
def Tables.Extends (tables more : Tables) : Prop :=
  ∀ table listed, tables.find? table = some listed →
    ∃ longer, more.find? table = some longer ∧ listed ⊆ longer

/-- A field of a table is listed. -/
def Tables.Lists (tables : Tables) (table name : String) : Prop :=
  ∃ listed, tables.find? table = some listed ∧ name ∈ listed

/-- A property of tables is kept when a table is added. -/
def Tables.Kept (P : Tables → Prop) : Prop :=
  ∀ table fields tables, P tables → P (addTable table fields tables)

/-- Rules that ask for values without references, and for tables and written fields that are
listed. -/
def Rules.listed (tables : Tables) : Rules where
  literal := fun value => value.Within noRow
  table := fun table => table ∈ tables.keys
  field := fun table name => isHidden name = true ∨ tables.Lists table name

namespace Tables

variable {tables more most : Tables} {table name : String}

theorem Extends.refl (tables : Tables) : tables.Extends tables :=
  fun _ listed hlisted => ⟨listed, hlisted, List.Subset.refl listed⟩

theorem Extends.trans (hmore : tables.Extends more) (hmost : more.Extends most) :
    tables.Extends most := by
  intro table listed hlisted
  obtain ⟨longer, hlonger, hsubset⟩ := hmore table listed hlisted
  obtain ⟨longest, hlongest, hrest⟩ := hmost table longer hlonger
  exact ⟨longest, hlongest, List.Subset.trans hsubset hrest⟩

/-- A listed field stays listed. -/
theorem Extends.lists (hmore : tables.Extends more) (h : tables.Lists table name) :
    more.Lists table name := by
  obtain ⟨listed, hlisted, hname⟩ := h
  obtain ⟨longer, hlonger, hsubset⟩ := hmore table listed hlisted
  exact ⟨longer, hlonger, hsubset hname⟩

/-- What is found is a key. -/
theorem mem_keys_of_find? {listed : List String} (h : tables.find? table = some listed) :
    table ∈ tables.keys :=
  List.mem_map_of_mem (Assoc.mem_of_find? h)

end Tables

/-- Listed names stay listed, and the names of written fields are listed in the end. -/
theorem addWritten_lists (fields : List Field) (listed : List String) :
    listed ⊆ addWritten listed fields ∧
      ∀ field ∈ fields, isHidden field.name = true ∨ field.name ∈ addWritten listed fields := by
  induction fields generalizing listed with
  | nil => exact ⟨List.Subset.refl listed, by simp⟩
  | cons first rest ih =>
      let next :=
        if isHidden first.name || listed.contains first.name then listed else listed ++ [first.name]
      have hnext : addWritten listed (first :: rest) = addWritten next rest := rfl
      obtain ⟨hsubset, hrest⟩ := ih next
      rw [hnext]
      -- One field at a time: it is hidden, known already, or put last.
      have hgrows : listed ⊆ next := by
        unfold next
        split
        · exact List.Subset.refl listed
        · exact List.subset_append_left listed _
      have hfirst : isHidden first.name = true ∨ first.name ∈ next := by
        unfold next
        split
        next hknown => simpa using hknown
        next => exact .inr (by simp)
      exact ⟨List.Subset.trans hgrows hsubset,
        List.forall_mem_cons.mpr ⟨hfirst.imp_right fun hname => hsubset hname, hrest⟩⟩

section

variable (table : String) (fields : List Field) (tables : Tables)

/-- What is listed for a table after its fields have been added. -/
theorem find?_addTable_self :
    (addTable table fields tables).find? table =
      some (addWritten ((tables.find? table).getD []) fields) := by
  rw [addTable, Assoc.find?_put, if_pos rfl]

/-- Adding a table loses nothing. -/
theorem extends_addTable : tables.Extends (addTable table fields tables) := by
  intro other listed hlisted
  by_cases htable : table = other
  · subst htable
    refine ⟨_, find?_addTable_self table fields tables, ?_⟩
    rw [hlisted]
    exact (addWritten_lists fields listed).1
  · refine ⟨listed, ?_, List.Subset.refl listed⟩
    rw [addTable, Assoc.find?_put, if_neg htable, hlisted]

/-- A field of a table that has been added is hidden or listed. -/
theorem addTable_lists {field : Field} (hfield : field ∈ fields) :
    isHidden field.name = true ∨ (addTable table fields tables).Lists table field.name :=
  ((addWritten_lists fields _).2 field hfield).imp_right fun hname =>
    ⟨_, find?_addTable_self table fields tables, hname⟩

end

mutual

/-- What is kept when a table is added is kept when the tables of a template are added. -/
theorem Template.addTables_keeps {P : Tables → Prop} (hkept : Tables.Kept P) :
    (template : Template) → {tables : Tables} → P tables → P (template.addTables tables)
  | .mk table _ _ fields friends _ _, tables, h =>
      templatesTables_keeps hkept friends
        (fieldsTables_keeps hkept fields (hkept table fields tables h))

theorem templatesTables_keeps {P : Tables → Prop} (hkept : Tables.Kept P) :
    (templates : List Template) → {tables : Tables} → P tables →
      P (templatesTables templates tables)
  | [], _, h => h
  | first :: rest, _, h => templatesTables_keeps hkept rest (first.addTables_keeps hkept h)

theorem fieldsTables_keeps {P : Tables → Prop} (hkept : Tables.Kept P) :
    (fields : List Field) → {tables : Tables} → P tables → P (fieldsTables fields tables)
  | [], _, h => h
  | .mk _ definition _ _ :: rest, _, h =>
      fieldsTables_keeps hkept rest (definition.addTables_keeps hkept h)

/-- What is kept when a table is added is kept when the tables of a definition are added. -/
theorem Definition.addTables_keeps {P : Tables → Prop} (hkept : Tables.Kept P) :
    (definition : Definition) → {tables : Tables} → P tables → P (definition.addTables tables)
  | .value _, _, h => h
  | .call _ positional named _ _, _, h =>
      namedTables_keeps hkept named (argumentTables_keeps hkept positional h)
  | .child record _ _, _, h => record.addTables_keeps hkept h

theorem argumentTables_keeps {P : Tables → Prop} (hkept : Tables.Kept P) :
    (definitions : List Definition) → {tables : Tables} → P tables →
      P (argumentTables definitions tables)
  | [], _, h => h
  | first :: rest, _, h => argumentTables_keeps hkept rest (first.addTables_keeps hkept h)

theorem namedTables_keeps {P : Tables → Prop} (hkept : Tables.Kept P) :
    (definitions : List (String × Definition)) → {tables : Tables} → P tables →
      P (namedTables definitions tables)
  | [], _, h => h
  | (_, first) :: rest, _, h => namedTables_keeps hkept rest (first.addTables_keeps hkept h)

end

section

variable (tables : Tables)

/-- To extend some tables is kept. -/
theorem extends_kept : Tables.Kept tables.Extends :=
  fun table fields more h => h.trans (extends_addTable table fields more)

theorem extends_templatesTables (templates : List Template) :
    tables.Extends (templatesTables templates tables) :=
  templatesTables_keeps (extends_kept tables) templates (.refl tables)

theorem extends_fieldsTables (fields : List Field) : tables.Extends (fieldsTables fields tables) :=
  fieldsTables_keeps (extends_kept tables) fields (.refl tables)

theorem extends_argumentTables (definitions : List Definition) :
    tables.Extends (argumentTables definitions tables) :=
  argumentTables_keeps (extends_kept tables) definitions (.refl tables)

theorem extends_namedTables (definitions : List (String × Definition)) :
    tables.Extends (namedTables definitions tables) :=
  namedTables_keeps (extends_kept tables) definitions (.refl tables)

end

mutual

/-- A template keeps to any tables that extend its own. -/
theorem Template.Obeys.listed {all : Tables} :
    (template : Template) → template.Obeys Rules.plain → (tables : Tables) →
      (template.addTables tables).Extends all → template.Obeys (Rules.listed all)
  | .mk table nickname count fields friends file line, h, tables, hall => by
      cases h with
      | mk _ _ _ _ _ _ _ _ hcount _ hdefinitions hfriends =>
          -- The table itself is added first, then what its fields hold, then its friends.
          have hinner : (fieldsTables fields (addTable table fields tables)).Extends all :=
            (extends_templatesTables _ friends).trans hall
          have howner : (addTable table fields tables).Extends all :=
            (extends_fieldsTables _ fields).trans hinner
          refine .mk table nickname count fields friends file line ?_ hcount
            (fun field hfield => ?_) (fieldsObey_listed fields hdefinitions _ hinner)
            (templatesObey_listed friends hfriends _ hall)
          · obtain ⟨_, hfound, _⟩ := howner _ _ (find?_addTable_self table fields tables)
            exact Tables.mem_keys_of_find? hfound
          · exact (addTable_lists table fields tables hfield).imp_right howner.lists

theorem templatesObey_listed {all : Tables} :
    (templates : List Template) → (∀ template ∈ templates, template.Obeys Rules.plain) →
      (tables : Tables) → (templatesTables templates tables).Extends all →
        ∀ template ∈ templates, template.Obeys (Rules.listed all)
  | [], _, _, _ => by simp
  | first :: rest, h, tables, hall => by
      obtain ⟨hfirst, hrest⟩ := List.forall_mem_cons.mp h
      refine List.forall_mem_cons.mpr ⟨?_, templatesObey_listed rest hrest _ hall⟩
      exact Template.Obeys.listed first hfirst tables ((extends_templatesTables _ rest).trans hall)

theorem fieldsObey_listed {all : Tables} :
    (fields : List Field) → (∀ field ∈ fields, field.definition.Obeys Rules.plain) →
      (tables : Tables) → (fieldsTables fields tables).Extends all →
        ∀ field ∈ fields, field.definition.Obeys (Rules.listed all)
  | [], _, _, _ => by simp
  | .mk _ definition _ _ :: rest, h, tables, hall => by
      obtain ⟨hfirst, hrest⟩ := List.forall_mem_cons.mp h
      refine List.forall_mem_cons.mpr ⟨?_, fieldsObey_listed rest hrest _ hall⟩
      exact Definition.Obeys.listed definition hfirst tables
        ((extends_fieldsTables _ rest).trans hall)

/-- A definition keeps to any tables that extend its own. -/
theorem Definition.Obeys.listed {all : Tables} :
    (definition : Definition) → definition.Obeys Rules.plain → (tables : Tables) →
      (definition.addTables tables).Extends all → definition.Obeys (Rules.listed all)
  | .value written, h, _, _ => by
      cases h with
      | value _ hliteral => exact .value written hliteral
  | .call function positional named file line, h, tables, hall => by
      cases h with
      | call _ _ _ _ _ hpositional hnamed =>
          exact .call function positional named file line
            (definitionsObey_listed positional hpositional tables
              ((extends_namedTables _ named).trans hall))
            (namedObey_listed named hnamed _ hall)
  | .child record file line, h, tables, hall => by
      cases h with
      | child _ _ _ hrecord =>
          exact .child record file line (Template.Obeys.listed record hrecord tables hall)

theorem definitionsObey_listed {all : Tables} :
    (definitions : List Definition) → (∀ definition ∈ definitions, definition.Obeys Rules.plain) →
      (tables : Tables) → (argumentTables definitions tables).Extends all →
        ∀ definition ∈ definitions, definition.Obeys (Rules.listed all)
  | [], _, _, _ => by simp
  | first :: rest, h, tables, hall => by
      obtain ⟨hfirst, hrest⟩ := List.forall_mem_cons.mp h
      refine List.forall_mem_cons.mpr ⟨?_, definitionsObey_listed rest hrest _ hall⟩
      exact Definition.Obeys.listed first hfirst tables ((extends_argumentTables _ rest).trans hall)

theorem namedObey_listed {all : Tables} :
    (definitions : List (String × Definition)) →
      (∀ entry ∈ definitions, entry.2.Obeys Rules.plain) → (tables : Tables) →
        (namedTables definitions tables).Extends all →
          ∀ entry ∈ definitions, entry.2.Obeys (Rules.listed all)
  | [], _, _, _ => by simp
  | (_, first) :: rest, h, tables, hall => by
      obtain ⟨hfirst, hrest⟩ := List.forall_mem_cons.mp h
      refine List.forall_mem_cons.mpr ⟨?_, namedObey_listed rest hrest _ hall⟩
      exact Definition.Obeys.listed first hfirst tables ((extends_namedTables _ rest).trans hall)

end

/-- A recipe without references keeps to its own tables, whatever rows a caller brings along. -/
theorem Recipe.listed_keeps_given {recipe : Recipe} {request : Request} {given : RowRef → Prop}
    (hrecipe : recipe.Plain) (hoptions : FieldsWithin given request.options)
    (hfake : request.fake.Within given) :
    recipe.Keeps (Rules.listed recipe.tables) given request where
  templates := templatesObey_listed recipe.templates hrecipe.templates [] (.refl _)
  literals := fun _ hvalue => hvalue.mono fun _ hnone => hnone.elim
  defaults := fun option hoption value hvalue =>
    (hrecipe.defaults option hoption value hvalue).mono fun _ hnone => hnone.elim
  options := hoptions
  fake := hfake

/-- A recipe without references keeps to its own tables. -/
theorem Recipe.listed_keeps {recipe : Recipe} {request : Request} (hrecipe : recipe.Plain)
    (hrequest : request.Plain) : recipe.Keeps (Rules.listed recipe.tables) noRow request :=
  listed_keeps_given hrecipe hrequest.options hrequest.fake

/-- Tables are listed once, with different fields, all of which sinks see. -/
structure Tables.Tidy (tables : Tables) : Prop where
  nodup : tables.keys.Nodup
  fields : ∀ entry ∈ tables, entry.2.Nodup
  written : ∀ entry ∈ tables, ∀ name ∈ entry.2, isHidden name = false

/-- The names of written fields are listed once. -/
theorem addWritten_tidy {listed : List String} (fields : List Field) (hnodup : listed.Nodup)
    (hwritten : ∀ name ∈ listed, isHidden name = false) :
    (addWritten listed fields).Nodup ∧
      ∀ name ∈ addWritten listed fields, isHidden name = false := by
  induction fields generalizing listed with
  | nil => exact ⟨hnodup, hwritten⟩
  | cons first rest ih =>
      unfold addWritten at ih ⊢
      rw [List.foldl_cons]
      split
      next => exact ih hnodup hwritten
      next hnew =>
        obtain ⟨hvisible, hnew⟩ : isHidden first.name = false ∧ first.name ∉ listed := by
          simpa using hnew
        refine ih (List.nodup_append.mpr ⟨hnodup, by simp, ?_⟩) fun name hname => ?_
        · rintro name hname _ hfirst rfl
          exact hnew (List.mem_singleton.mp hfirst ▸ hname)
        · obtain hname | hname := List.mem_append.mp hname
          · exact hwritten name hname
          · exact List.mem_singleton.mp hname ▸ hvisible

/-- Tables stay tidy when one is added. -/
theorem tidy_kept : Tables.Kept Tables.Tidy := by
  intro table fields tables h
  have hadded : (addWritten ((tables.find? table).getD []) fields).Nodup ∧
      ∀ name ∈ addWritten ((tables.find? table).getD []) fields, isHidden name = false := by
    cases hfound : tables.find? table with
    | none => exact addWritten_tidy fields List.nodup_nil (by simp)
    | some listed =>
        have hentry := Assoc.mem_of_find? hfound
        exact addWritten_tidy fields (h.fields _ hentry) (h.written _ hentry)
  refine ⟨Assoc.nodup_keys_put h.nodup, fun entry hentry => ?_, fun entry hentry => ?_⟩
  · obtain rfl | hentry := Assoc.mem_put hentry
    · exact hadded.1
    · exact h.fields entry hentry
  · obtain rfl | hentry := Assoc.mem_put hentry
    · exact hadded.2
    · exact h.written entry hentry

/-- The tables of a recipe are tidy. -/
theorem Recipe.tables_tidy (recipe : Recipe) : recipe.tables.Tidy :=
  templatesTables_keeps tidy_kept recipe.templates ⟨List.nodup_nil, by simp, by simp⟩

end RecordRecipe
