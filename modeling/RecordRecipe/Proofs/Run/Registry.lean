import RecordRecipe.Proofs.Containment.Scope

/-!
# Changes of a registry

What starting a row, setting a field and noting references do to the fields of rows and to what can
be found in a registry. A field that is set shows in its own row and in no other.
-/

namespace RecordRecipe

namespace Counters

variable {name other : String} {counters : Counters}

/-- Counting up changes the number of one name by one. -/
theorem value_increment :
    value other (increment name counters) =
      if name = other then value name counters + 1 else value other counters := by
  unfold value increment
  rw [Assoc.find?_put]
  split <;> rfl

end Counters

namespace Registry

variable {registry : Registry} {row other : RowRef} {table : String} {nickname : Option String}
  {name : String} {value : FieldValue} {rows : RowRef → Prop}

/-- A registry knows the fields of a row that has been made. -/
def Made (registry : Registry) (row : RowRef) : Prop :=
  ∃ index < registry.rows.size, row.origin = .made index

@[simp] theorem startRow_table : (registry.startRow table nickname).1.table = table := rfl

@[simp] theorem startRow_origin :
    (registry.startRow table nickname).1.origin = .made registry.rows.size := rfl

@[simp] theorem startRow_id :
    (registry.startRow table nickname).1.id = registry.ids.value table + 1 := rfl

@[simp] theorem startRow_ids :
    (registry.startRow table nickname).2.ids = registry.ids.increment table := by
  cases nickname <;> rfl

@[simp] theorem startRow_totals :
    (registry.startRow table nickname).2.totals = registry.totals.increment table := by
  cases nickname <;> rfl

@[simp] theorem startRow_latest : (registry.startRow table nickname).2.latest =
    registry.latest.put table (registry.startRow table nickname).1 := by
  cases nickname <;> rfl

/-- A nickname stands for the row that is started, or for one that it has stood for. -/
theorem mem_startRow_nicknames {entry : String × RowRef}
    (h : entry ∈ (registry.startRow table nickname).2.nicknames) :
    entry.2 = (registry.startRow table nickname).1 ∨ entry ∈ registry.nicknames := by
  cases nickname with
  | none => exact .inr h
  | some key => exact (Assoc.mem_put h).imp_left fun hentry => congrArg Prod.snd hentry

@[simp] theorem startRow_rows :
    (registry.startRow table nickname).2.rows = registry.rows.push [] := by
  cases nickname <;> rfl

@[simp] theorem startRow_dependencies :
    (registry.startRow table nickname).2.dependencies = registry.dependencies := by
  cases nickname <;> rfl

@[simp] theorem setField_size :
    (registry.setField row name value).rows.size = registry.rows.size := by
  unfold setField
  split <;> simp

@[simp] theorem setField_ids : (registry.setField row name value).ids = registry.ids := by
  unfold setField
  split <;> rfl

@[simp] theorem setField_nicknames :
    (registry.setField row name value).nicknames = registry.nicknames := by
  unfold setField
  split <;> rfl

@[simp] theorem setField_latest :
    (registry.setField row name value).latest = registry.latest := by
  unfold setField
  split <;> rfl

@[simp] theorem setField_dependencies :
    (registry.setField row name value).dependencies = registry.dependencies := by
  unfold setField
  split <;> rfl

/-- A new row has no fields. -/
theorem fieldsOf_startRow_self :
    (registry.startRow table nickname).2.fieldsOf (registry.startRow table nickname).1 = [] := by
  rw [fieldsOf, startRow_rows, startRow_origin]
  simp [Array.getD]

/-- Starting a row leaves the fields of other rows alone. -/
theorem fieldsOf_startRow (h : registry.Made other) :
    (registry.startRow table nickname).2.fieldsOf other = registry.fieldsOf other := by
  obtain ⟨index, hindex, horigin⟩ := h
  rw [fieldsOf, fieldsOf, startRow_rows, horigin]
  have hless : index < registry.rows.size + 1 := by omega
  simp [Array.getD, hindex, hless, Array.getElem_push]

/-- A field that is set is the last word on its name in its row. -/
theorem fieldsOf_setField_self (h : registry.Made row) :
    (registry.setField row name value).fieldsOf row =
      (registry.fieldsOf row).put name value := by
  obtain ⟨index, hindex, horigin⟩ := h
  rw [fieldsOf, fieldsOf, setField, horigin]
  simp [Array.getD, hindex, Array.getElem_modify]

/-- Setting a field leaves the fields of other rows alone. -/
theorem fieldsOf_setField_ne (h : row.origin ≠ other.origin) :
    (registry.setField row name value).fieldsOf other = registry.fieldsOf other := by
  unfold setField
  split
  next index hindex =>
    unfold fieldsOf
    split
    next position hposition =>
      have hne : index ≠ position := by
        rintro rfl
        exact h (hindex.trans hposition.symm)
      simp [Array.getD, Array.getElem_modify, hne]
    next => rfl
  next => rfl

/-- Setting a field keeps a registry within rows. -/
theorem Within.setField (h : registry.Within rows) (hvalue : value.Within rows) :
    (registry.setField row name value).Within rows := by
  unfold Registry.setField
  split
  next index _ =>
    refine ⟨h.nicknames, h.latest, fun fields hfields => ?_⟩
    obtain ⟨position, hposition, rfl⟩ := Array.mem_iff_getElem.mp hfields
    have hbefore := h.fields _ (Array.getElem_mem (by simpa using hposition))
    rw [Array.getElem_modify]
    split
    · exact hbefore.put hvalue
    · exact hbefore
  next => exact h

/-- Starting a row keeps a registry within rows that the new row is one of. -/
theorem Within.startRow (h : registry.Within rows)
    (hrow : rows (registry.startRow table nickname).1) :
    (registry.startRow table nickname).2.Within rows := by
  have hput {entries : Assoc RowRef} (key : String) (hentries : ∀ entry ∈ entries, rows entry.2) :
      ∀ entry ∈ entries.put key (registry.startRow table nickname).1, rows entry.2 := by
    intro entry hentry
    obtain rfl | hentry := Assoc.mem_put hentry
    · exact hrow
    · exact hentries entry hentry
  refine ⟨?_, ?_, fun fields hfields => ?_⟩
  · cases nickname with
    | none => exact h.nicknames
    | some key => exact hput key h.nicknames
  · cases nickname with
    | none => exact hput table h.latest
    | some key => exact hput table h.latest
  · rw [startRow_rows] at hfields
    obtain hfields | rfl := Array.mem_push.mp hfields
    · exact h.fields fields hfields
    · simp [FieldsWithin]

end Registry

end RecordRecipe
