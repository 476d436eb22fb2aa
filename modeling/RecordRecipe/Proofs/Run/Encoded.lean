import RecordRecipe.Proofs.Run.Storing

/-!
# What stored rows say

A row that is stored is its id followed by the written fields of the template that has made it, a
name that comes again keeping its place and taking the last value. Every value is what the sink's
encoding makes of a rendered value, a reference having become the id of its row. The names are
among those that the sink has been told: `Recipe.stored_rows`.
-/

namespace RecordRecipe

variable {σ : Type} {name : String} {value : FieldValue}

/-- No value is a reference once it has been flattened and encoded. -/
theorem Encoding.row?_apply_flatten (encoding : Encoding) (value : FieldValue) :
    (encoding.apply value.flatten).row? = none := by
  cases encoding <;> cases value <;> rfl

/-- A value that can be encoded has an encoding for what it is flattened to. -/
theorem FieldValue.encode_eq_ok {sink : String} {encoders : EncoderTable} {stored : FieldValue}
    (h : value.encode sink encoders = .ok stored) :
    ∃ encoding, encoders.find? (Kind.of value.flatten) = some encoding ∧
      stored = encoding.apply value.flatten := by
  unfold encode at h
  dsimp only at h
  split at h
  next encoding hfound => exact ⟨encoding, hfound, (Except.ok.inj h).symm⟩
  next => cases h

theorem FieldValue.row?_of_encode {sink : String} {encoders : EncoderTable} {stored : FieldValue}
    (h : value.encode sink encoders = .ok stored) : stored.row? = none := by
  obtain ⟨encoding, -, rfl⟩ := encode_eq_ok h
  exact encoding.row?_apply_flatten value

/-- Two values under one name, of which the second is the encoding of the first. -/
def EncodesAs (sink : String) (encoders : EncoderTable) (field stored : String × FieldValue) :
    Prop :=
  stored.1 = field.1 ∧ field.2.encode sink encoders = .ok stored.2

/-- The written fields are encoded one by one and put into the row. -/
theorem encodeFields_eq_ok {sink : String} {encoders : EncoderTable} {fields : Assoc FieldValue}
    {started encoded : EncodedRow} (h : encodeFields sink encoders fields started = .ok encoded) :
    ∃ stored : Assoc FieldValue, List.Forall₂ (EncodesAs sink encoders)
      (fields.filter fun field => !isHidden field.1) stored ∧
        encoded = Assoc.putAll stored started := by
  induction fields generalizing started with
  | nil =>
      obtain rfl : started = encoded := Except.ok.inj h
      exact ⟨[], .nil, rfl⟩
  | cons first rest ih =>
      obtain ⟨name, value⟩ := first
      rw [encodeFields] at h
      split at h
      next hhidden =>
        obtain ⟨stored, hstored, hencoded⟩ := ih h
        exact ⟨stored, by simpa [hhidden] using hstored, hencoded⟩
      next hvisible =>
        split at h
        next image hencode =>
          obtain ⟨stored, hstored, hencoded⟩ := ih h
          refine ⟨(name, image) :: stored, ?_, hencoded⟩
          rw [List.filter_cons_of_pos (by simpa using hvisible)]
          exact .cons ⟨rfl, hencode⟩ hstored
        next => cases h

/-- What is found among encoded values is the encoding of what is found among the others. -/
theorem find?_of_encodesAs {sink : String} {encoders : EncoderTable}
    {fields stored : Assoc FieldValue} (h : List.Forall₂ (EncodesAs sink encoders) fields stored)
    (hfound : stored.find? name = some value) :
    ∃ last, fields.find? name = some last ∧ last.encode sink encoders = .ok value := by
  have hrel : Option.Rel (fun last value => last.encode sink encoders = .ok value)
      (fields.find? name) (stored.find? name) := Assoc.rel_find? h
  rw [hfound] at hrel
  generalize fields.find? name = last at hrel
  cases hrel with
  | some hencode => exact ⟨_, rfl, hencode⟩

theorem keys_of_encodesAs {sink : String} {encoders : EncoderTable}
    {fields stored : Assoc FieldValue} (h : List.Forall₂ (EncodesAs sink encoders) fields stored) :
    stored.keys = fields.keys := by
  induction h with
  | nil => rfl
  | cons hfirst _ ih => exact congrArg₂ List.cons hfirst.1 ih

theorem row?_of_encodesAs {sink : String} {encoders : EncoderTable}
    {fields stored : Assoc FieldValue} (h : List.Forall₂ (EncodesAs sink encoders) fields stored) :
    ∀ entry ∈ stored, entry.2.row? = none := by
  induction h with
  | nil => exact List.forall_mem_nil _
  | cons hfirst _ ih => exact List.forall_mem_cons.mpr ⟨FieldValue.row?_of_encode hfirst.2, ih⟩

/-- The names of the written fields of a template, in order. -/
def Template.writtenNames (template : Template) : List String :=
  (template.fields.map Field.name).filter fun name => !isHidden name

/-- What is stored says the row that has been made. -/
structure Storing.Says (recipe : Recipe) (sink : Sink σ) (making : Making)
    (storing : Storing) : Prop where
  /-- The row has been made by a template of the recipe, all fields of which have been rendered. -/
  part : recipe.Has making.template
  names : making.rendered.map Prod.fst = making.template.fields.map Field.name
  table : storing.table = making.template.table
  /-- The names are `id` and those of the written fields, in order of first occurrence. -/
  keys : storing.row.keys = ("id" :: making.template.writtenNames).eraseDups
  /-- A value is the encoding of what the last field of its name has been rendered to. -/
  values : ∀ name value, storing.row.find? name = some value → name ≠ "id" →
    ∃ last encoding, Assoc.find? name making.rendered.reverse = some last ∧
      sink.encoders.find? (Kind.of last.flatten) = some encoding ∧
        value = encoding.apply last.flatten
  visible : ∀ name ∈ storing.row.keys, isHidden name = false
  noReference : ∀ entry ∈ storing.row, entry.2.row? = none
  listed : ∀ name ∈ storing.row.keys, name ≠ "id" → recipe.tables.Lists storing.table name

variable {recipe : Recipe} {sink : Sink σ} {making : Making} {storing : Storing}

/-- The written fields of a row that has been made have the names of those of its template, each in
the place where it first occurs. -/
theorem keys_written
    (hnames : making.rendered.map Prod.fst = making.template.fields.map Field.name) :
    Assoc.keys ((Assoc.ofList making.rendered).filter fun field => !isHidden field.1) =
      making.template.writtenNames.eraseDups := by
  have hkeys : Assoc.keys ((Assoc.ofList making.rendered).filter fun field => !isHidden field.1) =
      (Assoc.ofList making.rendered).keys.filter fun name => !isHidden name := by
    rw [Assoc.keys, Assoc.keys, List.filter_map]
    rfl
  rw [hkeys, Assoc.keys_ofList, hnames, Assoc.filter_eraseDups, Template.writtenNames]

/-- What is stored under a name is the encoding of the last value that has been rendered under it. -/
theorem exists_last_of_stored {rendered stored : Assoc FieldValue}
    (hstored : List.Forall₂ (EncodesAs sink.name sink.encoders)
      ((Assoc.ofList rendered).filter fun field => !isHidden field.1) stored)
    (hfound : stored.find? name = some value) :
    ∃ last encoding, Assoc.find? name rendered.reverse = some last ∧
      sink.encoders.find? (Kind.of last.flatten) = some encoding ∧
        value = encoding.apply last.flatten := by
  obtain ⟨last, hlast, hencode⟩ := find?_of_encodesAs hstored hfound
  obtain ⟨encoding, hencoding, hvalue⟩ := FieldValue.encode_eq_ok hencode
  have hvisible : (!isHidden name) = true :=
    (List.mem_filter.mp (Assoc.mem_of_find? hlast)).2
  rw [Assoc.find?_filter (fun key => !isHidden key) hvisible, Assoc.ofList,
    Assoc.find?_putAll_reverse, show Assoc.find? name ([] : Assoc FieldValue) = none from rfl,
    Option.or_none] at hlast
  exact ⟨last, encoding, hlast, hencoding, hvalue⟩

/-- What is recorded of a row that has been made says it. -/
theorem Storing.Records.says (h : Storing.Records recipe sink making storing) :
    storing.Says recipe sink making := by
  obtain ⟨id, hrow⟩ := h.row
  rw [Row.encode] at hrow
  split at hrow
  next image hid =>
    obtain ⟨stored, hstored, hencoded⟩ := encodeFields_eq_ok hrow
    have hstoredKeys : stored.keys = making.template.writtenNames.eraseDups :=
      (keys_of_encodesAs hstored).trans (keys_written h.names)
    have hkeys : storing.row.keys = ("id" :: making.template.writtenNames).eraseDups := by
      have hnodup : (Assoc.keys [("id", image)]).Nodup := List.nodup_singleton _
      rw [hencoded, Assoc.keys_putAll hnodup, hstoredKeys]
      exact Assoc.eraseDups_cons_eraseDups _
    have hwritten : ∀ name ∈ storing.row.keys,
        name = "id" ∨ name ∈ making.template.writtenNames := by
      intro name hname
      rwa [hkeys, List.mem_eraseDups, List.mem_cons] at hname
    refine ⟨h.part, h.names, h.table, hkeys, fun name value hfound hne => ?_,
      fun name hname => ?_, fun entry hentry => ?_, fun name hname hne => ?_⟩
    · have hnodup : stored.keys.Nodup := hstoredKeys ▸ Assoc.nodup_eraseDups _
      rw [hencoded, Assoc.find?_putAll hnodup] at hfound
      have hother : Assoc.find? name [("id", image)] = none := by
        simp [Assoc.find?, Ne.symm hne]
      rw [hother, Option.or_none] at hfound
      exact exists_last_of_stored hstored hfound
    · obtain rfl | hname := hwritten name hname
      · decide
      · simpa using (List.mem_filter.mp hname).2
    · rw [hencoded] at hentry
      obtain hentry | hentry := Assoc.mem_putAll hentry
      · exact row?_of_encodesAs hstored entry hentry
      · obtain rfl := List.mem_singleton.mp hentry
        exact FieldValue.row?_of_encode hid
    · obtain ⟨field, hfield, rfl⟩ :=
        List.mem_map.mp (List.mem_filter.mp ((hwritten name hname).resolve_left hne)).1
      have hvisible := (List.mem_filter.mp ((hwritten _ hname).resolve_left hne)).2
      rw [h.table]
      exact h.part.lists hfield (by simpa using hvisible)
  next => cases hrow

/-- Of lists that are related item by item, what is in the second one is related to something in the
first. -/
theorem exists_of_forall₂ {α β : Type} {R : α → β → Prop} {items : List α} {images : List β}
    {image : β} (h : List.Forall₂ R items images) (hmem : image ∈ images) :
    ∃ item ∈ items, R item image := by
  induction h with
  | nil => cases hmem
  | @cons item _ items _ hfirst _ ih =>
      obtain rfl | hmem := List.mem_cons.mp hmem
      · exact ⟨item, List.mem_cons_self, hfirst⟩
      · obtain ⟨other, hother, hrelated⟩ := ih hmem
        exact ⟨other, List.mem_cons_of_mem _ hother, hrelated⟩

/-- Every row that has been stored says one that has been made and handed over. -/
theorem Accounted.Halted.says {holds : List Storing → σ → Prop} {account : Accounted σ}
    (h : account.Halted recipe sink holds) (hmem : storing ∈ account.stored) :
    ∃ making ∈ account.handed, storing.Says recipe sink making := by
  obtain ⟨handed, pending, hhanded, -, hstored⟩ := h.stored
  obtain ⟨making, hmaking, hrecords⟩ := exists_of_forall₂ hstored hmem
  exact ⟨making, hhanded ▸ List.mem_append_left _ hmaking, hrecords.says⟩

namespace Recipe

end Recipe

end RecordRecipe
