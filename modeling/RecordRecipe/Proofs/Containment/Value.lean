import RecordRecipe.Expr.Filter.Sequence
import RecordRecipe.Function.Inline
import RecordRecipe.Proofs.Result

/-!
# Values within rows

A value of an expression may hold references, also deep inside lists, maps and loops.
`Value.Within rows` says that each of them lies in a set of rows. Nothing that is looked up in a
value, and nothing that is put together from values, leads out of the set.
-/

namespace RecordRecipe

/-- The reference that a field's value may be lies within some rows. -/
def FieldValue.Within (rows : RowRef → Prop) : FieldValue → Prop
  | .row target => rows target
  | _ => True

namespace FieldValue

variable {rows more : RowRef → Prop}

/-- A value stays within more rows. -/
theorem Within.mono {value : FieldValue} (h : value.Within rows)
    (hmore : ∀ row, rows row → more row) : value.Within more := by
  cases value with
  | row target => exact hmore target h
  | null | bool | int | float | text | date | moment => trivial

/-- The references of values are what counts. -/
theorem within_iff {value : FieldValue} :
    value.Within rows ↔ ∀ target, value = .row target → rows target := by
  cases value <;> simp [Within]

@[simp] theorem within_row {target : RowRef} : (row target).Within rows ↔ rows target := Iff.rfl

@[simp] theorem within_bool {flag : Bool} : (bool flag).Within rows := trivial

@[simp] theorem within_text {content : String} : (text content).Within rows := trivial

@[simp] theorem within_date {day : Calendar.Date} : (date day).Within rows := trivial

@[simp] theorem within_moment {time : Calendar.Moment} : (moment time).Within rows := trivial

@[simp] theorem within_ofInt {n : Int} : (FieldValue.ofInt n).Within rows := trivial

@[simp] theorem within_ofText {content : String} : (FieldValue.ofText content).Within rows := by
  unfold FieldValue.ofText
  dsimp only
  repeat' split
  all_goals trivial

end FieldValue

/-- The references in fields lie within some rows. -/
def FieldsWithin (rows : RowRef → Prop) (fields : Assoc FieldValue) : Prop :=
  ∀ entry ∈ fields, entry.2.Within rows

/-- The supply of fake data gives no references but those to some rows. -/
def FakeSource.Within (rows : RowRef → Prop) (fake : FakeSource) : Prop :=
  ∀ name locale generator, ∀ value ∈ (fake name locale generator).1, value.Within rows

/-- The supply that is used unless a caller brings another gives no references. -/
theorem FakeSource.builtin_within {rows : RowRef → Prop} : FakeSource.builtin.Within rows := by
  intro name locale generator value hvalue
  unfold FakeSource.builtin at hvalue
  split at hvalue
  · obtain rfl : _ = value := by simpa using hvalue
    exact FieldValue.within_bool
  · obtain rfl : _ = value := by simpa using hvalue
    exact FieldValue.within_ofInt
  · split at hvalue
    · cases hvalue
      exact FieldValue.within_text
    · simp at hvalue

namespace Expr

/-- The references that a value holds lie within some rows. -/
inductive Value.Within (rows : RowRef → Prop) : Value → Prop where
  | undefined (silent : Bool) : Within rows (.undefined silent)
  | null : Within rows .null
  | bool (flag : Bool) : Within rows (.bool flag)
  | number (number : Number) : Within rows (.number number)
  | text (content : String) : Within rows (.text content)
  | list (items : List Value) (hitems : ∀ item ∈ items, Within rows item) :
      Within rows (.list items)
  | iterable (count : Nat) (item : Nat → Value) (hitem : ∀ position, Within rows (item position)) :
      Within rows (.iterable count item)
  | map (entries : List (Value × Value)) (hkeys : ∀ entry ∈ entries, Within rows entry.1)
      (hvalues : ∀ entry ∈ entries, Within rows entry.2) : Within rows (.map entries)
  | row (target : RowRef) (htarget : rows target) : Within rows (.row target)
  | date (date : Calendar.Date) : Within rows (.date date)
  | moment (moment : Calendar.Moment) : Within rows (.moment moment)
  | fake (locale : Option String) : Within rows (.fake locale)
  | run : Within rows .run
  | function (name : String) : Within rows (.function name)
  | routine (name : String) (parameters : List Parameter) (body : List Statement)
      (closure : Nat) : Within rows (.routine name parameters body closure)
  | space (number : Nat) : Within rows (.space number)
  | loop (number index : Nat) (length : Option Nat) (depth : Nat) (previous next : Value)
      (hprevious : Within rows previous) (hnext : Within rows next) :
      Within rows (.loop number index length depth previous next)

/-- The references in the keys and the values of entries lie within some rows. -/
def EntriesWithin (rows : RowRef → Prop) (entries : List (Value × Value)) : Prop :=
  ∀ entry ∈ entries, entry.1.Within rows ∧ entry.2.Within rows

/-- The references in named values lie within some rows. -/
def NamesWithin (rows : RowRef → Prop) (entries : Assoc Value) : Prop :=
  ∀ entry ∈ entries, entry.2.Within rows

/-- The references in the fields of rows, as they are looked up, lie within some rows. -/
def FieldLookup.Within (rows : RowRef → Prop) (fieldOf : FieldLookup) : Prop :=
  ∀ row name, ∀ value ∈ fieldOf row name, value.Within rows

namespace Value

variable {rows more : RowRef → Prop}

attribute [simp] Within.undefined Within.null Within.bool Within.number Within.text Within.date
  Within.moment Within.fake Within.run Within.function Within.routine Within.space

@[simp] theorem within_row {target : RowRef} : (row target).Within rows ↔ rows target :=
  ⟨fun | .row _ h => h, .row _⟩

@[simp] theorem within_list {items : List Value} :
    (list items).Within rows ↔ ∀ item ∈ items, item.Within rows :=
  ⟨fun | .list _ h => h, .list _⟩

@[simp] theorem within_iterable {count : Nat} {item : Nat → Value} :
    (iterable count item).Within rows ↔ ∀ position, (item position).Within rows :=
  ⟨fun | .iterable _ _ h => h, .iterable _ _⟩

@[simp] theorem within_map {entries : List (Value × Value)} :
    (map entries).Within rows ↔ EntriesWithin rows entries :=
  ⟨fun | .map _ hkeys hvalues => fun entry h => ⟨hkeys entry h, hvalues entry h⟩,
    fun h => .map _ (fun entry hentry => (h entry hentry).1) fun entry hentry =>
      (h entry hentry).2⟩

@[simp] theorem within_missing : missing.Within rows := .undefined _

@[simp] theorem within_ofInt {n : Int} : (ofInt n).Within rows := .number _

@[simp] theorem within_ofNat {n : Nat} : (ofNat n).Within rows := .number _

@[simp] theorem within_ofChar {c : Char} : (ofChar c).Within rows := .text _

theorem within_of_mem_map_ofChar {found : Option Char} {value : Value}
    (h : value ∈ found.map ofChar) : value.Within rows := by
  obtain ⟨c, _, rfl⟩ := Option.map_eq_some_iff.mp h
  exact within_ofChar

/-- The value of an option, or else another one, stays within rows if both do. -/
theorem within_getD {found : Option Value} {other : Value}
    (hfound : ∀ value ∈ found, value.Within rows) (hother : other.Within rows) :
    (found.getD other).Within rows := by
  cases found with
  | none => exact hother
  | some value => exact hfound value rfl

/-- An item of an array, or else null, is within the rows of the items. -/
theorem within_array_getD {items : List Value} (h : ∀ item ∈ items, item.Within rows)
    (position : Nat) : (items.toArray.getD position null).Within rows := by
  by_cases hposition : position < items.length
  · simpa [Array.getD, hposition] using h _ (List.getElem_mem hposition)
  · simp [Array.getD, hposition]

/-- An item of a list, or else another value, is within the rows of both. -/
theorem within_list_getD {items : List Value} {other : Value}
    (h : ∀ item ∈ items, item.Within rows) (hother : other.Within rows) (position : Nat) :
    (items.getD position other).Within rows := by
  rw [List.getD_eq_getElem?_getD]
  exact within_getD (fun value hvalue => h value (List.mem_of_getElem? hvalue)) hother

/-- Items that are produced are within the rows of the given ones. -/
theorem within_produced {items : List Value} (h : ∀ item ∈ items, item.Within rows) :
    (produced items).Within rows :=
  within_iterable.mpr (within_array_getD h)

/-- The items of a sequence by position are within its rows. -/
theorem indexed?_within {value : Value} (h : value.Within rows) :
    ∀ indexed ∈ value.indexed?, ∀ position, (indexed.2 position).Within rows := by
  cases h with
  | list items hitems =>
      intro indexed hindexed
      cases hindexed
      exact within_array_getD hitems
  | iterable count item hitem =>
      intro indexed hindexed
      cases hindexed
      exact hitem
  | _ => simp [indexed?]

/-- All items of a sequence are within its rows. -/
theorem sequenceItems?_within {value : Value} (h : value.Within rows) :
    ∀ items ∈ value.sequenceItems?, ∀ item ∈ items, item.Within rows := by
  cases h with
  | list items hitems => simpa [sequenceItems?] using hitems
  | iterable count item hitem =>
      intro items hitems
      obtain rfl : _ = items := by simpa [sequenceItems?] using hitems
      intro found hfound
      obtain ⟨position, _, rfl⟩ := List.mem_map.mp hfound
      exact hitem position
  | _ => simp [sequenceItems?]

/-- The fields of a macro hold no references. -/
theorem routineFields_within (name : String) (parameters : List Parameter)
    (body : List Statement) : NamesWithin rows (routineFields name parameters body) := by
  intro entry hentry
  simp only [routineFields, List.mem_cons, List.not_mem_nil, or_false] at hentry
  obtain rfl | rfl | rfl := hentry
  · exact .text _
  · simp
  · exact .bool _

/-- The counted fields of a loop hold no references. -/
theorem loopCounters_within (index : Nat) (length : Option Nat) (depth : Nat) :
    NamesWithin rows (loopCounters index length depth) := by
  intro entry hentry
  have hknown (count : Nat → Nat) :
      ((length.map fun n => Value.ofNat (count n)).getD .missing).Within rows := by
    cases length <;> simp
  simp only [loopCounters, List.mem_cons, List.not_mem_nil, or_false] at hentry
  rcases hentry with rfl | rfl | rfl | rfl | rfl | rfl | rfl | rfl | rfl <;>
    first | exact hknown _ | simp

/-- Named values as entries are within the rows of the values. -/
theorem entries_within_of_names {fields : Assoc Value} (h : NamesWithin rows fields) :
    EntriesWithin rows (fields.map fun field => (text field.1, field.2)) := by
  intro entry hentry
  obtain ⟨field, hfield, rfl⟩ := List.mem_map.mp hentry
  exact ⟨.text _, h field hfield⟩

/-- The entries that a value shows are within its rows. -/
theorem mapEntries_within {value : Value} (h : value.Within rows) :
    EntriesWithin rows value.mapEntries := by
  cases h with
  | map entries hkeys hvalues =>
      exact fun entry hentry => ⟨hkeys entry hentry, hvalues entry hentry⟩
  | routine name parameters body closure =>
      exact entries_within_of_names (routineFields_within name parameters body)
  | loop number index length depth previous next hprevious hnext =>
      intro entry hentry
      rw [mapEntries, List.mem_append] at hentry
      obtain hentry | hentry := hentry
      · exact entries_within_of_names (loopCounters_within index length depth) entry hentry
      · simp only [List.mem_cons, List.not_mem_nil, or_false] at hentry
        obtain rfl | rfl := hentry
        · exact ⟨.text _, hprevious⟩
        · exact ⟨.text _, hnext⟩
  | _ => simp [mapEntries, EntriesWithin]

/-- What a value holds one by one is within its rows. -/
theorem members?_within {value : Value} (h : value.Within rows) :
    ∀ members ∈ value.members?, ∀ item ∈ members, item.Within rows := by
  intro members hmembers item hitem
  unfold members? at hmembers
  split at hmembers
  next items hsome =>
    obtain rfl : items = members := by simpa using hmembers
    exact sequenceItems?_within h items hsome item hitem
  next hnone =>
    split at hmembers
    · obtain rfl : _ = members := by simpa using hmembers
      obtain ⟨entry, hentry, rfl⟩ := List.mem_map.mp hitem
      exact (mapEntries_within h entry hentry).1
    · simp at hmembers

/-- What entries hold under a key is within their rows. -/
theorem findValue?_within {key : Value} {entries : List (Value × Value)}
    (h : EntriesWithin rows entries) : ∀ value ∈ findValue? key entries, value.Within rows := by
  induction entries with
  | nil => simp [findValue?]
  | cons entry rest ih =>
      intro value hvalue
      rw [findValue?] at hvalue
      split at hvalue
      · obtain rfl : entry.2 = value := by simpa using hvalue
        exact (h entry (by simp)).2
      · exact ih (fun other hother => h other (by simp [hother])) value hvalue

/-- An entry put into entries keeps them within rows. -/
theorem insertEntry_within {key value : Value} {entries : List (Value × Value)}
    (hkey : key.Within rows) (hvalue : value.Within rows) (h : EntriesWithin rows entries) :
    EntriesWithin rows (insertEntry key value entries) := by
  induction entries with
  | nil => simpa [insertEntry, EntriesWithin] using ⟨hkey, hvalue⟩
  | cons entry rest ih =>
      have hentry := h entry (by simp)
      have hrest : EntriesWithin rows rest := fun other hother => h other (by simp [hother])
      rw [insertEntry]
      split
      · exact List.forall_mem_cons.mpr ⟨⟨hkey, hvalue⟩, h⟩
      · exact List.forall_mem_cons.mpr ⟨⟨hentry.1, hvalue⟩, hrest⟩
      · exact List.forall_mem_cons.mpr ⟨hentry, ih hrest⟩

/-- The map of some entries is within their rows. -/
theorem mapOf_within {entries : List (Value × Value)} (h : EntriesWithin rows entries) :
    (mapOf entries).Within rows := by
  have hfold (found : List (Value × Value)) (hfound : EntriesWithin rows found) :
      EntriesWithin rows
        (entries.foldl (fun found entry => insertEntry entry.1 entry.2 found) found) := by
    induction entries generalizing found with
    | nil => exact hfound
    | cons entry rest ih =>
        have hentry := h entry (by simp)
        exact ih (fun other hother => h other (by simp [hother])) _
          (insertEntry_within hentry.1 hentry.2 hfound)
  exact within_map.mpr (hfold [] (by simp [EntriesWithin]))

/-- The fields of dates and moments are no references. -/
theorem momentField?_within {moment : Calendar.Moment} {name : String} :
    ∀ value ∈ momentField? moment name, value.Within rows := by
  intro value hvalue
  unfold momentField? dateField? at hvalue
  split at hvalue
  all_goals first
    | (obtain rfl : _ = value := by simpa using hvalue) ; simp
    | (split at hvalue <;> first
        | (obtain rfl : _ = value := by simpa using hvalue) ; simp
        | simp at hvalue)

/-- The value of a field is within the rows of the field. -/
@[simp] theorem within_ofField {value : FieldValue} :
    (ofField value).Within rows ↔ value.Within rows := by
  cases value <;> simp [ofField, FieldValue.Within]

/-- An attribute is within the rows of the value and of the fields of rows. -/
theorem attribute?_within {fieldOf : FieldLookup} (hfields : fieldOf.Within rows) {value : Value}
    (h : value.Within rows) (name : String) :
    ∀ found ∈ value.attribute? fieldOf name, found.Within rows := by
  intro found hfound
  unfold attribute? at hfound
  split at hfound
  next target =>
    obtain ⟨field, hfield, rfl⟩ := Option.map_eq_some_iff.mp hfound
    exact within_ofField.mpr (hfields target name field hfield)
  next day =>
    unfold dateField? at hfound
    split at hfound <;> first
      | (obtain rfl : _ = found := by simpa using hfound) ; simp
      | simp at hfound
  next time => exact momentField?_within found hfound
  next => exact findValue?_within (mapEntries_within h) found hfound

/-- What stands under a subscript is within the rows of the value and of the fields of rows. -/
theorem subscript?_within {fieldOf : FieldLookup} (hfields : fieldOf.Within rows) {value : Value}
    (h : value.Within rows) (index : Value) :
    ∀ found ∈ value.subscript? fieldOf index, found.Within rows := by
  intro found hfound
  unfold subscript? at hfound
  split at hfound
  next items _ =>
    obtain ⟨position, _, hposition⟩ := Option.bind_eq_some_iff.mp hfound
    exact within_list.mp h found (List.mem_of_getElem? hposition)
  next count item _ =>
    obtain ⟨position, _, hposition⟩ := Option.bind_eq_some_iff.mp hfound
    split at hposition
    · obtain rfl : _ = found := by simpa using hposition
      exact within_iterable.mp h position
    · simp at hposition
  next content _ =>
    obtain ⟨position, _, hposition⟩ := Option.bind_eq_some_iff.mp hfound
    exact within_of_mem_map_ofChar hposition
  next => exact attribute?_within hfields h _ found hfound
  next => exact attribute?_within hfields h _ found hfound
  next => exact attribute?_within hfields h _ found hfound
  next => exact findValue?_within (mapEntries_within h) found hfound

/-- What lies at the end of a path is within the rows of the value and of the fields of rows. -/
theorem atPath?_within {fieldOf : FieldLookup} (hfields : fieldOf.Within rows)
    {path : List String} {value : Value} (h : value.Within rows) :
    ∀ found ∈ atPath? fieldOf path value, found.Within rows := by
  induction path generalizing value with
  | nil => simpa [atPath?] using h
  | cons part rest ih =>
      intro found hfound
      rw [atPath?] at hfound
      split at hfound
      · simp at hfound
      · refine ih (within_getD ?_ (.undefined _)) found hfound
        split
        · exact subscript?_within hfields h _
        · exact attribute?_within hfields h _

/-- The items that a loop goes through are within the rows of the value. -/
theorem items_within {value : Value} (h : value.Within rows) :
    Gives (fun items => ∀ item ∈ items, item.Within rows) value.items := by
  unfold items
  split
  · trivial
  · simp
  · simp
  next => simp
  next =>
    split
    next items hitems => exact members?_within h items hitems
    next => trivial

/-- The items that a filter works on are within the rows of the value. -/
theorem listItems_within {value : Value} (h : value.Within rows) :
    Gives (fun items => ∀ item ∈ items, item.Within rows) value.listItems := by
  rw [listItems, Gives.mapError_iff]
  exact items_within h

/-- A value that a field can take is within its rows. -/
theorem toField_within {value : Value} (h : value.Within rows) :
    Gives (fun field => field.Within rows) value.toField := by
  unfold toField
  split
  all_goals try trivial
  next =>
    split
    · split <;> trivial
    · trivial
  next => exact within_row.mp h

end Value

end Expr

end RecordRecipe
