import RecordRecipe.Proofs.Run.Encoded
import RecordRecipe.Proofs.Sink.Json

/-!
# The tables that objects tell

In the array that the JSON sink writes in a run, the object of a row has a member for every field
that has been stored. It also tells the table of the row, unless the row has a field `_table` that
says something else. `Recipe.recovers_iff` is about whole runs: the rows of all tables can be told
apart by what their objects say exactly if no row says something else.
-/

namespace RecordRecipe

variable {σ : Type}

namespace JsonValue

/-- The member of an object under a name. -/
def member? (name : String) : JsonValue → Option JsonValue
  | .object members => Assoc.find? name members
  | _ => none

/-- The table that an object tells: the string under `_table`. -/
def table? (object : JsonValue) : Option String :=
  match object.member? "_table" with
  | some (.string table) => some table
  | _ => none

/-- An object tells a table if its member is the name of the table. -/
theorem table?_eq_some {object : JsonValue} {table : String} :
    object.table? = some table ↔ object.member? "_table" = some (.string table) := by
  unfold table?
  split
  next content hmember => simp [hmember]
  next hother => simpa using hother table

end JsonValue

/-- A value that stands for a string stands for nothing else. -/
theorem FieldValue.DecodesTo.eq_string {value : FieldValue} {content : String}
    {member : JsonValue} (h : value.DecodesTo (.string content)) (hmember : value.DecodesTo member) :
    member = .string content := by
  cases h <;> cases hmember <;> rfl

/-- A row says nothing else of its table than the name of the table. -/
def Storing.TellsTable (storing : Storing) : Prop :=
  ∀ value, storing.row.find? "_table" = some value → value.DecodesTo (.string storing.table)

/-- An object keeps a row: it has a member for every field, and it tells the table unless the row
says something else. -/
structure Storing.KeptIn (storing : Storing) (object : JsonValue) : Prop where
  isObject : Sink.IsObjectOf (storing.table, storing.row) object
  fields : ∀ name value, storing.row.find? name = some value →
    ∃ member, object.member? name = some member ∧ value.DecodesTo member
  table : object.table? = some storing.table ↔ storing.TellsTable

/-- For every table, the objects that tell it are those of its rows, in order. -/
def Recovers (stored : List Storing) (objects : List JsonValue) : Prop :=
  ∀ table, List.Forall₂ Storing.KeptIn (stored.filter fun storing => storing.table = table)
    (objects.filter fun object => object.table? = some table)

namespace Sink

/-- The object of a row has a member for everything that goes into it. -/
theorem IsObjectOf.exists_member {row : String × EncodedRow} {object : JsonValue} {name : String}
    {value : FieldValue} (h : IsObjectOf row object)
    (hvalue : (Assoc.putAll row.2 [("_table", .text row.1)]).find? name = some value) :
    ∃ member, object.member? name = some member ∧ value.DecodesTo member := by
  obtain ⟨members, rfl, hmembers⟩ := h
  have hrel : Option.Rel FieldValue.DecodesTo
      (Assoc.find? name (Assoc.putAll row.2 [("_table", .text row.1)]))
      (Assoc.find? name members) := Assoc.rel_find? hmembers
  change ∃ member, Assoc.find? name members = some member ∧ _
  rw [hvalue] at hrel
  generalize Assoc.find? name members = found at hrel
  cases hrel with
  | some hdecodes => exact ⟨_, rfl, hdecodes⟩

/-- The object of a row that has no name twice keeps the row. -/
theorem IsObjectOf.kept {storing : Storing} {object : JsonValue}
    (h : IsObjectOf (storing.table, storing.row) object) (hnodup : storing.row.keys.Nodup) :
    storing.KeptIn object := by
  have hfields : ∀ name value, storing.row.find? name = some value →
      ∃ member, object.member? name = some member ∧ value.DecodesTo member := by
    intro name value hvalue
    refine h.exists_member ?_
    rw [Assoc.find?_putAll hnodup, hvalue, Option.some_or]
  refine ⟨h, hfields, ?_⟩
  rw [JsonValue.table?_eq_some]
  constructor
  · intro hmember value hvalue
    obtain ⟨member, hfound, hdecodes⟩ := hfields "_table" value hvalue
    obtain rfl : member = .string storing.table := Option.some.inj (hfound.symm.trans hmember)
    exact hdecodes
  · intro htells
    cases hvalue : storing.row.find? "_table" with
    | some value =>
        obtain ⟨member, hfound, hdecodes⟩ := hfields "_table" value hvalue
        rw [hfound, (htells value hvalue).eq_string hdecodes]
    | none =>
        have hown : (Assoc.putAll storing.row [("_table", .text storing.table)]).find? "_table" =
            some (.text storing.table) := by
          rw [Assoc.find?_putAll hnodup, hvalue]
          rfl
        obtain ⟨member, hfound, hdecodes⟩ := h.exists_member hown
        rw [hfound, (FieldValue.DecodesTo.text storing.table).eq_string hdecodes]

end Sink

/-- The rows of every table can be recovered exactly if no row says something else of its table. -/
theorem recovers_iff_tellsTable {stored : List Storing} {objects : List JsonValue}
    (h : List.Forall₂ Storing.KeptIn stored objects) :
    Recovers stored objects ↔ ∀ storing ∈ stored, storing.TellsTable := by
  constructor
  · intro hrecovers storing hstoring
    have hrows : storing ∈ stored.filter fun other => other.table = storing.table :=
      List.mem_filter.mpr ⟨hstoring, by simp⟩
    obtain ⟨object, hobject, hkept⟩ := exists_of_forall₂ (hrecovers storing.table).flip hrows
    have htable : object.table? = some storing.table := by
      simpa using (List.mem_filter.mp hobject).2
    exact hkept.table.mp htable
  · intro htells table
    have hboth : List.Forall₂ (fun storing object => storing.TellsTable ∧ storing.KeptIn object)
        stored objects :=
      (List.forall₂_and_left stored objects).mpr ⟨htells, h⟩
    refine (List.rel_filter ?_ hboth).imp fun _ _ hkept => hkept.2
    intro storing object hkept
    simp [hkept.2.table.mpr hkept.1]

/-- An array holds the rows that are stored, through a run. -/
theorem Sink.json_upholds {recipe : Recipe} : Sink.json.Upholds recipe fun stored state =>
    state.Holds (stored.map fun storing => (storing.table, storing.row)) where
  store := fun {_ _ _ table row} hholds _ => by
    rw [List.map_append]
    exact hholds.addRow table row
  setCounter := fun _ hholds => ⟨hholds.count, hholds.text⟩
  flush := fun hholds => hholds
  commit := fun hholds => hholds

namespace Recipe

/-- A run that succeeds with the JSON sink, and is followed by closing the sink, leaves one array. It
holds an object for every row that has been handed over, in order, and each object has a member for
every field that has been stored of its row. The object tells the table of the row exactly if the
row says nothing else under `_table`; so the rows of all tables can be recovered exactly if no row
says anything else, as in every recipe none of whose tables lists a field `_table`. -/
theorem objects_tell_tables {recipe : Recipe} {request : Request} {batch : BatchCounter}
    {summary : Summary}
    (hdone : (recipe.generate request Sink.json { batch := batch }).1 = .ok summary) :
    ∃ last objects,
      (recipe.generate request Sink.json >>= fun _ => Sink.json.close) { batch := batch } =
        (.ok (), last) ∧
      JsonValue.ofText? last.text = some (.array objects) ∧
      List.Forall₂ (Storing.Says recipe Sink.json)
        (recipe.account request Sink.json { batch := batch }).2.out.handed
        (recipe.account request Sink.json { batch := batch }).2.out.stored ∧
      List.Forall₂ Storing.KeptIn
        (recipe.account request Sink.json { batch := batch }).2.out.stored objects ∧
      (Recovers (recipe.account request Sink.json { batch := batch }).2.out.stored objects ↔
        ∀ storing ∈ (recipe.account request Sink.json { batch := batch }).2.out.stored,
          storing.TellsTable) ∧
      ((∀ table, ¬ recipe.tables.Lists table "_table") →
        Recovers (recipe.account request Sink.json { batch := batch }).2.out.stored objects) := by
  have husual : Sink.json.Usual := rfl
  have hrun := generate_eq_account recipe request husual { batch := batch }
  rw [hrun] at hdone
  have hstart : ({ batch := batch } : Sink.JsonArray).Holds [] := ⟨rfl, rfl⟩
  have hbalanced := account_balanced _ Sink.json_upholds hstart hdone
  rw [Action.bind_apply, hrun]
  generalize recipe.account request Sink.json { batch := batch } = run at hdone hbalanced ⊢
  obtain ⟨_, machine⟩ := run
  obtain rfl : _ = Except.ok summary := hdone
  obtain ⟨last, hclose, htext⟩ := Sink.json_close hbalanced.holds
  have hshown := hbalanced.stored.imp fun _ _ hrecords => hrecords.says
  have hkept : List.Forall₂ Storing.KeptIn machine.out.stored (Sink.rowObjects
      (machine.out.stored.map fun storing => (storing.table, storing.row))) := by
    rw [Sink.rowObjects, List.map_map, List.forall₂_map_right_iff, List.forall₂_same]
    intro storing hstoring
    obtain ⟨making, _, hshown⟩ := exists_of_forall₂ hshown hstoring
    exact (Sink.isObjectOf_rowObject _ _).kept (hshown.keys ▸ Assoc.nodup_eraseDups _)
  have hiff := recovers_iff_tellsTable hkept
  refine ⟨last, _, hclose, htext, hshown, hkept, hiff, fun hlists => hiff.mpr ?_⟩
  intro storing hstoring value hvalue
  obtain ⟨making, _, hshown⟩ := exists_of_forall₂ hshown hstoring
  have hkey : "_table" ∈ storing.row.keys := List.mem_map_of_mem (Assoc.mem_of_find? hvalue)
  exact absurd (hshown.listed _ hkey (by decide)) (hlists storing.table)

/-- The objects of six rows tell their table. -/
theorem objects_tell_tables_nested :
    ∃ last objects,
      (nested.generate once Sink.json >>= fun _ => Sink.json.close) {} = (.ok (), last) ∧
      JsonValue.ofText? last.text = some (.array objects) ∧
      (objects.filter fun object => object.table? = some "A").length = 6 := by
  have hsucceeds : (nested.generate once Sink.json {}).1.isOk = true := by decide +kernel
  obtain ⟨summary, hdone⟩ := Gives.exists_of_isOk hsucceeds
  obtain ⟨last, objects, hclosed, htext, -, -, -, hrecovers⟩ := objects_tell_tables hdone
  have hlists : ∀ table, ¬ nested.tables.Lists table "_table" :=
    fun _ hlisted => absurd (nested_lists hlisted) (by decide)
  have hrows : ((nested.account once Sink.json {}).2.out.stored.filter fun storing =>
      storing.table = "A").length = 6 := by decide +kernel
  exact ⟨last, objects, hclosed, htext, (hrecovers hlists "A").length_eq ▸ hrows⟩

/-- A recipe that gives a row a field of the name under which its object tells the table. -/
def mislabeled : Recipe where
  file := "recipe.yml"
  options := []
  groups := []
  templates :=
    [.mk "A" none none [.mk "_table" (.value ⟨.text "x", "recipe.yml", 3⟩) "recipe.yml" 3] []
      "recipe.yml" 1]

/-- The object of a row of one table tells another. -/
theorem object_of_mislabeled :
    (mislabeled.generate once Sink.json {}).1.isOk = true ∧
    (mislabeled.account once Sink.json {}).2.out.stored.map Storing.table = ["A"] ∧
    (match JsonValue.ofText?
        ((mislabeled.generate once Sink.json >>= fun _ => Sink.json.close) {}).2.text with
      | some (.array objects) => objects.map JsonValue.table?
      | _ => []) = [some "x"] := by
  decide +kernel

end Recipe

end RecordRecipe
