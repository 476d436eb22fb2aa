import RecordRecipe.Sink.Json
import RecordRecipe.Proofs.Decimal.Layout
import Mathlib.Data.List.Forall2

/-!
# The array of rows as a document

The JSON sink writes its array piece by piece. Whatever rows it is given, and whenever it is told
to flush and to commit in between, closing it leaves one document: an array with an object for
each row, in the order in which the rows came, whose members are the table and the fields of the
row. This is `Sink.json_decodes`. What a member says is settled by reading the document back.
-/

namespace RecordRecipe

open JsonValue (chars isNumeral ofText?)

/-- A value in a document stands for the value of a field. -/
inductive FieldValue.DecodesTo : FieldValue → JsonValue → Prop
  | null : DecodesTo .null .null
  | bool (flag : Bool) : DecodesTo (.bool flag) (.bool flag)
  | int {n : Int64} {text : String} (h : Numeral.readInt? text.toList = some n.toInt) :
      DecodesTo (.int n) (.number text)
  | finite {x : Float} {text : String} (h : x.isFinite = true) : DecodesTo (.float x) (.number text)
  | infinite {x : Float} (h : x.isFinite = false) : DecodesTo (.float x) .null
  | text (content : String) : DecodesTo (.text content) (.string content)
  | date (day : Calendar.Date) : DecodesTo (.date day) (.string (FieldValue.date day).display)
  | moment (time : Calendar.Moment) :
      DecodesTo (.moment time) (.string (FieldValue.moment time).display)
  | row {target : RowRef} {text : String} (h : Numeral.readInt? text.toList = some target.id) :
      DecodesTo (.row target) (.number text)

/-- The value in the document stands for the value of the field, and its number is a numeral. -/
theorem FieldValue.toJson_decodesTo (value : FieldValue) :
    value.DecodesTo value.toJson ∧ value.toJson.Proper := by
  cases value with
  | null => exact ⟨.null, .null⟩
  | bool flag => exact ⟨.bool flag, .bool flag⟩
  | int n => exact ⟨.int (Numeral.readInt?_toString _), .number (JsonValue.isNumeral_toString _)⟩
  | float x =>
      rw [toJson]
      split_ifs with hfinite
      · exact ⟨.finite hfinite, .number (Decimal.Layout.isNumeral_format hfinite)⟩
      · exact ⟨.infinite (by simpa using hfinite), .null⟩
  | text content => exact ⟨.text content, .string content⟩
  | date day => exact ⟨.date day, .string _⟩
  | moment time => exact ⟨.moment time, .string _⟩
  | row target =>
      have htext : toString target.id = toString (target.id : Int) := rfl
      rw [toJson, htext]
      exact ⟨.row (Numeral.readInt?_toString _), .number (JsonValue.isNumeral_toString _)⟩

namespace Sink

variable {σ : Type}

/-- What a sink may be told between the declaration of its tables and its end. -/
inductive StorageCall where
  | store (table : String) (row : EncodedRow)
  | flush
  | commit

/-- What a sink does when it is told something. -/
def answer (sink : Sink σ) : StorageCall → Action σ Unit
  | .store table row => sink.store table row
  | .flush => sink.flush
  | .commit => sink.commit

/-- The row that is stored, if one is. -/
def StorageCall.row? : StorageCall → Option (String × EncodedRow)
  | .store table row => some (table, row)
  | .flush | .commit => none

/-- The object is the one of a row: the table under `_table` and then the fields, where a field of
that name takes the place of the table. -/
def IsObjectOf (row : String × EncodedRow) (object : JsonValue) : Prop :=
  ∃ members, object = .object members ∧
    List.Forall₂ (fun field member => member.1 = field.1 ∧ field.2.DecodesTo member.2)
      (Assoc.putAll row.2 [("_table", .text row.1)]) members

theorem isObjectOf_rowObject (table : String) (row : EncodedRow) :
    IsObjectOf (table, row) (rowObject table row) := by
  refine ⟨_, rfl, ?_⟩
  exact List.forall₂_map_right_iff.mpr
    (List.forall₂_same.mpr fun field _ => ⟨rfl, field.2.toJson_decodesTo.1⟩)

theorem rowObject_proper (table : String) (row : EncodedRow) : (rowObject table row).Proper := by
  refine .object fun member h => ?_
  obtain ⟨field, -, rfl⟩ := List.mem_map.mp h
  exact field.2.toJson_decodesTo.2

/-- The objects of some rows. -/
def rowObjects (rows : List (String × EncodedRow)) : List JsonValue :=
  rows.map fun row => rowObject row.1 row.2

/-- The text of an array that is still open: nothing before the first row. -/
def openText (rows : List (String × EncodedRow)) : List Char :=
  if rows = [] then []
  else '[' :: '\n' :: List.intercalate [',', '\n'] ((rowObjects rows).map chars)

/-- The array has come to the rows so far and is still open. -/
structure JsonArray.Holds (state : JsonArray) (rows : List (String × EncodedRow)) : Prop where
  count : state.rows = rows.length
  text : state.text.toList = openText rows

theorem intercalate_concat {α : Type} (separator last : List α) {parts : List (List α)}
    (h : parts ≠ []) :
    List.intercalate separator (parts ++ [last]) =
      List.intercalate separator parts ++ separator ++ last := by
  induction parts with
  | nil => exact absurd rfl h
  | cons part rest ih =>
      cases rest with
      | nil => simp [List.intercalate_cons_cons]
      | cons next rest =>
          rw [List.cons_append, List.cons_append, List.intercalate_cons_cons,
            ← List.cons_append, ih (List.cons_ne_nil _ _), List.intercalate_cons_cons]
          simp only [List.append_assoc]

/-- A further row is written behind those so far. -/
theorem JsonArray.Holds.addRow {state : JsonArray} {rows : List (String × EncodedRow)}
    (h : state.Holds rows) (table : String) (row : EncodedRow) :
    (state.addRow table row).Holds (rows ++ [(table, row)]) := by
  refine ⟨by simp [JsonArray.addRow, JsonArray.write, h.count], ?_⟩
  have htext : (state.addRow table row).text.toList = openText rows ++
      ((if state.rows = 0 then "[\n" else ",\n").toList ++ chars (rowObject table row)) := by
    simp [JsonArray.addRow, JsonArray.write, h.text, chars]
  rw [htext, h.count]
  by_cases hrows : rows = []
  · subst hrows
    simp [openText, rowObjects]
  · have hlength : rows.length ≠ 0 := by simpa using hrows
    have hparts : (rowObjects rows).map chars ≠ [] := by simpa [rowObjects] using hrows
    have hmore : (rowObjects (rows ++ [(table, row)])).map chars =
        (rowObjects rows).map chars ++ [chars (rowObject table row)] := by
      simp [rowObjects]
    rw [openText, if_neg hrows, if_neg hlength, openText, if_neg (by simp), hmore,
      intercalate_concat _ _ hparts]
    simp

/-- Being told something adds the row to the array, if it is one to store. -/
theorem json_answer {state : JsonArray} {rows : List (String × EncodedRow)} (h : state.Holds rows)
    (call : StorageCall) :
    ∃ next, json.answer call state = (.ok (), next) ∧ next.Holds (rows ++ call.row?.toList) := by
  cases call with
  | store table row => exact ⟨_, rfl, h.addRow table row⟩
  | flush => exact ⟨state, rfl, by simpa [StorageCall.row?] using h⟩
  | commit => exact ⟨state, rfl, by simpa [StorageCall.row?] using h⟩

/-- Being told many things adds the rows among them to the array, in order. -/
theorem json_answers {state : JsonArray} {rows : List (String × EncodedRow)} (h : state.Holds rows)
    (calls : List StorageCall) :
    ∃ next, Action.forEach json.answer calls state = (.ok (), next) ∧
      next.Holds (rows ++ calls.filterMap StorageCall.row?) := by
  induction calls generalizing state rows with
  | nil => exact ⟨state, rfl, by simpa using h⟩
  | cons call rest ih =>
      obtain ⟨middle, hcall, hmiddle⟩ := json_answer h call
      obtain ⟨next, hrest, hnext⟩ := ih hmiddle
      refine ⟨next, ?_, ?_⟩
      · rw [Action.forEach, Action.bind_apply, hcall]
        exact hrest
      · rw [List.filterMap_cons]
        cases hrow : call.row? with
        | none => simpa [hrow] using hnext
        | some row => simpa [hrow] using hnext

/-- Closing leaves a document that says the objects of all rows. -/
theorem json_close {state : JsonArray} {rows : List (String × EncodedRow)} (h : state.Holds rows) :
    ∃ last, json.close state = (.ok (), last) ∧
      ofText? last.text = some (.array (rowObjects rows)) := by
  refine ⟨_, rfl, ?_⟩
  dsimp only
  by_cases hrows : rows = []
  · subst hrows
    have htext : (state.text ++ "[]\n").toList = ['[', ']', '\n'] := by
      rw [String.toList_append, h.text]
      rfl
    have hcount : state.rows = 0 := h.count
    rw [if_pos hcount, JsonArray.write, ofText?, htext]
    rfl
  · refine JsonValue.ofText?_lines (by simpa [rowObjects] using hrows) ?_ ?_
    · intro object hobject
      obtain ⟨row, -, rfl⟩ := List.mem_map.mp hobject
      exact rowObject_proper _ _
    · have hcount : state.rows ≠ 0 := by
        rw [h.count]
        simpa using hrows
      rw [JsonArray.write, if_neg hcount, String.toList_append, h.text, openText, if_neg hrows]
      rfl

/-- Whatever rows come, however they are mixed with flushes and commits, the text after closing is
one document: the array of the objects of the rows in order. -/
theorem json_decodes (calls : List StorageCall) (batch : BatchCounter) :
    ∃ last objects,
      (do Action.forEach json.answer calls; json.close) { batch := batch } = (.ok (), last) ∧
        ofText? last.text = some (.array objects) ∧
        List.Forall₂ IsObjectOf (calls.filterMap StorageCall.row?) objects := by
  have hstart : JsonArray.Holds { batch := batch } [] := ⟨rfl, rfl⟩
  obtain ⟨next, hcalls, hnext⟩ := json_answers hstart calls
  obtain ⟨last, hclose, htext⟩ := json_close hnext
  refine ⟨last, _, ?_, htext, ?_⟩
  · rw [Action.bind_apply, hcalls]
    exact hclose
  · exact List.forall₂_map_right_iff.mpr
      (List.forall₂_same.mpr fun row _ => isObjectOf_rowObject row.1 row.2)

end Sink

end RecordRecipe
