import RecordRecipe.Proofs.Run.Encoded
import RecordRecipe.Proofs.Text.Csv

/-!
# What is written to the files of tables

What has been written to a table is its header and one record per row that has been stored for it,
in order, whatever of it has been written out. No column stands twice in a header, so that no value
is taken before its column is reached, and every name of a row has a column, so that none is lost:
`Recipe.tables_written`.
-/

namespace RecordRecipe

namespace Sink

/-- Everything that has been written to a table, with what is kept back. -/
def CsvTable.written (table : CsvTable) : String :=
  table.released ++ table.pending

/-- The rows that have been stored for a table, in order. -/
def rowsFor (name : String) (stored : List Storing) : List EncodedRow :=
  (stored.filter fun storing => storing.table = name).map Storing.row

/-- A cell shows what a row has under a column. -/
structure CellOf (row : EncodedRow) (column cell : String) : Prop where
  display : ∀ value, row.find? column = some value → value ≠ .null → cell = value.display
  empty_iff : cell = "" ↔
    ∀ value, row.find? column = some value → value = .null ∨ value.display = ""

/-- A record shows a row under some columns, and all of it. -/
structure RecordOf (columns : List String) (row : EncodedRow) (record : List String) : Prop where
  length : record.length = columns.length
  cells : List.Forall₂ (CellOf row) columns record
  covered : row.keys ⊆ columns

/-- What is written to a table for some rows. -/
def tableText (columns : List String) (rows : List EncodedRow) : String :=
  String.join ((columns :: rows.map (cellsOf columns)).map recordLine)

/-- Every row has been stored, and every table of a folder holds its header and the rows that have
been stored for it. -/
structure CsvFolder.Holds (tables : Tables) (stored : List Storing) (folder : CsvFolder) :
    Prop where
  answers : ∀ storing ∈ stored, storing.answer = .ok ()
  texts : ∀ name listed, tables.find? name = some listed →
    ∃ table, folder.tables.find? name = some table ∧ table.columns = columnsOf listed ∧
      table.written = tableText (columnsOf listed) (rowsFor name stored)

/-! ## Cells -/

/-- A value that has been taken out of a row leaves the others. -/
theorem find?_drop {row : EncodedRow} {name other : String} (h : other ≠ name) :
    (row.drop name).find? other = row.find? other :=
  Assoc.find?_filter (fun key => key != name) (by simpa using h)

/-- What a row has under a column, as a cell. -/
def cellIn (row : EncodedRow) (column : String) : String :=
  match row.find? column with
  | none | some .null => ""
  | some value => value.display

theorem cellOf_cellIn (row : EncodedRow) (column : String) :
    CellOf row column (cellIn row column) := by
  cases hfound : row.find? column with
  | none => exact ⟨by simp [hfound], by simp [cellIn, hfound]⟩
  | some value => cases value <;> exact ⟨by simp [cellIn, hfound], by simp [cellIn, hfound]⟩

/-- Different columns are filled with what the row has under them. -/
theorem cellsOf_eq_map {columns : List String} (h : columns.Nodup) (row : EncodedRow) :
    cellsOf columns row = columns.map (cellIn row) := by
  induction columns generalizing row with
  | nil => rfl
  | cons column columns ih =>
      obtain ⟨hnew, hcolumns⟩ := List.nodup_cons.mp h
      -- What is left of the row says the same under the columns that are left.
      have hrest : columns.map (cellIn (row.drop column)) = columns.map (cellIn row) :=
        List.map_congr_left fun other hother => by
          have hne : other ≠ column := fun heq => hnew (heq ▸ hother)
          rw [cellIn, find?_drop hne, cellIn]
      have hfirst : cellsOf (column :: columns) row =
          cellIn row column :: cellsOf columns (row.drop column) := rfl
      rw [hfirst, ih hcolumns, hrest, List.map_cons]

/-- The columns of a table are different. -/
theorem nodup_columnsOf {listed : List String} (h : listed.Nodup) : (columnsOf listed).Nodup :=
  List.nodup_cons.mpr ⟨by simp, h.filter _⟩

theorem recordOf_cellsOf {columns : List String} {row : EncodedRow} (h : columns.Nodup)
    (hcovered : row.keys ⊆ columns) : RecordOf columns row (cellsOf columns row) := by
  rw [cellsOf_eq_map h]
  refine ⟨List.length_map _, ?_, hcovered⟩
  rw [List.forall₂_map_right_iff, List.forall₂_same]
  exact fun column _ => cellOf_cellIn row column

/-! ## Tables -/

/-- What has been written to a table stays as it is when it is written out. -/
theorem CsvTable.written_release (table : CsvTable) (files : Files) :
    (table.release files).1.columns = table.columns ∧
      (table.release files).1.written = table.written := by
  unfold release
  split
  next => exact ⟨rfl, rfl⟩
  next => exact ⟨rfl, String.append_empty⟩

/-- The tables of a folder that are written out are found as before. -/
theorem find?_releaseAll {tables : Assoc CsvTable} {name : String} {table : CsvTable}
    (h : tables.find? name = some table) (files : Files) :
    ∃ released, (releaseAll tables files).1.find? name = some released ∧
      released.columns = table.columns ∧ released.written = table.written := by
  induction tables generalizing files with
  | nil => cases h
  | cons first rest ih =>
      obtain ⟨key, target⟩ := first
      have hstep : (releaseAll ((key, target) :: rest) files).1 =
          (key, (target.release files).1) ::
            (releaseAll rest (target.release files).2).1 := rfl
      rw [hstep]
      by_cases hkey : key = name
      · simp only [Assoc.find?, hkey, if_true, Option.some.injEq] at h ⊢
        subst h
        exact ⟨_, rfl, target.written_release files⟩
      · simp only [Assoc.find?, hkey, if_false] at h ⊢
        exact ih h _

/-- The folder after the file of a table has been started. -/
theorem CsvFolder.start_eq_ok {name : String} {listed : List String} {folder started : CsvFolder}
    (h : folder.start name listed = .ok started) :
    ∃ table : CsvTable, started.tables = folder.tables.put name table ∧
      table.columns = columnsOf listed ∧ table.written = tableText (columnsOf listed) [] := by
  unfold start at h
  split at h
  next => cases h
  next location files hcreate =>
    injection h with h
    subst h
    refine ⟨{ columns := columnsOf listed, location, pending := recordLine (columnsOf listed) },
      rfl, rfl, ?_⟩
    simp [CsvTable.written, tableText]

/-- Every one of some different tables has its header once their files have been started. -/
theorem startAll_eq_ok {tables : Tables} {folder : CsvFolder} (hnodup : tables.keys.Nodup)
    (h : (startAll tables folder).1 = .ok ()) :
    (∀ name ∉ tables.keys,
      (startAll tables folder).2.tables.find? name = folder.tables.find? name) ∧
    ∀ name listed, tables.find? name = some listed →
      ∃ table, (startAll tables folder).2.tables.find? name = some table ∧
        table.columns = columnsOf listed ∧
          table.written = tableText (columnsOf listed) [] := by
  induction tables generalizing folder with
  | nil => exact ⟨fun _ _ => rfl, nofun⟩
  | cons first rest ih =>
      obtain ⟨key, fields⟩ := first
      obtain ⟨hnew, hrest⟩ := List.nodup_cons.mp hnodup
      cases hstart : folder.start key fields with
      | error refusal =>
          have hstep : startAll ((key, fields) :: rest) folder =
              (.error refusal.error, folder) := by
            unfold startAll
            simp only [hstart]
          rw [hstep] at h
          cases h
      | ok started =>
          have hstep : startAll ((key, fields) :: rest) folder = startAll rest started := by
            conv => lhs; unfold startAll
            simp only [hstart]
          rw [hstep] at h ⊢
          obtain ⟨hothers, hfound⟩ := ih hrest h
          obtain ⟨table, htables, hcolumns, hwritten⟩ := CsvFolder.start_eq_ok hstart
          refine ⟨fun name hname => ?_, fun name listed hlisted => ?_⟩
          · have hne : key ≠ name := fun heq => hname (heq ▸ List.mem_cons_self)
            rw [hothers name fun hmem => hname (List.mem_cons_of_mem _ hmem), htables,
              Assoc.find?_put, if_neg hne]
          · by_cases hkey : key = name
            · subst hkey
              simp only [Assoc.find?, if_true, Option.some.injEq] at hlisted
              subst hlisted
              refine ⟨table, ?_, hcolumns, hwritten⟩
              rw [hothers key hnew, htables, Assoc.find?_put, if_pos rfl]
            · simp only [Assoc.find?, hkey, if_false] at hlisted
              exact hfound name listed hlisted

/-- A folder that has been told its tables holds them without rows. -/
theorem CsvFolder.holds_declared {tables : Tables} {folder : CsvFolder}
    (hnodup : tables.keys.Nodup) (h : (csv.declare tables folder).1 = .ok ()) :
    (csv.declare tables folder).2.Holds tables [] := by
  refine ⟨nofun, ?_⟩
  cases hfolders : folder.files.makeFolders folder.path with
  | error refusal =>
      have hdeclare : csv.declare tables folder = (.error refusal.error, folder) := by
        change declareCsv tables folder = _
        simp only [declareCsv, hfolders]
      rw [hdeclare] at h
      cases h
  | ok files =>
      have hdeclare : csv.declare tables folder = startAll tables { folder with files } := by
        change declareCsv tables folder = _
        simp only [declareCsv, hfolders]
      rw [hdeclare] at h ⊢
      exact (startAll_eq_ok hnodup h).2

/-- A folder that writes out what is kept back holds what it has held. -/
theorem CsvFolder.Holds.release {tables : Tables} {stored : List Storing} {folder : CsvFolder}
    (h : folder.Holds tables stored) : folder.release.Holds tables stored := by
  refine ⟨h.answers, fun name listed hlisted => ?_⟩
  obtain ⟨table, hfound, hcolumns, hwritten⟩ := h.texts name listed hlisted
  obtain ⟨released, hreleased, hsame, htext⟩ := find?_releaseAll hfound folder.files
  exact ⟨released, hreleased, hsame.trans hcolumns, htext.trans hwritten⟩

/-- A row that is stored for one of the tables becomes the last record of that table. -/
theorem CsvFolder.Holds.store {tables : Tables} {stored : List Storing} {folder : CsvFolder}
    (h : folder.Holds tables stored) {table : String} (hlisted : table ∈ tables.keys)
    (row : EncodedRow) :
    (csv.store table row folder).2.Holds tables
      (stored ++ [⟨table, row, (csv.store table row folder).1⟩]) := by
  obtain ⟨fields, hfields⟩ := Assoc.exists_find? hlisted
  obtain ⟨target, htarget, hcolumns, hwritten⟩ := h.texts table fields hfields
  have hstore : csv.store table row folder =
      (.ok (), { folder with
        tables := folder.tables.put table { target with
          pending := target.pending ++ recordLine (cellsOf target.columns row) } }) := by
    change storeCsv table row folder = _
    unfold storeCsv
    rw [htarget]
  rw [hstore]
  refine ⟨fun storing hmem => ?_, fun name listed hname => ?_⟩
  · obtain hmem | hmem := List.mem_append.mp hmem
    · exact h.answers storing hmem
    · obtain rfl := List.mem_singleton.mp hmem
      rfl
  · rw [rowsFor, List.filter_append, List.map_append, Assoc.find?_put]
    by_cases hsame : table = name
    · subst hsame
      obtain rfl : listed = fields := Option.some.inj (hname.symm.trans hfields)
      refine ⟨_, if_pos rfl, hcolumns, ?_⟩
      rw [CsvTable.written, ← String.append_assoc]
      change target.written ++ _ = _
      rw [hwritten, hcolumns]
      simp [tableText, rowsFor, String.append_assoc]
    · obtain ⟨other, hother, hshown⟩ := h.texts name listed hname
      refine ⟨other, by rw [if_neg hsame, hother], ?_⟩
      simpa [hsame, rowsFor] using hshown

end Sink

variable {σ : Type} {recipe : Recipe}

/-- A folder holds the tables of a recipe through a run. -/
theorem Sink.csv_upholds : Sink.csv.Upholds recipe fun stored folder =>
    folder.Holds recipe.tables stored where
  store := fun {_ _ making table row} hholds hrecords => by
    have htable : table = making.template.table := hrecords.table
    exact hholds.store (htable ▸ hrecords.part.table_mem) row
  setCounter := fun _ hholds => ⟨hholds.answers, hholds.texts⟩
  flush := fun hholds => hholds.release
  commit := fun hholds => hholds

/-- Every name of a row that is stored for a table has a column. -/
theorem Storing.Says.covered {sink : Sink σ} {making : Making} {storing : Storing}
    (h : storing.Says recipe sink making) {listed : List String}
    (hlisted : recipe.tables.find? storing.table = some listed) :
    storing.row.keys ⊆ Sink.columnsOf listed := by
  intro name hname
  by_cases hid : name = "id"
  · exact hid ▸ List.mem_cons_self
  · obtain ⟨others, hothers, hmem⟩ := h.listed name hname hid
    obtain rfl : listed = others := Option.some.inj (hlisted.symm.trans hothers)
    exact List.mem_cons_of_mem _ (List.mem_filter.mpr ⟨hmem, by simpa using hid⟩)

namespace Recipe

/-- A folder whose files can be made refuses no row. The text of every table of the recipe reads as
a header, with the `id` and the fields that are listed, and one record for every row that has been
stored for the table, in order. A record has a cell for every column, which shows what the row has
under it, and no name of the row is without a column. -/
theorem tables_written (recipe : Recipe) (request : Request) {out : Sink.CsvFolder}
    (h : (Sink.csv.declare recipe.tables out).1 = .ok ()) :
    recipe.generate request Sink.csv out = ((recipe.account request Sink.csv out).1,
      (recipe.account request Sink.csv out).2.out.out) ∧
    (∀ storing ∈ (recipe.account request Sink.csv out).2.out.stored, storing.answer = .ok ()) ∧
    ((recipe.account request Sink.csv out).2.out.declared ≠ [] →
      ∀ name listed, recipe.tables.find? name = some listed → ∃ table records,
        (recipe.account request Sink.csv out).2.out.out.tables.find? name = some table ∧
        table.columns = "id" :: listed.filter (· ≠ "id") ∧
        Csv.records? table.written = some (table.columns :: records) ∧
        List.Forall₂ (Sink.RecordOf table.columns)
          (Sink.rowsFor name (recipe.account request Sink.csv out).2.out.stored) records) := by
  have husual : Sink.csv.Usual := rfl
  refine ⟨generate_eq_account recipe request husual out, ?_⟩
  cases hmerged : mergeOptions recipe.options request.options with
  | error error =>
      rw [account, carryOut_eq_fail hmerged]
      exact ⟨List.forall_mem_nil _, fun hne => absurd rfl hne⟩
  | ok merged =>
      have hhalted := account_halted out Sink.csv_upholds hmerged
        (Sink.CsvFolder.holds_declared recipe.tables_tidy.nodup h)
      generalize (recipe.account request Sink.csv out).2.out = account at hhalted ⊢
      obtain ⟨answers, texts⟩ := hhalted.holds
      refine ⟨answers, fun _ name listed hlisted => ?_⟩
      obtain ⟨table, hfound, hcolumns, hwritten⟩ := texts name listed hlisted
      refine ⟨table, (Sink.rowsFor name account.stored).map (Sink.cellsOf table.columns), hfound,
        hcolumns, ?_, ?_⟩
      · rw [hwritten, hcolumns]
        exact Csv.records?_recordLines
          (List.forall_mem_cons.mpr ⟨List.cons_ne_nil _ _, by simp [Sink.columnsOf, Sink.cellsOf]⟩)
      · have hnodup : (Sink.columnsOf listed).Nodup :=
          Sink.nodup_columnsOf (recipe.tables_tidy.fields _ (Assoc.mem_of_find? hlisted))
        rw [hcolumns, List.forall₂_map_right_iff, List.forall₂_same]
        intro row hrow
        obtain ⟨storing, hstoring, rfl⟩ := List.mem_map.mp hrow
        obtain ⟨hstored, hname⟩ := List.mem_filter.mp hstoring
        obtain rfl : storing.table = name := by simpa using hname
        obtain ⟨making, -, hshown⟩ := hhalted.says hstored
        exact Sink.recordOf_cellsOf hnodup (hshown.covered hlisted)

theorem tables_written_nested :
    ∃ table records, (nested.account once Sink.csv { path := "out" }).2.out.out.tables.find? "A" =
        some table ∧
      Csv.records? table.written = some (["id", "part"] :: records) ∧ records.length = 6 := by
  have hsucceeds : (Sink.csv.declare nested.tables { path := "out" }).1.isOk = true := by
    decide +kernel
  obtain ⟨_, hdeclared⟩ := Gives.exists_of_isOk hsucceeds
  have hlisted : nested.tables.find? "A" = some ["part"] := by decide +kernel
  have htold : (nested.account once Sink.csv { path := "out" }).2.out.declared ≠ [] := by
    decide +kernel
  have hrows : (Sink.rowsFor "A"
      (nested.account once Sink.csv { path := "out" }).2.out.stored).length = 6 := by
    decide +kernel
  obtain ⟨-, -, hwritten⟩ := tables_written nested once hdeclared
  obtain ⟨table, records, hfound, hcolumns, hrecords, hrowsOf⟩ := hwritten htold "A" _ hlisted
  exact ⟨table, records, hfound, hcolumns ▸ hrecords, hrowsOf.length_eq ▸ hrows⟩

end Recipe

end RecordRecipe
