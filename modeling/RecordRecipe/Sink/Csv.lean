import RecordRecipe.Sink.Basic
import RecordRecipe.Files
import RecordRecipe.Text.Json

/-!
# Rows as files of comma-separated values

One file per table in a folder, with a header, and a file that describes them all. The columns of a
table are the id and its declared fields; the cell of a column that a row lacks is empty. What is
written to a table is kept back until the next flush.
-/

namespace RecordRecipe

namespace Sink

/-- Must a cell stand in quotes? -/
def needsQuotes (cell : String) : Bool :=
  cell.toList.any fun c => c = ',' || c = '\x22' || c = '\n' || c = '\r'

/-- A cell as it is written; in quotes a quote is written twice. -/
def cellText (cell : String) : String :=
  if needsQuotes cell then
    "\"" ++ String.ofList
      (cell.toList.flatMap fun c => if c = '\x22' then ['\x22', '\x22'] else [c]) ++ "\""
  else cell

/-- A record on a line of its own. A single empty cell is written as two quotes, so that the line
is not empty. -/
def recordLine (cells : List String) : String :=
  if cells = [""] then "\"\"\n" else Text.joinWith "," (cells.map cellText) ++ "\n"

/-- The cells of a row under some columns. A column that occurs again finds its value taken. -/
def cellsOf : List String → EncodedRow → List String
  | [], _ => []
  | column :: rest, row =>
      let cell := match row.find? column with
        | none | some .null => ""
        | some value => value.display
      cell :: cellsOf rest (row.drop column)

/-- A table's file: what has been written out to it and what is kept back. -/
structure CsvTable where
  columns : List String
  location : Location
  released : String := ""
  pending : String := ""

/-- The state of the folder and its tables. -/
structure CsvFolder where
  path : String
  files : Files := {}
  tables : Assoc CsvTable := []
  batch : BatchCounter := {}

/-- Write out what a table keeps back. -/
def CsvTable.release (table : CsvTable) (files : Files) : CsvTable × Files :=
  if table.pending = "" then (table, files)
  else ({ table with released := table.released ++ table.pending, pending := "" },
    files.overwrite table.location table.released.length table.pending)

/-- Write out what some tables keep back. -/
def releaseAll : Assoc CsvTable → Files → Assoc CsvTable × Files
  | [], files => ([], files)
  | (name, table) :: rest, files =>
      let (table, files) := table.release files
      let (others, files) := releaseAll rest files
      ((name, table) :: others, files)

/-- Write out everything that is kept back. -/
def CsvFolder.release (state : CsvFolder) : CsvFolder :=
  let (tables, files) := releaseAll state.tables state.files
  { state with tables := tables, files := files }

/-- The columns of a table: the id first, then the fields. -/
def columnsOf (fields : List String) : List String :=
  "id" :: fields.filter (· ≠ "id")

/-- Start the file of a table. A table of that name that was started before is finished. -/
def CsvFolder.start (name : String) (fields : List String) (state : CsvFolder) :
    Except Refusal CsvFolder :=
  match state.files.create (Path.join state.path (name ++ ".csv")) with
  | .error refusal => .error refusal
  | .ok (location, files) =>
      let columns := columnsOf fields
      let files := match state.tables.find? name with
        | some old => (old.release files).2
        | none => files
      let table : CsvTable :=
        { columns := columns, location := location, pending := recordLine columns }
      .ok { state with files := files, tables := state.tables.put name table }

/-- Start the files of some tables, up to the first refusal. -/
def startAll : Tables → Action CsvFolder Unit
  | [] => Action.done ()
  | (name, fields) :: rest => fun state =>
      match state.start name fields with
      | .error refusal => (.error refusal.error, state)
      | .ok state => startAll rest state

/-- Make the folder and start the file of every table. -/
def declareCsv (tables : Tables) : Action CsvFolder Unit := fun state =>
  match state.files.makeFolders state.path with
  | .error refusal => (.error refusal.error, state)
  | .ok files => startAll tables { state with files := files }

/-- Add a row to its table. -/
def storeCsv (table : String) (row : EncodedRow) : Action CsvFolder Unit := fun state =>
  match state.tables.find? table with
  | none =>
      (.error (.general ("table `" ++ table ++ "` was not declared to the csv output")), state)
  | some target =>
      let line := recordLine (cellsOf target.columns row)
      let target := { target with pending := target.pending ++ line }
      (.ok (), { state with tables := state.tables.put table target })

/-- The description of a column. -/
def columnEntry (column : String) : JsonValue :=
  .object [("name", .string column), ("titles", .string column)]

/-- The description of a table's file. -/
def tableEntry (table : String × CsvTable) : JsonValue :=
  .object [("url", .string (table.1 ++ ".csv")),
    ("tableSchema", .object [("columns", .array (table.2.columns.map columnEntry))])]

/-- The description of all files. -/
def CsvFolder.metadata (state : CsvFolder) : JsonValue :=
  .object [("@context", .string "http://www.w3.org/ns/csvw"),
    ("tables", .array (state.tables.map tableEntry))]

/-- Write out everything and describe it. -/
def closeCsv : Action CsvFolder Unit := fun state =>
  let state := state.release
  match state.files.create (Path.join state.path "csvw_metadata.json") with
  | .error refusal => (.error refusal.error, state)
  | .ok (location, files) =>
      (.ok (), { state with files := files.put location (state.metadata.pretty 0) })

/-- Writes a folder of tables. -/
def csv : Sink CsvFolder where
  name := "csv"
  encoders := .flat
  declare := declareCsv
  counter? := fun state => some state.batch
  setCounter := fun batch state => { state with batch := batch }
  store := storeCsv
  flush := Action.modify CsvFolder.release
  close := closeCsv

end Sink

end RecordRecipe
