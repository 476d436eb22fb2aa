import RecordRecipe.Command.Arguments
import RecordRecipe.Recipe.Source
import RecordRecipe.Run.Generate
import RecordRecipe.Sink.Csv
import RecordRecipe.Sink.Dot
import RecordRecipe.Sink.Json
import RecordRecipe.Sink.Lines

/-!
# The command

The command reads a recipe from the file system and writes its rows to a file, a folder, or the
standard output. The output is opened before the recipe is read, and what has been written stays
when something goes wrong afterwards. The whole command is a function from its words and the files
to its outcome.
-/

namespace RecordRecipe.Command

open Calendar (Date)
open RecordRecipe.Random (Generator)

/-- What is given to the command by its surroundings. -/
structure Surroundings where
  files : Files
  today : Date
  /-- The seed that is taken when none is asked for. -/
  freshSeed : UInt64

/-- What the command leaves behind. -/
structure Outcome where
  exit : Nat
  standardOutput : String := ""
  standardError : String := ""
  files : Files

/-- What the command writes to. -/
inductive Destination where
  | standardOutput
  | file (location : Location)

/-- The files and texts that a command has written, with the summary or the error. -/
structure Written where
  result : Except Error Summary
  standardOutput : String := ""
  files : Files

/-- What is asked of the run. -/
def Arguments.request (arguments : Arguments) (surroundings : Surroundings) : Request where
  batches := arguments.count
  options := Assoc.ofList arguments.options
  today := surroundings.today
  generator := .ofSeed ((arguments.seed.map UInt64.ofNat).getD surroundings.freshSeed)

/-- Read the recipe, make its rows and close the sink. -/
def generateAndClose {σ : Type} (arguments : Arguments) (surroundings : Surroundings)
    (files : Files) (sink : Sink σ) : Action σ Summary := do
  let summary ←
    Recipe.generateFile files arguments.recipe (arguments.request surroundings) sink
  sink.close
  return summary

/-- Write the text of a sink to its destination. -/
def Destination.put (result : Except Error Summary) (text : String) (files : Files) :
    Destination → Written
  | standardOutput => { result, standardOutput := text, files }
  | file location => { result, files := files.put location text }

/-- Write rows as text. -/
def writeText {σ : Type} (arguments : Arguments) (surroundings : Surroundings) (files : Files)
    (destination : Destination) (sink : Sink σ) (start : σ) (text : σ → String) : Written :=
  let (result, state) := generateAndClose arguments surroundings files sink start
  destination.put result (text state) files

/-- Write rows to a folder. -/
def writeFolder (arguments : Arguments) (surroundings : Surroundings) (path : String) :
    Written :=
  let start : Sink.CsvFolder :=
    { path, files := surroundings.files, batch := arguments.batchCounter }
  let (result, state) :=
    generateAndClose arguments surroundings surroundings.files Sink.csv start
  { result, files := state.release.files }

/-- Write rows as text in the format that is asked for. -/
def writeFormat (arguments : Arguments) (surroundings : Surroundings) (files : Files)
    (destination : Destination) : Written :=
  match arguments.format with
  | .json =>
      writeText arguments surroundings files destination Sink.json
        { batch := arguments.batchCounter } Sink.JsonArray.text
  | .dot =>
      writeText arguments surroundings files destination Sink.dot {} Sink.Drawing.text
  | .lines | .csv =>
      writeText arguments surroundings files destination Sink.lines "" id

/-- The error of a folder that is not named. -/
def noFolder : Error :=
  .general "csv output needs `--output-file` naming a directory"

/-- Open the output and write the rows. -/
def write (arguments : Arguments) (surroundings : Surroundings) : Written :=
  match arguments.format, arguments.outputFile with
  | .csv, none => { result := .error noFolder, files := surroundings.files }
  | .csv, some path => writeFolder arguments surroundings path
  | _, none => writeFormat arguments surroundings surroundings.files .standardOutput
  | _, some path =>
      match surroundings.files.create path with
      | .error refusal => { result := .error refusal.error, files := surroundings.files }
      | .ok (location, files) => writeFormat arguments surroundings files (.file location)

/-- Write the load mapping of a run if a file is named for it. -/
def writeMapping (arguments : Arguments) (summary : Summary) (files : Files) :
    Except Error Files :=
  match arguments.mappingFile with
  | none => .ok files
  | some path =>
      match files.create path with
      | .error refusal => .error refusal.error
      | .ok (location, files) =>
          .ok (files.put location (Mapping.toDocument (Mapping.ofSummary summary)).write)

/-- The text that tells an error. -/
def Arguments.report (arguments : Arguments) (error : Error) : String :=
  (if arguments.debugInternals then "" else "error: ") ++ error.text ++ "\n"

/-- The text that tells the summary of a run, if it is asked for. -/
def Arguments.summaryText (arguments : Arguments) (summary : Summary) : String :=
  if arguments.debugInternals then summary.toDocument.write ++ "\n" else ""

/-- Carry out the command with its arguments. -/
def Arguments.carryOut (arguments : Arguments) (surroundings : Surroundings) : Outcome :=
  let written := write arguments surroundings
  let failed (error : Error) : Outcome :=
    { exit := 1, standardOutput := written.standardOutput,
      standardError := arguments.report error, files := written.files }
  match written.result with
  | .error error => failed error
  | .ok summary =>
      match writeMapping arguments summary written.files with
      | .error error => failed error
      | .ok files =>
          { exit := 0, standardOutput := written.standardOutput,
            standardError := arguments.summaryText summary, files }

/-- How the command is to be used. -/
def usage : String :=
  "usage: recipe [--count N] [--option NAME VALUE]... [--output-format txt|json|csv|dot]\n" ++
  "              [--output-file PATH] [--seed N] [--flush-every N] [--commit-every N]\n" ++
  "              [--mapping-file PATH] [--debug-internals] [--verbose] [--no-color] RECIPE\n"

/-- Carry out the command with the words behind it. -/
def run (words : List String) (surroundings : Surroundings) : Outcome :=
  match Arguments.ofWords? words with
  | some arguments => arguments.carryOut surroundings
  | none => { exit := 2, standardError := usage, files := surroundings.files }

end RecordRecipe.Command
