import RecordRecipe.Command.Outcome
import Std.Time.Format

/-!
# The program

Reads the files below the working directory, today's date and a fresh seed, lets the command work
on them, and writes what has changed. The command itself is a function; all effects are here.
-/

namespace RecordRecipe.Program

open Calendar (Date)

/-- The path of a location from the working directory. -/
def pathOf (location : Location) : String := "/".intercalate ("." :: location)

/-- Take in the entries of a folder, and read those whose contents are text. -/
partial def readFolder (location : Location) (entries : Array IO.FS.DirEntry) (files : Files) :
    IO Files := do
  let mut files : Files := { files with folders := files.folders ++ [location] }
  for entry in entries do
    let inner := location ++ [entry.fileName]
    if ← entry.path.isDir then
      files ← readFolder inner (← entry.path.readDir) files
    else if let some text := String.fromUTF8? (← IO.FS.readBinFile entry.path) then
      files := files.put inner text
  return files

/-- Today's date. -/
def readToday : IO Date := do
  let today ← Std.Time.PlainDate.now
  let found := Date.of? today.year.toInt today.month.toNat today.day.toNat
  return found.getD Date.epoch

/-- A seed that differs from run to run. -/
def readSeed : IO UInt64 := do
  let bytes ← IO.getRandomBytes 8
  return bytes.toList.foldl (fun seed byte => seed * 256 + byte.toUInt64) 0

/-- Write the files and folders that are new or have changed. -/
def writeFiles (before after : Files) : IO Unit := do
  for folder in after.folders do
    unless before.isFolder folder do
      IO.FS.createDirAll (pathOf folder)
  for file in after.files do
    unless before.contents? file.1 = some file.2 do
      IO.FS.writeFile (pathOf file.1) file.2

end RecordRecipe.Program

open RecordRecipe RecordRecipe.Program in
/-- Carries out the command. -/
def main (words : List String) : IO UInt32 := do
  let here ← IO.currentDir
  let files ← readFolder [] (← here.readDir) {}
  let outcome := Command.run words { files, today := ← readToday, freshSeed := ← readSeed }
  writeFiles files outcome.files
  IO.print outcome.standardOutput
  IO.eprint outcome.standardError
  return UInt32.ofNat outcome.exit
