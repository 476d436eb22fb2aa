import RecordRecipe.Files.Path
import RecordRecipe.Files.Refusal

/-!
# A file system

The files and folders below the working directory. A look-up follows a path part by part, so that
`..` leads to the folder that contains the one reached so far. Of what lies around the working
directory only the folders are known that lead to it; everything else there is missing. Every file
has exactly one location, the parts of its path from the working directory on, and two paths name
one file exactly when they lead to one location.
-/

namespace RecordRecipe

/-- The parts of a path from the working directory on, without dots. -/
abbrev Location := List String

/-- Files with their contents, and the folders that were made for their own sake. -/
structure Files where
  files : List (Location × String) := []
  folders : List Location := []

namespace Files

/-- What a path has led to: a location below the working directory, or a folder around it. -/
inductive Reached where
  | below (location : Location)
  | around
deriving DecidableEq, Repr

/-- What an absolute or a relative path starts from. -/
def Reached.startOf (path : String) : Reached :=
  if Path.isAbsolute path then .around else .below []

/-- The folder that contains what is reached. -/
def Reached.parent : Reached → Reached
  | below [] | around => around
  | below location => below location.dropLast

/-- Go from a folder to the entry of a name. The entry need not exist below the working directory.
-/
def Reached.enter (name : String) : Reached → Except Refusal Reached
  | around => .error .missing
  | below here =>
      if Path.partLimit < name.utf8ByteSize then .error .nameTooLong
      else .ok (below (here ++ [name]))

/-- The contents of the file at a location. -/
def contents? (fs : Files) (location : Location) : Option String :=
  (fs.files.find? fun file => file.1 = location).map Prod.snd

/-- Is there a folder at a location: the working directory, a folder that was made, or one that
holds a file? -/
def isFolder (fs : Files) (location : Location) : Bool :=
  location = [] || fs.folders.any (fun folder => location.isPrefixOf folder) ||
    fs.files.any fun file => location.isPrefixOf file.1 && location.length < file.1.length

/-- Why what is reached cannot be gone through, if it cannot. -/
def blocked? (fs : Files) : Reached → Option Refusal
  | .around => none
  | .below location =>
      if fs.isFolder location then none
      else some (if (fs.contents? location).isSome then .notAFolder else .missing)

/-- Follow the parts of a path. The last part need not exist. A file cannot be made under a name
with a slash behind it, since that would be the name of a folder. -/
def follow (fs : Files) (making : Bool) (reached : Reached) : List String → Except Refusal Reached
  | [] => .ok reached
  | part :: rest =>
      match fs.blocked? reached with
      | some refusal => .error refusal
      | none =>
          if part = "" ∨ part = "." then follow fs making reached rest
          else if part = ".." then follow fs making reached.parent rest
          else if making ∧ rest ≠ [] ∧ rest.all (· = "") then .error .isAFolder
          else do follow fs making (← reached.enter part) rest

/-- What a path leads to. -/
def locate (fs : Files) (making : Bool) (path : String) : Except Refusal Reached :=
  match Path.malformed? path with
  | some refusal => .error refusal
  | none => fs.follow making (.startOf path) (Path.parts path)

/-- Read the file that a path leads to; the location tells which file it was. -/
def read (fs : Files) (path : String) : Except Refusal (Location × String) :=
  match fs.locate false path with
  | .error refusal => .error refusal
  | .ok .around => .error .isAFolder
  | .ok (.below location) =>
      match fs.contents? location with
      | some contents => .ok (location, contents)
      | none => .error (if fs.isFolder location then .isAFolder else .missing)

/-- Set the contents of the file at a location. -/
def put (fs : Files) (location : Location) (contents : String) : Files :=
  if (fs.contents? location).isSome then
    { fs with
      files := fs.files.map fun file => if file.1 = location then (location, contents) else file }
  else { fs with files := fs.files ++ [(location, contents)] }

/-- Make an empty file at a path, or empty the one that is there. -/
def create (fs : Files) (path : String) : Except Refusal (Location × Files) :=
  match fs.locate true path with
  | .error refusal => .error refusal
  | .ok .around => .error .isAFolder
  | .ok (.below location) =>
      if fs.isFolder location then .error .isAFolder else .ok (location, fs.put location "")

/-- Make the folder at a location whose parent is there. -/
def makeFolder (fs : Files) (location : Location) : Files :=
  if fs.isFolder location then fs else { fs with folders := fs.folders ++ [location] }

/-- Go down a path and make the folders that are missing. -/
def makeFoldersFrom (fs : Files) (reached : Reached) : List String → Except Refusal Files
  | [] => .ok fs
  | part :: rest =>
      if part = "" ∨ part = "." then makeFoldersFrom fs reached rest
      else if part = ".." then makeFoldersFrom fs reached.parent rest
      else
        match reached.enter part with
        | .error refusal => .error refusal
        | .ok .around => makeFoldersFrom fs .around rest
        | .ok (.below next) =>
            if (fs.contents? next).isSome then
              .error (if rest.all (· = "") then .fileExists else .notAFolder)
            else makeFoldersFrom (fs.makeFolder next) (.below next) rest

/-- Make the folder at a path and every folder that leads to it. An empty path asks for nothing. -/
def makeFolders (fs : Files) (path : String) : Except Refusal Files :=
  if path = "" then .ok fs
  else match Path.malformed? path with
    | some refusal => .error refusal
    | none => fs.makeFoldersFrom (.startOf path) (Path.parts path)

/-- Write a file at a path and make the folders that lead to it. -/
def write (fs : Files) (path contents : String) : Except Refusal Files := do
  let fs ← fs.makeFolders (Path.parent path)
  let (location, fs) ← fs.create path
  return fs.put location contents

/-- Write text over the contents of a file from an offset on; a gap is filled with zero
characters. -/
def overwrite (fs : Files) (location : Location) (offset : Nat) (text : String) : Files :=
  let old := ((fs.contents? location).getD "").toList
  let front := old.take offset
  let gap := List.replicate (offset - old.length) '\x00'
  let tail := old.drop (offset + text.length)
  fs.put location (String.ofList (front ++ gap ++ text.toList ++ tail))

end Files

end RecordRecipe
