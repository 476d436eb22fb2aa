import RecordRecipe.Files
import RecordRecipe.Recipe.Declaration

/-!
# Included files

The declarations of a recipe are those of the files that it includes, in the order in which it
includes them, and then its own. A file may be included more than once, but not while it is being
read itself. No chain of files is therefore longer than there are files, which bounds the search.
-/

namespace RecordRecipe

open Yaml (Node)

/-- The declarations of a recipe and of the files that it includes. -/
structure Declarations where
  options : List OptionDeclaration := []
  /-- The groups of fields; the last one of a name counts. -/
  groups : Assoc Declaration := []
  templates : List Declaration := []

namespace Declarations

/-- Read a text as a document. -/
def readDocument (file text : String) : Except Error (Option Node) :=
  match Node.ofText text with
  | .ok root => .ok root
  | .error fault => .error ((RecipeFault.unreadable fault.reason).errorAt file fault.line)

/-- The top-level declarations of a document with their kinds. -/
def classifyAll (file : String) (root : Option Node) :
    Except Error (List (DeclarationKind × Node)) :=
  match root.bind Node.items? with
  | none => .error (RecipeFault.notAList.errorAt file ((root.bind Node.line?).getD 1))
  | some items => items.mapM fun node => do return (← Declaration.classify file node, node)

/-- Add a declaration, unless it is one of a file to include. -/
def add (file : String) (declarations : Declarations) (declared : DeclarationKind × Node) :
    Except Error Declarations := do
  let (kind, node) := declared
  match kind with
  | .option =>
      let option ← Declaration.readOption file node
      return { declarations with options := declarations.options ++ [option] }
  | .group =>
      let name := (← Declaration.textUnder file node "macro").getD ""
      return { declarations with groups := declarations.groups.put name ⟨file, node⟩ }
  | .template => return { declarations with templates := declarations.templates ++ [⟨file, node⟩] }
  | .inclusion => return declarations

/-- A file to be included. -/
structure Included where
  path : String
  location : Location
  root : Option Node

/-- Open the file that a declaration includes; the locations on the way to it are not to be met
again. -/
def openIncluded (fs : Files) (path : List Location) (file : String) (node : Node) :
    Except Error Included := do
  Declaration.checkKeys file .inclusion node
  let line := node.lineOr 1
  let relative := (← Declaration.textUnder file node "include_file").getD ""
  if Path.isAbsolute relative then
    throw ((RecipeFault.absoluteInclude relative).errorAt file line)
  let target := Path.join (Path.parent file) relative
  match fs.read target with
  | .error refusal =>
      throw ((RecipeFault.missingInclude target refusal.text).errorAt file line)
  | .ok (location, text) =>
      if path.contains location then
        throw ((RecipeFault.recursiveInclude target).errorAt file line)
      return { path := target, location, root := ← readDocument target text }

/-- Collect the declarations of a document and of the files that it includes, as the given depth
allows, and add them to others. -/
def collect (fs : Files) : Nat → List Location → String → Option Node → Declarations →
    Except Error Declarations
  | 0, _, file, _, _ => .error (RecipeFault.recursiveInclude file).error
  | depth + 1, path, file, root, found => do
      let declared ← classifyAll file root
      let included := declared.filter fun declaration => declaration.1 = .inclusion
      let found ← included.foldlM
        (fun found declaration => do
          let included ← openIncluded fs path file declaration.2
          collect fs depth (included.location :: path) included.path included.root found)
        found
      declared.foldlM (add file) found

/-- The declarations of a recipe in a text; the location is that of the text if it is a file. -/
def ofText (fs : Files) (location : Option Location) (file text : String) :
    Except Error Declarations := do
  let root ← readDocument file text
  collect fs (fs.files.length + 1) location.toList file root {}

end Declarations

end RecordRecipe
