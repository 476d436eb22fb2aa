import RecordRecipe.Text.Blank

/-!
# Paths

A path is a text whose parts stand between slashes. Paths keep the form in which they are written
or joined; only a look-up follows them part by part.
-/

namespace RecordRecipe.Path

/-- The parts of a path between its slashes. -/
def parts (path : String) : List String :=
  (Text.splitWhere (· = '/') path.toList).map String.ofList

/-- A path that starts at the root. -/
def isAbsolute (path : String) : Bool :=
  "/".toList.isPrefixOf path.toList

/-- Take slashes, and slashes with a dot behind them, off the end of reversed characters. -/
def trimReversed : List Char → List Char
  | ['/'] => ['/']
  | '/' :: rest => trimReversed rest
  | '.' :: '/' :: rest => trimReversed ('/' :: rest)
  | text => text

/-- The path without its last part. A path without parts has an empty parent. -/
def parent (path : String) : String :=
  let whole := trimReversed path.toList.reverse
  if whole = ['/'] then ""
  else String.ofList (trimReversed (whole.dropWhile (· ≠ '/'))).reverse

/-- A path relative to a base. -/
def join (base path : String) : String :=
  if isAbsolute path || base = "" then path
  else if base.toList.getLast? = some '/' then base ++ path
  else base ++ "/" ++ path

end RecordRecipe.Path
