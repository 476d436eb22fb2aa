import RecordRecipe.Options

/-!
# The loading order of tables

Tables are loaded after the tables that they reference. In every round all tables whose references
lead to tables that are already placed are placed in their given order. When only tables that are
caught in, or wait for, a cycle of references remain, the alphabetically first of them is placed and
the rounds go on. A reference of a table to itself does not constrain the order.
-/

namespace RecordRecipe

/-- A field of one table that references a row of another. -/
structure Dependency where
  source : String
  target : String
  field : String
deriving DecidableEq, Repr

namespace Dependency

/-- The order by source, then target, then field. -/
def before (a b : Dependency) : Bool :=
  if a.source ≠ b.source then decide (a.source < b.source)
  else if a.target ≠ b.target then decide (a.target < b.target)
  else decide (a.field < b.field)

/-- Put a dependency into a sorted list without repetitions. -/
def insert (item : Dependency) : List Dependency → List Dependency
  | [] => [item]
  | other :: rest =>
      if item = other then other :: rest
      else if item.before other then item :: other :: rest
      else other :: insert item rest

end Dependency

namespace Mapping

/-- A list without repetitions, every item at its first place. -/
def distinct : List String → List String
  | [] => []
  | item :: rest => item :: (distinct rest).filter (· ≠ item)

/-- Does a table wait for no other remaining table? -/
def isFree (dependencies : List Dependency) (remaining : List String) (table : String) : Bool :=
  dependencies.all fun d => d.source ≠ table || d.target = table || !remaining.contains d.target

/-- The alphabetically first of a table and some others. -/
def least (table : String) (others : List String) : String :=
  others.foldl (fun best other => if other < best then other else best) table

/-- The tables to be placed next: all free ones, or else the alphabetically first. -/
def round (dependencies : List Dependency) (remaining : List String) : List String :=
  match remaining.filter (isFree dependencies remaining), remaining with
  | [], [] => []
  | [], table :: rest => [least table rest]
  | free, _ => free

/-- Place tables round by round; every round places at least one. -/
def placeAll (dependencies : List Dependency) : Nat → List String → List String
  | 0, _ => []
  | _ + 1, [] => []
  | fuel + 1, remaining =>
      let placed := round dependencies remaining
      placed ++ placeAll dependencies fuel (remaining.filter fun table => !placed.contains table)

/-- The tables in loading order, each once. -/
def sortTables (dependencies : List Dependency) (tables : List String) : List String :=
  let remaining := distinct tables
  placeAll dependencies remaining.length remaining

end Mapping

end RecordRecipe
