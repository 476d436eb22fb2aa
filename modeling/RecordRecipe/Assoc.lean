/-!
# Insertion-ordered maps keyed by text

An `Assoc` keeps its entries in the order in which their names were first put. Putting a name
again changes its value and not its place. The two laws that the rest of the library leans on are
`find?_put` (the last write wins) and `keys_put_of_mem` (a known name keeps its place).
-/

namespace RecordRecipe

/-- Named values in the order in which the names first appeared. -/
abbrev Assoc (α : Type) := List (String × α)

namespace Assoc

variable {α : Type}

/-- The value under a name. -/
def find? (name : String) : Assoc α → Option α
  | [] => none
  | (key, value) :: rest => if key = name then some value else find? name rest

/-- Set the value under a name, in place when the name is known and last when it is new. -/
def put (name : String) (value : α) : Assoc α → Assoc α
  | [] => [(name, value)]
  | (key, old) :: rest =>
      if key = name then (key, value) :: rest else (key, old) :: put name value rest

/-- Take the entry of a name out; the others keep their order. -/
def drop (name : String) (entries : Assoc α) : Assoc α :=
  entries.filter fun entry => entry.1 != name

/-- The names in order. -/
def keys (entries : Assoc α) : List String :=
  entries.map Prod.fst

/-- The values in order. -/
def values (entries : Assoc α) : List α :=
  entries.map Prod.snd

/-- Put every entry of a list, from left to right. -/
def putAll (entries : List (String × α)) (base : Assoc α) : Assoc α :=
  entries.foldl (fun map entry => put entry.1 entry.2 map) base

/-- The map of a list of pairs: a repeated name keeps its first place and takes its last value. -/
def ofList (entries : List (String × α)) : Assoc α :=
  putAll entries []

theorem find?_put (name other : String) (value : α) (entries : Assoc α) :
    find? other (put name value entries) =
      if name = other then some value else find? other entries := by
  induction entries with
  | nil => simp [put, find?]
  | cons entry rest ih =>
    obtain ⟨key, old⟩ := entry
    by_cases hkey : key = name
    · subst hkey
      by_cases hother : key = other <;> simp [put, find?, hother]
    · by_cases hother : key = other
      · subst hother
        simp [put, find?, hkey, Ne.symm hkey]
      · simp [put, find?, hkey, hother, ih]

theorem keys_put_of_mem {name : String} {value : α} {entries : Assoc α}
    (known : name ∈ keys entries) : keys (put name value entries) = keys entries := by
  induction entries with
  | nil => simp [keys] at known
  | cons entry rest ih =>
    obtain ⟨key, old⟩ := entry
    by_cases hkey : key = name
    · simp [put, keys, hkey]
    · have hrest : name ∈ keys rest := by
        simpa [keys, Ne.symm hkey, eq_comm] using known
      simpa [put, keys, hkey] using ih hrest

end Assoc

end RecordRecipe
