import Mathlib.Data.List.Nodup
import RecordRecipe.Proofs.Result
import RecordRecipe.Recipe.Inclusion

/-!
# Opening included files

`Opened` says what is known of a file that has been opened for a declaration. On the way to a file
every file is met once, so no way is longer than there are files (`Way.length_le`). This is why the
bound on the search for declarations is never reached.
-/

namespace RecordRecipe.Declarations

open Yaml (Node)

variable {fs : Files} {path : List Location} {file : String} {node : Node} {included : Included}

/-- What is read is one of the files. -/
theorem mem_files_of_read {target : String} {location : Location} {text : String}
    (h : fs.read target = .ok (location, text)) : location ∈ fs.files.map Prod.fst := by
  unfold Files.read at h
  split at h
  next => cases h
  next => cases h
  next found _ =>
    split at h
    next contents hcontents =>
      obtain ⟨rfl, rfl⟩ := Prod.mk.inj (Except.ok.inj h)
      obtain ⟨file, hfile, -⟩ := Option.map_eq_some_iff.mp hcontents
      have hlocation : file.1 = found := by simpa using List.find?_some hfile
      exact hlocation ▸ List.mem_map_of_mem (List.mem_of_find?_eq_some hfile)
    next => cases h

/-- The file that has been opened for a declaration. -/
structure Opened (fs : Files) (path : List Location) (file : String) (node : Node)
    (included : Included) : Prop where
  /-- The declaration names it, as seen from the file that it stands in. -/
  named : ∃ relative, Declaration.textUnder file node "include_file" = .ok relative ∧
    included.path = Path.join (Path.parent file) (relative.getD "")
  /-- It is none of the files on the way to the declaration. -/
  fresh : included.location ∉ path
  /-- It is there, and its text is a document. -/
  read : ∃ text, fs.read included.path = .ok (included.location, text) ∧
    readDocument included.path text = .ok included.root

theorem openIncluded_gives :
    Gives (Opened fs path file node) (openIncluded fs path file node) := by
  refine Gives.of_ok fun included h => ?_
  obtain ⟨-, -, h⟩ := bind_eq_ok h
  obtain ⟨relative, hrelative, h⟩ := bind_eq_ok h
  dsimp only at h
  split at h
  next => cases h
  next =>
    split at h
    next => cases h
    next location text hread =>
      split at h
      next => cases h
      next hnew =>
        obtain ⟨root, hroot, h⟩ := bind_eq_ok h
        cases h
        exact ⟨⟨relative, hrelative, rfl⟩, by simpa using hnew, text, hread, hroot⟩

/-- The locations on the way to a declaration are those of files, and none is met again. -/
structure Way (fs : Files) (path : List Location) : Prop where
  nodup : path.Nodup
  files : path ⊆ fs.files.map Prod.fst

namespace Way

/-- A way starts at a file, or in a text that is none. -/
theorem start {location : Option Location}
    (h : ∀ here ∈ location, here ∈ fs.files.map Prod.fst) : Way fs location.toList where
  nodup := by cases location <;> simp
  files := fun here hhere => h here (by simpa using hhere)

/-- A way goes on to a file that has been opened. -/
theorem cons (h : Way fs path) (hopened : Opened fs path file node included) :
    Way fs (included.location :: path) := by
  obtain ⟨text, hread, -⟩ := hopened.read
  exact ⟨List.nodup_cons.mpr ⟨hopened.fresh, h.nodup⟩,
    List.cons_subset.mpr ⟨mem_files_of_read hread, h.files⟩⟩

theorem length_le (h : Way fs path) : path.length ≤ fs.files.length := by
  have hlength : path.length ≤ (fs.files.map Prod.fst).length :=
    List.Nodup.length_le_of_subset h.nodup h.files
  rwa [List.length_map] at hlength

end Way

end RecordRecipe.Declarations
