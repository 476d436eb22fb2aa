import RecordRecipe.Proofs.Recipe.Opening
import RecordRecipe.Proofs.Recipe.Reading
import RecordRecipe.Recipe.Source

/-!
# Recipes are read without references

All declarations of a recipe and of the files that it includes come from documents, which hold no
references, and so neither does the recipe: `Recipe.ofText_plain`, `Recipe.ofBytes_plain` and
`Recipe.ofFile_plain`.
-/

namespace RecordRecipe

open Yaml (Node)

namespace Reading

/-- A group is plain if the groups that it needs are. -/
theorem groupBody_plain {groups : GroupSource}
    (hgroups : ∀ name, Yields (fun group => FieldsPlain group.fields) (groups name)) {name : String}
    {declaration : Declaration} (h : declaration.node.Plain) :
    Yields (fun group => FieldsPlain group.fields) (groupBody groups name declaration) := by
  obtain ⟨file, node⟩ := declaration
  have hentries : ∀ entry ∈ node.entries?.getD [], entry.2.Plain := by
    cases h with
    | mapping _ entries hentries => exact hentries
    | scalar | sequence => simp [Node.entries?]
  unfold groupBody
  refine .liftSkip fun _ => ?_
  refine (includedFields_plain hgroups).bind fun included hincluded => ?_
  refine (fieldsUnder_plain hgroups _ hentries _).bind fun own hown => .pure ?_
  exact List.forall_mem_append.mpr ⟨hincluded, hown⟩

section

variable {declared : Assoc Declaration} (h : ∀ entry ∈ declared, entry.2.node.Plain)

include h

/-- A group that is found is plain. -/
theorem group_plain (depth : Nat) (path : List String) (name : String) :
    Yields (fun group => FieldsPlain group.fields) (group declared depth path name) := by
  -- The depth bounds the chain of groups; every group on it is read with a smaller one.
  induction depth generalizing path name with
  | zero => exact .fail
  | succ depth ih =>
      unfold group
      refine Yields.get.bind fun kept hkept => ?_
      split
      next known hknown => exact .pure (hkept _ (Assoc.mem_of_find? hknown))
      next =>
        split
        next => exact .fail
        next declaration hdeclaration =>
          have hfound : Yields (fun group => FieldsPlain group.fields) (do
              let found ← groupBody (group declared depth (name :: path)) name declaration
              Action.modify (Assoc.put name found)
              return found) := by
            have hnode := h _ (Assoc.mem_of_find? hdeclaration)
            refine (groupBody_plain (ih (name :: path)) hnode).bind
              fun found hplain groups hgroups => ⟨hplain, fun entry hentry => ?_⟩
            obtain rfl | hentry := Assoc.mem_put hentry
            · exact hplain
            · exact hgroups entry hentry
          dsimp only
          split
          · exact .skip .failAt fun _ => hfound
          · exact hfound

/-- All groups are read without references. -/
theorem remainingGroups_plain : Yields (fun _ => True) (remainingGroups declared) := by
  have hall : ∀ names : List String, Yields (fun _ => True)
      (Action.forEach (fun name => do let _ ← findGroup declared name) names) := by
    intro names
    induction names with
    | nil => exact .pure trivial
    | cons name rest ih =>
        refine Yields.skip ?_ fun _ => ih
        exact (group_plain h _ [] name).bind fun _ _ => .pure trivial
  exact hall declared.keys

end

/-- Templates are read without references. -/
theorem templates_plain {groups : GroupSource}
    (hgroups : ∀ name, Yields (fun group => FieldsPlain group.fields) (groups name))
    {declarations : List Declaration} (h : ∀ declaration ∈ declarations, declaration.node.Plain) :
    Yields (fun all => ∀ template ∈ all, template.Obeys Rules.plain)
      (templates groups declarations) := by
  induction declarations with
  | nil => exact .pure (by simp)
  | cons first rest ih =>
      obtain ⟨hfirst, hrest⟩ := List.forall_mem_cons.mp h
      exact (object_plain hgroups first.node hfirst 1).bind fun _ htemplate =>
        (ih hrest).bind fun _ hothers => .pure (List.forall_mem_cons.mpr ⟨htemplate, hothers⟩)

end Reading

/-- The declarations of a recipe hold no references. -/
structure Declarations.Plain (declarations : Declarations) : Prop where
  options : ∀ option ∈ declarations.options, ∀ value ∈ option.default, value.Within noRow
  groups : ∀ entry ∈ declarations.groups, entry.2.node.Plain
  templates : ∀ declaration ∈ declarations.templates, declaration.node.Plain

/-- The default of an option is no reference. -/
theorem Declaration.readOption_plain {file : String} {node : Node} (h : node.Plain) :
    Gives (fun option => ∀ value ∈ option.default, value.Within noRow)
      (Declaration.readOption file node) := by
  have hdefault {name : String} {line : Nat} :
      Gives (fun default => ∀ value ∈ default, value.Within noRow)
        (Declaration.readDefault file name line node) := by
    unfold Declaration.readDefault
    split
    next => simp
    next found hfound =>
      split
      next value hvalue =>
        intro other hother
        obtain rfl : value = other := by simpa using hother
        exact (h.get? "default" found hfound).value? value hvalue
      next => trivial
  unfold Declaration.readOption
  simp only [Gives.bind_iff, Gives.pure_iff]
  exact Gives.of_forall fun _ => Gives.of_forall fun _ => hdefault

namespace Declarations

/-- A text is read as a document without references. -/
theorem readDocument_plain {file text : String} :
    Gives (fun root => ∀ node ∈ root, node.Plain) (readDocument file text) := by
  have hroot := Node.ofText_plain text
  unfold readDocument
  generalize Node.ofText text = result at hroot
  cases result with
  | ok root => exact hroot
  | error fault => trivial

/-- Declarations are classified without being changed. -/
theorem classifyAll_plain {file : String} {root : Option Node} (h : ∀ node ∈ root, node.Plain) :
    Gives (fun declared => ∀ declaration ∈ declared, declaration.2.Plain)
      (classifyAll file root) := by
  unfold classifyAll
  split
  next => trivial
  next items hitems =>
    obtain ⟨node, hnode, hitems⟩ := Option.bind_eq_some_iff.mp hitems
    refine Gives.mapM fun item hitem => ?_
    simp only [Gives.bind_iff, Gives.pure_iff]
    exact Gives.of_forall fun _ => (h node hnode).items? items hitems item hitem

/-- A declaration without references may be added. -/
theorem Plain.add {file : String} {declarations : Declarations} (h : declarations.Plain)
    {declared : DeclarationKind × Node} (hnode : declared.2.Plain) :
    Gives Declarations.Plain (add file declarations declared) := by
  obtain ⟨kind, node⟩ := declared
  unfold Declarations.add
  cases kind with
  | option =>
      simp only [Gives.bind_iff, Gives.pure_iff]
      exact (Declaration.readOption_plain hnode).imp fun option hoption =>
        ⟨List.forall_mem_append.mpr ⟨h.options, List.forall_mem_singleton.mpr hoption⟩, h.groups,
          h.templates⟩
  | group =>
      simp only [Gives.bind_iff, Gives.pure_iff]
      refine Gives.of_forall fun name => ⟨h.options, fun entry hentry => ?_, h.templates⟩
      obtain rfl | hentry := Assoc.mem_put hentry
      · exact hnode
      · exact h.groups entry hentry
  | template =>
      exact ⟨h.options, h.groups,
        List.forall_mem_append.mpr ⟨h.templates, List.forall_mem_singleton.mpr hnode⟩⟩
  | inclusion => exact h

/-- An included file is read without references. -/
theorem openIncluded_plain {fs : Files} {path : List Location} {file : String} {node : Node} :
    Gives (fun included => ∀ node ∈ included.root, node.Plain)
      (openIncluded fs path file node) := by
  refine openIncluded_gives.imp fun included hopened => ?_
  obtain ⟨text, -, hroot⟩ := hopened.read
  exact readDocument_plain.of_eq_ok hroot

/-- Declarations are collected without references. -/
theorem collect_plain {fs : Files} (depth : Nat) {path : List Location} {file : String}
    {root : Option Node} (hroot : ∀ node ∈ root, node.Plain) {found : Declarations}
    (hfound : found.Plain) : Gives Declarations.Plain (collect fs depth path file root found) := by
  -- Included files are collected before the declarations of the file itself are added.
  induction depth generalizing path file root found with
  | zero => trivial
  | succ depth ih =>
      unfold collect
      rw [Gives.bind_iff]
      refine (classifyAll_plain hroot).imp fun declared hdeclared => ?_
      dsimp only
      rw [Gives.bind_iff]
      refine (Gives.foldlM hfound fun found hfound declaration _ => ?_).imp fun found hfound => ?_
      · rw [Gives.bind_iff]
        exact openIncluded_plain.imp fun included hincluded => ih hincluded hfound
      · exact Gives.foldlM hfound fun found hfound declaration hdeclaration =>
          hfound.add (hdeclared declaration hdeclaration)

/-- The declarations in a text hold no references. -/
theorem ofText_plain {fs : Files} {location : Option Location} {file text : String} :
    Gives Declarations.Plain (ofText fs location file text) := by
  unfold ofText
  rw [Gives.bind_iff]
  refine readDocument_plain.imp fun root hroot => collect_plain _ hroot ?_
  exact ⟨by simp, by simp, by simp⟩

end Declarations

namespace Recipe

/-- The recipe of declarations without references holds none. -/
theorem ofDeclarations_plain {file : String} {declarations : Declarations}
    (h : declarations.Plain) : Gives Recipe.Plain (ofDeclarations file declarations) := by
  have hread : Reading.Yields (fun all => ∀ template ∈ all, template.Obeys Rules.plain) (do
      let templates ← Reading.templates (Reading.findGroup declarations.groups)
        declarations.templates
      Reading.remainingGroups declarations.groups
      return templates) :=
    (Reading.templates_plain (fun name => Reading.group_plain h.groups _ [] name) h.templates).bind
      fun _ htemplates => (Reading.remainingGroups_plain h.groups).bind fun _ _ => .pure htemplates
  have hresult := (hread [] (by simp [GroupsPlain])).1
  unfold ofDeclarations
  dsimp only
  split
  next => trivial
  next templates groups hrun =>
    rw [hrun] at hresult
    exact ⟨hresult, h.options⟩

variable {fs : Files} {file text : String}

/-- A recipe that is read from a text holds no references. -/
theorem ofText_plain : Gives Recipe.Plain (ofText fs file text) := by
  unfold ofText
  rw [Gives.bind_iff]
  exact Declarations.ofText_plain.imp fun _ => ofDeclarations_plain

/-- A recipe that is read from bytes holds no references. -/
theorem ofBytes_plain {bytes : ByteArray} : Gives Recipe.Plain (ofBytes fs file bytes) := by
  unfold ofBytes
  split
  · exact ofText_plain
  · trivial

/-- A recipe that is read from a file holds no references. -/
theorem ofFile_plain {path : String} : Gives Recipe.Plain (ofFile fs path) := by
  unfold ofFile
  split
  · trivial
  · rw [Gives.bind_iff]
    exact Declarations.ofText_plain.imp fun _ => ofDeclarations_plain

end Recipe

end RecordRecipe
