import RecordRecipe.Proofs.Assoc
import RecordRecipe.Proofs.Error
import RecordRecipe.Proofs.Recipe.Opening
import RecordRecipe.Recipe.Source

/-!
# Errors of reading

A recipe that cannot be read is refused at a file and a line. Most faults are raised at a line; that
a group is missing or needs itself is told without one, and takes on the line of the declaration
that includes the group. The bounds on the search for files and for groups are never what ends it,
or end it where a line is near: `ofText_locates`. Options that do not settle are refused in the same
way.
-/

namespace RecordRecipe

open Yaml (Node)

/-- A result that, if it is an error, is located where no field is rendered. -/
abbrev Locates {α : Type} (result : Except Error α) : Prop := Refuses (Error.Located []) result

theorem RecipeFault.errorAt_located (fault : RecipeFault) (file : String) (line : Nat) :
    (fault.errorAt file line).Located [] := Error.located_atLine

namespace Declaration

variable {file : String} {node : Node}

theorem classify_locates : Locates (classify file node) := by
  unfold classify
  dsimp only
  split
  · exact RecipeFault.errorAt_located _ _ _
  · split
    · exact RecipeFault.errorAt_located _ _ _
    · trivial
    · exact RecipeFault.errorAt_located _ _ _

theorem checkKeys_locates {kind : DeclarationKind} : Locates (checkKeys file kind node) := by
  unfold checkKeys
  split
  · trivial
  · exact RecipeFault.errorAt_located _ _ _

theorem textUnder_locates {key : String} : Locates (textUnder file node key) := by
  unfold textUnder
  split
  · trivial
  · split
    · trivial
    · split
      · trivial
      · exact RecipeFault.errorAt_located _ _ _

theorem readDefault_locates {name : String} {line : Nat} :
    Locates (readDefault file name line node) := by
  unfold readDefault
  split
  · trivial
  · split
    · trivial
    · exact RecipeFault.errorAt_located _ _ _

theorem readOption_locates : Locates (readOption file node) :=
  checkKeys_locates.bind fun _ => textUnder_locates.bind fun _ =>
    readDefault_locates.bind fun _ => trivial

end Declaration

namespace Reading

variable {α β : Type} {P Q : Error → Prop} {file : String} {line around : Nat} {node : Node}

/-- If a part of a recipe cannot be read, the error satisfies a property. -/
def Fails (P : Error → Prop) (reading : Reading α) : Prop :=
  ∀ groups, Refuses P (reading groups).1

namespace Fails

theorem pure {a : α} : Fails P (Pure.pure a) := fun _ => trivial

theorem fail {error : Error} (h : P error) : Fails P (Action.fail error : Reading α) := fun _ => h

theorem failAt {fault : RecipeFault} :
    Fails (Error.Located []) (Reading.failAt file line fault : Reading α) :=
  fail (fault.errorAt_located file line)

theorem lift {result : Except Error α} (h : Refuses P result) : Fails P (Action.lift result) :=
  fun _ => h

theorem get : Fails P (Action.get : Reading (Assoc FieldGroup)) := fun _ => trivial

theorem modify {change : Assoc FieldGroup → Assoc FieldGroup} :
    Fails P (Action.modify change : Reading Unit) := fun _ => trivial

theorem bind {first : Reading α} {next : α → Reading β} (hfirst : Fails P first)
    (hnext : ∀ a, Fails P (next a)) : Fails P (first >>= next) := by
  intro groups
  have hresult := hfirst groups
  rw [Action.bind_apply]
  generalize first groups = run at hresult
  obtain ⟨result, middle⟩ := run
  cases result with
  | ok a => exact hnext a middle
  | error error => exact hresult

theorem forEach {body : α → Reading Unit} {items : List α} (h : ∀ a ∈ items, Fails P (body a)) :
    Fails P (Action.forEach body items) := by
  induction items with
  | nil => exact pure
  | cons first rest ih =>
      obtain ⟨hfirst, hrest⟩ := List.forall_mem_cons.mp h
      exact bind hfirst fun _ => ih hrest

theorem mapError {reading : Reading α} (h : Fails P reading) {frame : Error → Error}
    (hframe : ∀ error, P error → Q (frame error)) : Fails Q (Action.mapError frame reading) := by
  intro groups
  have hresult := h groups
  unfold Action.mapError
  generalize reading groups = run at hresult
  obtain ⟨result, last⟩ := run
  cases result with
  | ok a => trivial
  | error error => exact hframe error hresult

theorem imp {reading : Reading α} (h : Fails P reading) (himp : ∀ error, P error → Q error) :
    Fails Q reading :=
  fun groups => (h groups).imp himp

end Fails

/-- What is read, if it cannot be, is refused at a file and a line. -/
abbrev Locates (reading : Reading α) : Prop := Fails (Error.Located []) reading

/-- Groups that cannot be found are refused with errors that may still take on a line. -/
def GroupsFit (groups : GroupSource) : Prop := ∀ name, Fails (Error.Fits []) (groups name)

theorem checkText_locates {definition : String} :
    Refuses (Error.Located []) (checkText file line definition) := by
  unfold checkText
  split
  · trivial
  · exact Error.located_atLine

theorem written_locates {value : FieldValue} :
    Refuses (Error.Located []) (written file line value) := by
  unfold written
  split
  · exact checkText_locates.bind fun _ => trivial
  · trivial

theorem count_locates : Refuses (Error.Located []) (count file line node) := by
  have hbad (value : String) : Refuses (Error.Located []) (count.bad file line value) :=
    RecipeFault.errorAt_located _ _ _
  unfold count
  split
  · split
    · exact hbad _
    · trivial
  · split
    · trivial
    · exact hbad _
  · split
    · exact Refuses.except_map_iff.mpr written_locates
    · split
      · trivial
      · exact hbad _
  · exact RecipeFault.errorAt_located _ _ _

theorem optionalCount_locates : Refuses (Error.Located []) (optionalCount file line node) := by
  unfold optionalCount
  split
  · trivial
  · split
    · trivial
    · exact Refuses.except_map_iff.mpr count_locates

theorem tableName_locates : Refuses (Error.Located []) (tableName file line node) := by
  have hnone : Refuses (Error.Located []) (tableName.noTable file line) :=
    RecipeFault.errorAt_located _ _ _
  refine Declaration.textUnder_locates.bind fun name => ?_
  split
  · split
    · exact hnone
    · trivial
  · exact hnone

section

variable {groups : GroupSource} (hgroups : GroupsFit groups)

include hgroups

/-- A group that cannot be found is refused at the line of the declaration that includes it. -/
theorem groupFields_locates (names : List String) :
    Locates (groupFields groups file line names) := by
  induction names with
  | nil => exact .pure
  | cons name rest ih =>
      refine ((hgroups name).mapError fun _ herror => herror.orAtLine).bind fun group => ?_
      have hrest : Locates (do
          let others ← groupFields groups file line rest
          return group.fields ++ others) := ih.bind fun _ => .pure
      dsimp only
      split
      · exact Fails.failAt.bind fun _ => hrest
      · exact hrest

theorem includedFields_locates : Locates (includedFields groups file line node) := by
  refine (Fails.lift Declaration.textUnder_locates).bind fun names => ?_
  split
  · exact .pure
  · exact groupFields_locates hgroups _

theorem template_locates {ownFields : Reading (List Field)} {friends : Reading (List Template)}
    (hfields : Locates ownFields) (hfriends : Locates friends) :
    Locates (template groups file line node ownFields friends) := by
  refine (Fails.lift Declaration.checkKeys_locates).bind fun _ => ?_
  refine (Fails.lift tableName_locates).bind fun _ => ?_
  refine (Fails.lift Declaration.textUnder_locates).bind fun _ => ?_
  refine (includedFields_locates hgroups).bind fun _ => hfields.bind fun _ => ?_
  exact hfriends.bind fun _ => (Fails.lift optionalCount_locates).bind fun _ => .pure

end

mutual

/-- Templates that cannot be read are refused at a line. -/
theorem object_locates {groups : GroupSource} (hgroups : GroupsFit groups) (file : String)
    (around : Nat) : (node : Node) → Locates (object groups file around node)
  | .mapping _ entries =>
      template_locates hgroups (fieldsUnder_locates hgroups file _ entries)
        (friendsUnder_locates hgroups file _ entries)
  | .scalar _ _ _ | .sequence _ _ => .failAt

theorem objects_locates {groups : GroupSource} (hgroups : GroupsFit groups) (file : String)
    (around : Nat) : (nodes : List Node) → Locates (objects groups file around nodes)
  | [] => .pure
  | first :: rest =>
      (object_locates hgroups file around first).bind fun _ =>
        (objects_locates hgroups file around rest).bind fun _ => .pure

theorem friendsUnder_locates {groups : GroupSource} (hgroups : GroupsFit groups) (file : String)
    (around : Nat) :
    (entries : List (Node × Node)) → Locates (friendsUnder groups file around entries)
  | [] => .pure
  | (key, value) :: rest => by
      unfold friendsUnder
      split
      · exact friends_locates hgroups file around value
      · exact friendsUnder_locates hgroups file around rest

theorem friends_locates {groups : GroupSource} (hgroups : GroupsFit groups) (file : String)
    (around : Nat) : (node : Node) → Locates (friends groups file around node)
  | .sequence line items => objects_locates hgroups file _ items
  | .mapping _ _ => by
      unfold friends
      split
      · exact .pure
      · exact .failAt
  | .scalar _ _ _ => by
      unfold friends
      split
      · exact .pure
      · exact .failAt

theorem fieldsUnder_locates {groups : GroupSource} (hgroups : GroupsFit groups) (file : String)
    (around : Nat) :
    (entries : List (Node × Node)) → Locates (fieldsUnder groups file around entries)
  | [] => .pure
  | (key, value) :: rest => by
      unfold fieldsUnder
      split
      · exact fields_locates hgroups file around value
      · exact fieldsUnder_locates hgroups file around rest

theorem fields_locates {groups : GroupSource} (hgroups : GroupsFit groups) (file : String)
    (around : Nat) : (node : Node) → Locates (fields groups file around node)
  | .mapping line entries => fieldEntries_locates hgroups file _ entries
  | .sequence _ _ => by
      unfold fields
      split
      · exact .pure
      · exact .failAt
  | .scalar _ _ _ => by
      unfold fields
      split
      · exact .pure
      · exact .failAt

theorem fieldEntries_locates {groups : GroupSource} (hgroups : GroupsFit groups) (file : String)
    (around : Nat) :
    (entries : List (Node × Node)) → Locates (fieldEntries groups file around entries)
  | [] => .pure
  | (key, value) :: rest => by
      have hread := (definition_locates hgroups file key.name (key.lineOr around) value).bind
        fun found => (fieldEntries_locates hgroups file around rest).bind fun others =>
          Fails.pure (P := Error.Located []) (a := Field.mk key.name found file
            (value.lineOr (key.lineOr around)) :: others)
      unfold fieldEntries
      dsimp only
      split
      · exact Fails.failAt.bind fun _ => hread
      · exact hread

/-- Definitions that cannot be read are refused at a line. -/
theorem definition_locates {groups : GroupSource} (hgroups : GroupsFit groups)
    (file name : String) (around : Nat) :
    (node : Node) → Locates (definition groups file name around node)
  | .scalar line _ value => by
      unfold definition
      dsimp only
      split
      · exact .failAt
      · exact (Fails.lift written_locates).bind fun _ => .pure
  | .mapping line entries => by
      unfold definition
      dsimp only
      split
      · exact (template_locates hgroups (fieldsUnder_locates hgroups file _ entries)
          (friendsUnder_locates hgroups file _ entries)).bind fun _ => .pure
      · exact call_locates hgroups file name _ entries
  | .sequence line [item] => by
      unfold definition
      dsimp only
      split
      · exact definition_locates hgroups file name _ item
      · exact .failAt
  | .sequence _ [] => .failAt
  | .sequence _ (_ :: _ :: _) => .failAt

theorem call_locates {groups : GroupSource} (hgroups : GroupsFit groups) (file name : String)
    (here : Nat) : (entries : List (Node × Node)) → Locates (call groups file name here entries)
  | [] => .failAt
  | [(function, given)] =>
      (arguments_locates hgroups file function.name here given).bind fun _ => .pure
  | _ :: _ :: _ => .failAt

theorem arguments_locates {groups : GroupSource} (hgroups : GroupsFit groups)
    (file function : String) (around : Nat) :
    (node : Node) → Locates (arguments groups file function around node)
  | .sequence _ items =>
      (definitions_locates hgroups file function around items).bind fun _ => .pure
  | .mapping _ entries =>
      (namedDefinitions_locates hgroups file around entries []).bind fun _ => .pure
  | .scalar line _ value => by
      unfold arguments
      split
      · exact .pure
      · exact (Fails.lift written_locates).bind fun _ => .pure

theorem definitions_locates {groups : GroupSource} (hgroups : GroupsFit groups)
    (file function : String) (around : Nat) :
    (nodes : List Node) → Locates (definitions groups file function around nodes)
  | [] => .pure
  | first :: rest =>
      (definition_locates hgroups file function around first).bind fun _ =>
        (definitions_locates hgroups file function around rest).bind fun _ => .pure

theorem namedDefinitions_locates {groups : GroupSource} (hgroups : GroupsFit groups)
    (file : String) (around : Nat) :
    (entries : List (Node × Node)) → (found : Assoc Definition) →
      Locates (namedDefinitions groups file around entries found)
  | [], _ => .pure
  | (key, value) :: rest, _ =>
      (definition_locates hgroups file key.name around value).bind fun _ =>
        namedDefinitions_locates hgroups file around rest _

end

theorem groupBody_locates {groups : GroupSource} (hgroups : GroupsFit groups) (name : String)
    (declaration : Declaration) : Locates (groupBody groups name declaration) := by
  refine (Fails.lift Declaration.checkKeys_locates).bind fun _ => ?_
  refine (includedFields_locates hgroups).bind fun _ => ?_
  exact (fieldsUnder_locates hgroups _ _ _).bind fun _ => .pure

/-- What is done about a group that is declared and has not been read. -/
theorem openGroup_locates {groups : GroupSource} (hgroups : GroupsFit groups) (path : List String)
    (name : String) (declaration : Declaration) :
    Locates (do
      if path.contains name then
        failAt declaration.file (declaration.node.lineOr 1) (.recursiveGroup name)
      let found ← groupBody groups name declaration
      Action.modify (Assoc.put name found)
      return found) := by
  have hread : Locates (do
      let found ← groupBody groups name declaration
      Action.modify (Assoc.put name found)
      return found) :=
    (groupBody_locates hgroups name declaration).bind fun _ => Fails.modify.bind fun _ => .pure
  dsimp only
  split
  · exact Fails.failAt.bind fun _ => hread
  · exact hread

/-- Groups are refused at a line, or where one is near. -/
theorem group_fits (declared : Assoc Declaration) (depth : Nat) (path : List String) :
    GroupsFit (group declared depth path) := by
  induction depth generalizing path with
  | zero => exact fun name => .fail Error.bare_unplaced.fits
  | succ depth ih =>
      intro name
      refine Fails.get.bind fun known => ?_
      split
      · exact .pure
      · split
        · exact .fail Error.bare_unplaced.fits
        · exact (openGroup_locates (ih _) path name _).imp fun _ herror => herror.fits

/-- Groups that are declared are refused at a line. -/
theorem findGroup_locates {declared : Assoc Declaration} {name : String}
    (hname : name ∈ declared.keys) : Locates (findGroup declared name) := by
  obtain ⟨declaration, hfound⟩ := Assoc.exists_find? hname
  refine Fails.get.bind fun known => ?_
  split
  · exact .pure
  · rw [hfound]
    exact openGroup_locates (group_fits declared _ _) [] name declaration

theorem remainingGroups_locates (declared : Assoc Declaration) :
    Locates (remainingGroups declared) :=
  Fails.forEach fun _ hname => (findGroup_locates hname).bind fun _ => .pure

theorem templates_locates {groups : GroupSource} (hgroups : GroupsFit groups)
    (declarations : List Declaration) : Locates (templates groups declarations) := by
  induction declarations with
  | nil => exact .pure
  | cons first rest ih =>
      exact (object_locates hgroups first.file 1 first.node).bind fun _ => ih.bind fun _ => .pure

end Reading

namespace Declarations

variable {fs : Files} {path : List Location} {file : String} {node : Node}

theorem readDocument_locates {text : String} : Locates (readDocument file text) := by
  unfold readDocument
  split
  · trivial
  · exact RecipeFault.errorAt_located _ _ _

theorem classifyAll_locates {root : Option Node} : Locates (classifyAll file root) := by
  unfold classifyAll
  split
  · exact RecipeFault.errorAt_located _ _ _
  · exact Refuses.mapM fun _ _ => Declaration.classify_locates.bind fun _ => trivial

theorem add_locates {declarations : Declarations} {declared : DeclarationKind × Node} :
    Locates (add file declarations declared) := by
  obtain ⟨kind, node⟩ := declared
  cases kind with
  | option => exact Declaration.readOption_locates.bind fun _ => trivial
  | group => exact Declaration.textUnder_locates.bind fun _ => trivial
  | template | inclusion => trivial

theorem openIncluded_locates : Locates (openIncluded fs path file node) := by
  refine Declaration.checkKeys_locates.bind fun _ => ?_
  refine Declaration.textUnder_locates.bind fun relative => ?_
  dsimp only
  split
  · exact RecipeFault.errorAt_located _ _ _
  · split
    next => exact RecipeFault.errorAt_located _ _ _
    next =>
      split
      · exact RecipeFault.errorAt_located _ _ _
      · exact readDocument_locates.bind fun _ => trivial

/-- The search for files ends before its bound is reached, since the way to a file is no longer than
there are files. -/
theorem collect_locates {depth : Nat} {root : Option Node} {found : Declarations}
    (hway : Way fs path) (hdepth : fs.files.length < depth + path.length) :
    Locates (collect fs depth path file root found) := by
  induction depth generalizing path file root found with
  | zero =>
      have hlength := hway.length_le
      omega
  | succ depth ih =>
      refine classifyAll_locates.bind fun declared => ?_
      refine (Refuses.foldlM fun found declaration _ => ?_).bind fun found =>
        Refuses.foldlM fun _ _ _ => add_locates
      refine openIncluded_locates.bindGiven openIncluded_gives fun included hopened => ?_
      refine ih (hway.cons hopened) ?_
      rw [List.length_cons]
      omega

end Declarations

/-- Options that do not settle are refused at the line of a declaration. -/
theorem resolveDeclared_locates (supplied : Assoc FieldValue)
    (declarations : List OptionDeclaration) (values : Assoc FieldValue) :
    Locates (resolveDeclared supplied declarations values) := by
  induction declarations generalizing values with
  | nil => trivial
  | cons first rest ih =>
      unfold resolveDeclared
      split
      · exact ih _
      · exact Error.located_atLine

theorem mergeOptions_locates (declarations : List OptionDeclaration)
    (supplied : Assoc FieldValue) : Locates (mergeOptions declarations supplied) := by
  have hresolved := resolveDeclared_locates supplied declarations []
  unfold mergeOptions
  split
  next error herror => exact hresolved.of_eq_error herror
  next => trivial

namespace Recipe

/-- A text that cannot be read as a recipe is refused at a file and a line. -/
theorem ofText_locates (fs : Files) (file text : String) :
    Locates (Recipe.ofText fs file text) := by
  refine Refuses.bind ?_ fun declarations => ?_
  · refine Declarations.readDocument_locates.bind fun root => ?_
    exact Declarations.collect_locates (Declarations.Way.start nofun) (by simp)
  · have hread : Reading.Locates (do
        let templates ← Reading.templates (Reading.findGroup declarations.groups)
          declarations.templates
        Reading.remainingGroups declarations.groups
        return templates) :=
      (Reading.templates_locates (Reading.group_fits _ _ _) _).bind fun _ =>
        (Reading.remainingGroups_locates _).bind fun _ => .pure
    have hresult := hread []
    unfold ofDeclarations
    dsimp only
    split
    next error _ heq => exact hresult.of_eq_error (congrArg Prod.fst heq)
    next => trivial

end Recipe

end RecordRecipe
