import RecordRecipe.Proofs.Recipe.Node
import RecordRecipe.Recipe.Body

/-!
# Templates are read without references

Templates are read from nodes that hold no references, and from the fields of groups that they
include. `Yields` carries this through the reading: what is read is plain, and so are the groups
that are kept on the way. `object_plain` is the result for templates.
-/

namespace RecordRecipe

open Yaml (Node)

/-- The definitions of some fields hold no references. -/
def FieldsPlain (fields : List Field) : Prop :=
  ∀ field ∈ fields, field.definition.Obeys Rules.plain

/-- The groups that have been read hold no references. -/
def GroupsPlain (groups : Assoc FieldGroup) : Prop :=
  ∀ entry ∈ groups, FieldsPlain entry.2.fields

namespace Reading

variable {α β : Type} {P : α → Prop} {Q : β → Prop}

/-- What is read satisfies a property, and the groups read on the way hold no references. -/
def Yields (P : α → Prop) (reading : Reading α) : Prop :=
  ∀ groups, GroupsPlain groups → Gives P (reading groups).1 ∧ GroupsPlain (reading groups).2

namespace Yields

theorem pure {a : α} (h : P a) : Yields P (Pure.pure a) := fun _ hgroups => ⟨h, hgroups⟩

theorem fail {error : Error} : Yields P (Action.fail error) := fun _ hgroups => ⟨trivial, hgroups⟩

theorem failAt {file : String} {line : Nat} {fault : RecipeFault} :
    Yields P (Reading.failAt file line fault) := fail

theorem lift {result : Except Error α} (h : Gives P result) : Yields P (Action.lift result) :=
  fun _ hgroups => ⟨h, hgroups⟩

theorem bind {first : Reading α} {next : α → Reading β} (hfirst : Yields P first)
    (hnext : ∀ a, P a → Yields Q (next a)) : Yields Q (first >>= next) := by
  intro groups hgroups
  obtain ⟨hresult, hmiddle⟩ := hfirst groups hgroups
  rw [Action.bind_apply]
  generalize first groups = run at hresult hmiddle
  obtain ⟨result, middle⟩ := run
  cases result with
  | ok a => exact hnext a hresult middle hmiddle
  | error error => exact ⟨trivial, hmiddle⟩

/-- What is read in any way may be passed over. -/
theorem skip {first : Reading α} {next : α → Reading β} (hfirst : Yields (fun _ => True) first)
    (hnext : ∀ a, Yields Q (next a)) : Yields Q (first >>= next) :=
  hfirst.bind fun a _ => hnext a

theorem liftSkip {result : Except Error α} {next : α → Reading β} (hnext : ∀ a, Yields Q (next a)) :
    Yields Q (Action.lift result >>= next) :=
  skip (lift (Gives.of_forall fun _ => trivial)) hnext

theorem mapError {reading : Reading α} (h : Yields P reading) (frame : Error → Error) :
    Yields P (reading.mapError frame) := by
  intro groups hgroups
  obtain ⟨hresult, hlast⟩ := h groups hgroups
  unfold Action.mapError
  generalize reading groups = run at hresult hlast
  obtain ⟨result, last⟩ := run
  cases result with
  | ok a => exact ⟨hresult, hlast⟩
  | error error => exact ⟨trivial, hlast⟩

theorem get : Yields GroupsPlain Action.get := fun _ hgroups => ⟨hgroups, hgroups⟩

end Yields

/-- A value as it is written keeps its value. -/
theorem written_plain {file : String} {line : Nat} {value : FieldValue}
    (h : value.Within noRow) :
    Gives (fun written => written.value.Within noRow) (written file line value) := by
  unfold written
  split
  · simp only [Gives.bind_iff]
    exact Gives.of_forall fun _ => h
  · exact h

/-- A number of rows that is worked out anew every time is a text. -/
theorem count_plain {file : String} {line : Nat} {node : Node} :
    Gives (fun count => ∀ written, count = .deferred written → written.value.Within noRow)
      (count file line node) := by
  unfold count
  split
  · split
    · trivial
    · simp
  · split
    · simp
    · trivial
  · split
    · rw [Gives.except_map_iff]
      refine (written_plain ?_).imp fun written hwritten other hother => ?_
      · trivial
      · obtain rfl := Count.deferred.inj hother
        exact hwritten
    · split
      · simp
      · trivial
  · trivial

/-- The number of rows that a template says is plain. -/
theorem optionalCount_plain {file : String} {line : Nat} {node : Node} :
    Gives (fun count => ∀ written, count = some (.deferred written) → written.value.Within noRow)
      (optionalCount file line node) := by
  unfold optionalCount
  split
  · simp
  · split
    · simp
    · rw [Gives.except_map_iff]
      exact count_plain.imp fun count hcount written hwritten =>
        hcount written (Option.some.inj hwritten)

section

variable {groups : GroupSource} (hgroups : ∀ name, Yields (fun group => FieldsPlain group.fields)
  (groups name)) {file : String}

include hgroups

/-- The fields of groups are plain. -/
theorem groupFields_plain {line : Nat} (names : List String) :
    Yields FieldsPlain (groupFields groups file line names) := by
  induction names with
  | nil => exact .pure (by simp [FieldsPlain])
  | cons name rest ih =>
      unfold groupFields
      refine ((hgroups name).mapError _).bind fun group hgroup => ?_
      dsimp only
      split
      · exact .skip .failAt fun _ => ih.bind fun others hothers =>
          .pure (List.forall_mem_append.mpr ⟨hgroup, hothers⟩)
      · exact ih.bind fun others hothers =>
          .pure (List.forall_mem_append.mpr ⟨hgroup, hothers⟩)

/-- The fields of the groups that a declaration includes are plain. -/
theorem includedFields_plain {line : Nat} {node : Node} :
    Yields FieldsPlain (includedFields groups file line node) := by
  unfold includedFields
  refine .liftSkip fun names => ?_
  cases names with
  | none => exact .pure (by simp [FieldsPlain])
  | some names => exact groupFields_plain hgroups (listedNames names)

/-- A template is plain if its own fields and its friends are. -/
theorem template_plain {line : Nat} {node : Node} {ownFields : Reading (List Field)}
    {friends : Reading (List Template)} (hown : Yields FieldsPlain ownFields)
    (hfriends : Yields (fun all => ∀ friend ∈ all, friend.Obeys Rules.plain) friends) :
    Yields (fun template => template.Obeys Rules.plain)
      (template groups file line node ownFields friends) := by
  unfold template
  refine .liftSkip fun _ => .liftSkip fun table => .liftSkip fun nickname => ?_
  refine (includedFields_plain hgroups).bind fun included hincluded => ?_
  refine hown.bind fun own hown => hfriends.bind fun friends hfriends => ?_
  refine (Yields.lift optionalCount_plain).bind fun count hcount => .pure ?_
  exact .mk _ _ _ _ _ _ _ trivial hcount (fun _ _ => trivial)
    (List.forall_mem_append.mpr ⟨hincluded, hown⟩) hfriends

-- In a mutual block the linter sees the groups used where templates are put together alone.
set_option linter.unusedSectionVars false

mutual

/-- The template that a node describes is plain. -/
theorem object_plain : (node : Node) → node.Plain → (around : Nat) →
    Yields (fun template => template.Obeys Rules.plain) (object groups file around node)
  | .mapping line entries, h, around => by
      cases h with
      | mapping _ _ hentries =>
          exact template_plain hgroups (fieldsUnder_plain entries hentries _)
            (friendsUnder_plain entries hentries _)
  | .scalar .., _, _ => .failAt
  | .sequence .., _, _ => .failAt

theorem objects_plain : (nodes : List Node) → (∀ node ∈ nodes, node.Plain) → (around : Nat) →
    Yields (fun all => ∀ template ∈ all, template.Obeys Rules.plain)
      (objects groups file around nodes)
  | [], _, _ => .pure (by simp)
  | first :: rest, h, around => by
      obtain ⟨hfirst, hrest⟩ := List.forall_mem_cons.mp h
      exact (object_plain first hfirst around).bind fun _ htemplate =>
        (objects_plain rest hrest around).bind fun _ hothers =>
          .pure (List.forall_mem_cons.mpr ⟨htemplate, hothers⟩)

theorem friendsUnder_plain : (entries : List (Node × Node)) →
    (∀ entry ∈ entries, entry.2.Plain) → (around : Nat) →
      Yields (fun all => ∀ template ∈ all, template.Obeys Rules.plain)
        (friendsUnder groups file around entries)
  | [], _, _ => .pure (by simp)
  | (key, value) :: rest, h, around => by
      obtain ⟨hfirst, hrest⟩ := List.forall_mem_cons.mp h
      unfold friendsUnder
      split
      · exact friends_plain value hfirst around
      · exact friendsUnder_plain rest hrest around

/-- The templates of friends are plain. -/
theorem friends_plain : (node : Node) → node.Plain → (around : Nat) →
    Yields (fun all => ∀ template ∈ all, template.Obeys Rules.plain)
      (friends groups file around node)
  | .sequence line items, h, around => by
      cases h with
      | sequence _ _ hitems => exact objects_plain items hitems _
  | .scalar .., _, _ => by
      unfold friends
      split
      · exact .pure (by simp)
      · exact .failAt
  | .mapping .., _, _ => by
      unfold friends
      split
      · exact .pure (by simp)
      · exact .failAt

theorem fieldsUnder_plain : (entries : List (Node × Node)) →
    (∀ entry ∈ entries, entry.2.Plain) → (around : Nat) →
      Yields FieldsPlain (fieldsUnder groups file around entries)
  | [], _, _ => .pure (by simp [FieldsPlain])
  | (key, value) :: rest, h, around => by
      obtain ⟨hfirst, hrest⟩ := List.forall_mem_cons.mp h
      unfold fieldsUnder
      split
      · exact fields_plain value hfirst around
      · exact fieldsUnder_plain rest hrest around

/-- The fields that a node describes are plain. -/
theorem fields_plain : (node : Node) → node.Plain → (around : Nat) →
    Yields FieldsPlain (fields groups file around node)
  | .mapping line entries, h, around => by
      cases h with
      | mapping _ _ hentries => exact fieldEntries_plain entries hentries _
  | .scalar .., _, _ => by
      unfold fields
      split
      · exact .pure (by simp [FieldsPlain])
      · exact .failAt
  | .sequence .., _, _ => by
      unfold fields
      split
      · exact .pure (by simp [FieldsPlain])
      · exact .failAt

theorem fieldEntries_plain : (entries : List (Node × Node)) →
    (∀ entry ∈ entries, entry.2.Plain) → (around : Nat) →
      Yields FieldsPlain (fieldEntries groups file around entries)
  | [], _, _ => .pure (by simp [FieldsPlain])
  | (key, value) :: rest, h, around => by
      obtain ⟨hfirst, hrest⟩ := List.forall_mem_cons.mp h
      have hfields : Yields FieldsPlain (do
          let definition ← definition groups file key.name (key.lineOr around) value
          let others ← fieldEntries groups file around rest
          return .mk key.name definition file (value.lineOr (key.lineOr around)) :: others) :=
        (definition_plain value hfirst _ _).bind fun _ hdefinition =>
          (fieldEntries_plain rest hrest around).bind fun _ hothers =>
            .pure (List.forall_mem_cons.mpr ⟨hdefinition, hothers⟩)
      unfold fieldEntries
      dsimp only
      split
      · exact .skip .failAt fun _ => hfields
      · exact hfields

/-- The definition that a node describes is plain. -/
theorem definition_plain : (node : Node) → node.Plain → (name : String) → (around : Nat) →
    Yields (fun definition => definition.Obeys Rules.plain)
      (definition groups file name around node)
  | .scalar line content value, h, name, around => by
      cases h with
      | scalar _ _ _ hvalue =>
          unfold definition
          dsimp only
          split
          · exact .failAt
          · exact (Yields.lift (written_plain hvalue)).bind fun written hwritten =>
              .pure (.value written hwritten)
  | .mapping line entries, h, name, around => by
      cases h with
      | mapping _ _ hentries =>
          unfold definition
          dsimp only
          split
          · exact (template_plain hgroups (fieldsUnder_plain entries hentries _)
              (friendsUnder_plain entries hentries _)).bind fun record hrecord =>
                .pure (.child record _ _ hrecord)
          · exact call_plain entries hentries name _
  | .sequence line [item], h, name, around => by
      cases h with
      | sequence _ _ hitems =>
          unfold definition
          dsimp only
          split
          · exact definition_plain item (hitems item List.mem_cons_self) name _
          · exact .failAt
  | .sequence line [], _, _, _ => .failAt
  | .sequence line (_ :: _ :: _), _, _, _ => .failAt

theorem call_plain : (entries : List (Node × Node)) → (∀ entry ∈ entries, entry.2.Plain) →
    (name : String) → (here : Nat) →
      Yields (fun definition => definition.Obeys Rules.plain) (call groups file name here entries)
  | [], _, _, _ => .failAt
  | [(function, given)], h, name, here => by
      unfold call
      refine (arguments_plain given (h _ List.mem_cons_self) _ here).bind ?_
      rintro ⟨positional, named⟩ ⟨hpositional, hnamed⟩
      exact .pure (.call _ positional named file here hpositional hnamed)
  | _ :: _ :: _, _, _, _ => .failAt

/-- The arguments of a call are plain. -/
theorem arguments_plain : (node : Node) → node.Plain → (function : String) → (around : Nat) →
    Yields (fun found => (∀ definition ∈ found.1, definition.Obeys Rules.plain) ∧
      ∀ entry ∈ found.2, entry.2.Obeys Rules.plain) (arguments groups file function around node)
  | .sequence line items, h, function, around => by
      cases h with
      | sequence _ _ hitems =>
          exact (definitions_plain items hitems function around).bind fun _ hall =>
            .pure ⟨hall, by simp⟩
  | .mapping line entries, h, function, around => by
      cases h with
      | mapping _ _ hentries =>
          exact (namedDefinitions_plain entries hentries around (by simp)).bind fun _ hall =>
            .pure ⟨by simp, hall⟩
  | .scalar line content value, h, function, around => by
      cases h with
      | scalar _ _ _ hvalue =>
          unfold arguments
          split
          · exact .pure ⟨by simp, by simp⟩
          · exact (Yields.lift (written_plain hvalue)).bind fun written hwritten =>
              .pure ⟨List.forall_mem_singleton.mpr (.value written hwritten), by simp⟩

theorem definitions_plain : (nodes : List Node) → (∀ node ∈ nodes, node.Plain) →
    (function : String) → (around : Nat) →
      Yields (fun all => ∀ definition ∈ all, definition.Obeys Rules.plain)
        (definitions groups file function around nodes)
  | [], _, _, _ => .pure (by simp)
  | first :: rest, h, function, around => by
      obtain ⟨hfirst, hrest⟩ := List.forall_mem_cons.mp h
      exact (definition_plain first hfirst function around).bind fun _ hargument =>
        (definitions_plain rest hrest function around).bind fun _ hothers =>
          .pure (List.forall_mem_cons.mpr ⟨hargument, hothers⟩)

theorem namedDefinitions_plain : (entries : List (Node × Node)) →
    (∀ entry ∈ entries, entry.2.Plain) → (around : Nat) → {found : Assoc Definition} →
      (∀ entry ∈ found, entry.2.Obeys Rules.plain) →
        Yields (fun all => ∀ entry ∈ all, entry.2.Obeys Rules.plain)
          (namedDefinitions groups file around entries found)
  | [], _, _, _, hfound => .pure hfound
  | (key, value) :: rest, h, around, found, hfound => by
      obtain ⟨hfirst, hrest⟩ := List.forall_mem_cons.mp h
      refine (definition_plain value hfirst key.name around).bind fun argument hargument => ?_
      refine namedDefinitions_plain rest hrest around fun entry hentry => ?_
      obtain rfl | hentry := Assoc.mem_put hentry
      · exact hargument
      · exact hfound entry hentry

end

end

end Reading

end RecordRecipe
