import RecordRecipe.Proofs.Result
import RecordRecipe.Recipe.Group

/-!
# The groups that a reader asks for

Templates and groups are read along the structure of a node, and groups that lie elsewhere are asked
for by name. Which names these are shows in the node: `objectNames` lists those of a template in the
order in which they are asked for, whatever the groups turn out to be.

`Asks names body` is the shape of such a reading. It asks for one name after the other, and between
two of them it may give up with an error of its own. That every reader has this shape is proved
once, for all readers together; what holds of a reader then follows by induction on the shape.
-/

namespace RecordRecipe

open Yaml (Node)

/-- An error that does not say of any group that it includes itself. -/
def Error.Ordinary (error : Error) : Prop :=
  ∀ name, error.message ≠ (RecipeFault.recursiveGroup name).message

@[simp] theorem Error.message_atLine (error : Error) (file : String) (line : Nat) :
    (error.atLine file line).message = error.message := by
  cases error <;> rfl

@[simp] theorem Error.message_orAtLine (error : Error) (file : String) (line : Nat) :
    (error.orAtLine file line).message = error.message := by
  cases error <;> rfl

namespace RecipeFault

theorem message_recursiveGroup (name : String) :
    (recursiveGroup name).message = "macro \x60" ++ name ++ "\x60 includes itself" := rfl

/-- The message tells which group it is. -/
theorem recursiveGroup_message_inj {name other : String}
    (h : (recursiveGroup name).message = (recursiveGroup other).message) : name = other := by
  rw [message_recursiveGroup, message_recursiveGroup] at h
  have hlist := congrArg String.toList h
  simp only [String.toList_append] at hlist
  have hname := List.append_cancel_right hlist
  exact String.toList_inj.mp (List.append_cancel_left hname)

theorem toString_text (text : String) : toString text = text := rfl

/-- All other messages begin in another way, but for one. -/
theorem head?_message {fault : RecipeFault} (h : ∀ name, fault ≠ .recursiveGroup name)
    (hempty : ∀ name, fault ≠ .emptyGroup name) : fault.message.toList.head? ≠ some 'm' := by
  cases fault with
  | recursiveGroup name => exact absurd rfl (h name)
  | emptyGroup name => exact absurd rfl (hempty name)
  | notAList | noTable | fieldsNotAMapping => exact fun hhead => nomatch hhead
  | _ =>
    delta message
    dsimp only
    simp only [toString_text, String.toList_append]
    exact fun hhead => nomatch hhead

/-- A fault of another kind does not say of a group that it includes itself. -/
theorem error_ordinary {fault : RecipeFault} (h : ∀ name, fault ≠ .recursiveGroup name) :
    fault.error.Ordinary := by
  intro name hmessage
  have htext : fault.message.toList =
      "macro \x60".toList ++ name.toList ++ "\x60 includes itself".toList := by
    rw [← String.toList_append, ← String.toList_append, ← message_recursiveGroup]
    exact congrArg String.toList hmessage
  by_cases hempty : ∃ other, fault = .emptyGroup other
  · -- Both messages begin alike, so their ends are compared.
    obtain ⟨other, rfl⟩ := hempty
    have hlast := congrArg List.getLast? htext
    rw [show (emptyGroup other).message =
      "macro \x60" ++ other ++ "\x60 does not declare any fields" from rfl] at hlast
    rw [String.toList_append, List.getLast?_append_of_ne_nil _ (by decide),
      List.getLast?_append_of_ne_nil _ (by decide)] at hlast
    exact nomatch hlast
  · refine head?_message h (fun other hother => hempty ⟨other, hother⟩) ?_
    rw [htext]
    rfl

theorem errorAt_ordinary {fault : RecipeFault} {file : String} {line : Nat}
    (h : ∀ name, fault ≠ .recursiveGroup name) : (fault.errorAt file line).Ordinary := by
  intro name hmessage
  rw [errorAt, Error.message_atLine] at hmessage
  exact error_ordinary h name hmessage

end RecipeFault

/-- An expression that cannot be read is told of with its text at the end. -/
theorem Expr.Fault.toError_ordinary (fault : Expr.Fault) (definition file : String) (line : Nat) :
    ((fault.toError definition).atLine file line).Ordinary := by
  intro name hmessage
  rw [Error.message_atLine] at hmessage
  have hlast := congrArg (fun text => text.toList.getLast?) hmessage
  have htext : (fault.toError definition).message =
      fault.text ++ " in \x60" ++ Text.trim definition ++ "\x60" := rfl
  simp only [htext, RecipeFault.message_recursiveGroup, String.toList_append] at hlast
  rw [List.getLast?_append_of_ne_nil _ (by decide),
    List.getLast?_append_of_ne_nil _ (by decide)] at hlast
  exact nomatch hlast

/-- An error of a check is none of a group that includes itself. -/
abbrev Checks {α : Type} (result : Except Error α) : Prop := Refuses Error.Ordinary result

namespace Declaration

variable {file : String} {node : Node}

theorem checkKeys_checks {kind : DeclarationKind} : Checks (checkKeys file kind node) := by
  unfold checkKeys
  split
  · trivial
  · exact RecipeFault.errorAt_ordinary nofun

theorem textUnder_checks {key : String} : Checks (textUnder file node key) := by
  unfold textUnder
  split
  · trivial
  · split
    · trivial
    · split
      · trivial
      · exact RecipeFault.errorAt_ordinary nofun

end Declaration

namespace Reading

variable {α β : Type} {file : String} {line around : Nat} {node : Node}

theorem written_checks {value : FieldValue} : Checks (written file line value) := by
  unfold written
  split
  next content =>
    refine Refuses.bind ?_ fun _ => trivial
    unfold checkText
    split
    · trivial
    · exact Expr.Fault.toError_ordinary _ _ _ _
  next => trivial

theorem count_checks : Checks (count file line node) := by
  have hbad (value : String) : Checks (count.bad file line value) :=
    RecipeFault.errorAt_ordinary nofun
  unfold count
  split
  · split
    · exact hbad _
    · trivial
  · split
    · trivial
    · exact hbad _
  · split
    · exact Refuses.except_map_iff.mpr written_checks
    · split
      · trivial
      · exact hbad _
  · exact RecipeFault.errorAt_ordinary nofun

theorem optionalCount_checks : Checks (optionalCount file line node) := by
  unfold optionalCount
  split
  · trivial
  · split
    · trivial
    · exact Refuses.except_map_iff.mpr count_checks

theorem tableName_checks : Checks (tableName file line node) := by
  have hnone : Checks (tableName.noTable file line) := RecipeFault.errorAt_ordinary nofun
  refine Declaration.textUnder_checks.bind fun name => ?_
  split
  · split
    · exact hnone
    · trivial
  · exact hnone

/-- A reading that asks for some groups by their names, one after the other, and gives a value then.
Before it has asked for all of them it may give up. -/
inductive Asks {α : Type} : List String → (GroupSource → Reading α) → Prop where
  | done (a : α) : Asks [] fun _ => pure a
  | refused {names : List String} {error : Error} :
      error.Ordinary → Asks names fun _ => Action.fail error
  | ask {name : String} {rest : List String} {file : String} {line : Nat}
      {next : FieldGroup → GroupSource → Reading α} :
      (∀ group, Asks rest (next group)) →
      Asks (name :: rest) fun groups => do
        let group ← (groups name).mapError (Error.orAtLine file line)
        next group groups

namespace Asks

variable {names more : List String} {body other : GroupSource → Reading α}

theorem congr (h : Asks names body) (hbody : ∀ groups, other groups = body groups) :
    Asks names other :=
  (funext hbody : other = body) ▸ h

theorem lift {result : Except Error α} (h : Checks result) :
    Asks [] fun _ => (Action.lift result : Reading α) := by
  cases result with
  | ok a => exact .done a
  | error error => exact .refused h

theorem failAt {fault : RecipeFault} (h : ∀ name, fault ≠ .recursiveGroup name) :
    Asks names fun _ => (Reading.failAt file line fault : Reading α) :=
  .refused (RecipeFault.errorAt_ordinary h)

/-- One reading after the other asks for the names of both. -/
theorem bind {next : α → GroupSource → Reading β} (h : Asks names body)
    (hnext : ∀ a, Asks more (next a)) :
    Asks (names ++ more) fun groups => body groups >>= fun a => next a groups := by
  induction h with
  | done a => exact hnext a
  | refused hordinary => exact .refused hordinary
  | ask _ ih => exact (Asks.ask ih).congr fun groups => Action.bind_assoc _ _ _

/-- What follows the last name asks for nothing more. -/
theorem bindDone {next : α → GroupSource → Reading β} (h : Asks names body)
    (hnext : ∀ a, Asks [] (next a)) :
    Asks names fun groups => body groups >>= fun a => next a groups := by
  have hboth := h.bind hnext
  rwa [List.append_nil] at hboth

/-- A check before a reading asks for nothing. -/
theorem check {result : Except Error α} {next : α → GroupSource → Reading β}
    (h : Checks result) (hnext : ∀ a, Asks names (next a)) :
    Asks names fun groups => Action.lift result >>= fun a => next a groups :=
  (lift h).bind hnext

theorem ite {c : Prop} [Decidable c] (h : c → Asks names body) (hnot : ¬c → Asks names other) :
    Asks names fun groups => if c then body groups else other groups := by
  by_cases hc : c
  · simpa only [if_pos hc] using h hc
  · simpa only [if_neg hc] using hnot hc

/-- A reading that may be given up before it starts. -/
theorem guarded {c : Prop} [Decidable c] {fault : RecipeFault}
    {next : Unit → GroupSource → Reading α}
    (hfault : ∀ name, fault ≠ .recursiveGroup name) (h : Asks names (next ())) :
    Asks names fun groups =>
      if c then Reading.failAt file line fault >>= fun a => next a groups else next () groups :=
  ite (fun _ => .refused (RecipeFault.errorAt_ordinary hfault)) fun _ => h

end Asks

/-- The names of the groups that a mapping includes. -/
def included (node : Node) : List String :=
  match node.get? "include" with
  | none => []
  | some value => if value.isNull then [] else (value.text?.map listedNames).getD []

mutual

/-- The names of the groups that a template asks for: those that it includes, and those of the
templates in its fields and among its friends. -/
def objectNames : Node → List String
  | .mapping line entries =>
      included (.mapping line entries) ++ (fieldsUnderNames entries ++ friendsUnderNames entries)
  | _ => []

/-- The names that some templates ask for. -/
def objectsNames : List Node → List String
  | [] => []
  | first :: rest => objectNames first ++ objectsNames rest

/-- The names that the templates under `friends` ask for. -/
def friendsUnderNames : List (Node × Node) → List String
  | [] => []
  | (key, value) :: rest =>
      if key.content? = some "friends" then friendsNames value else friendsUnderNames rest

/-- The names that friends ask for. -/
def friendsNames : Node → List String
  | .sequence _ items => objectsNames items
  | _ => []

/-- The names that the fields under `fields` ask for. -/
def fieldsUnderNames : List (Node × Node) → List String
  | [] => []
  | (key, value) :: rest =>
      if key.content? = some "fields" then fieldsNames value else fieldsUnderNames rest

/-- The names that fields ask for. -/
def fieldsNames : Node → List String
  | .mapping _ entries => fieldEntriesNames entries
  | _ => []

/-- The names that the definitions of fields ask for. -/
def fieldEntriesNames : List (Node × Node) → List String
  | [] => []
  | (_, value) :: rest => definitionNames value ++ fieldEntriesNames rest

/-- The names that a definition asks for: those of a template in it, or of the arguments of a
call. -/
def definitionNames : Node → List String
  | .scalar _ _ _ => []
  | .mapping line entries =>
      if describesRecord entries then
        included (.mapping line entries) ++ (fieldsUnderNames entries ++ friendsUnderNames entries)
      else callNames entries
  | .sequence _ [item] => if item.entries?.isSome then definitionNames item else []
  | .sequence _ _ => []

/-- The names that a call asks for. -/
def callNames : List (Node × Node) → List String
  | [(_, given)] => argumentsNames given
  | _ => []

/-- The names that the arguments of a call ask for. -/
def argumentsNames : Node → List String
  | .sequence _ items => definitionsNames items
  | .mapping _ entries => fieldEntriesNames entries
  | .scalar _ _ _ => []

/-- The names that some definitions ask for. -/
def definitionsNames : List Node → List String
  | [] => []
  | first :: rest => definitionNames first ++ definitionsNames rest

end

/-- The names that a group asks for: the groups that it includes, and those of the templates in its
fields. -/
def groupNames (node : Node) : List String :=
  included node ++ fieldsUnderNames (node.entries?.getD [])

/-- The names under `include` are those that the node lists. -/
theorem included_eq {names : Option String}
    (h : Declaration.textUnder file node "include" = .ok names) :
    included node = (names.map listedNames).getD [] := by
  unfold Declaration.textUnder at h
  unfold included
  cases hvalue : node.get? "include" with
  | none =>
      rw [hvalue] at h
      cases h
      rfl
  | some value =>
      rw [hvalue] at h
      dsimp only at h ⊢
      cases hnull : value.isNull with
      | true =>
          rw [hnull, if_pos rfl] at h
          cases h
          rfl
      | false =>
          rw [hnull, if_neg Bool.false_ne_true] at h
          cases hcontent : value.text? with
          | none =>
              rw [hcontent] at h
              cases h
          | some content =>
              rw [hcontent] at h
              cases h
              rfl

theorem groupFields_asks (names : List String) :
    Asks names fun groups => groupFields groups file line names := by
  induction names with
  | nil => exact .done []
  | cons name rest ih =>
      refine .ask fun group => ?_
      exact .guarded nofun (ih.bindDone fun others => .done (group.fields ++ others))

theorem includedFields_asks :
    Asks (included node) fun groups => includedFields groups file line node := by
  unfold includedFields
  have hchecks : Checks (Declaration.textUnder file node "include") :=
    Declaration.textUnder_checks
  cases hnames : Declaration.textUnder file node "include" with
  | error error => exact .refused (hchecks.of_eq_error hnames)
  | ok names =>
      rw [included_eq hnames]
      cases names with
      | none => exact .done []
      | some names => exact groupFields_asks (listedNames names)

theorem template_asks {names more : List String} {ownFields : GroupSource → Reading (List Field)}
    {friends : GroupSource → Reading (List Template)} (hfields : Asks names ownFields)
    (hfriends : Asks more friends) :
    Asks (included node ++ (names ++ more)) fun groups =>
      template groups file line node (ownFields groups) (friends groups) := by
  refine .check Declaration.checkKeys_checks fun _ => ?_
  refine .check tableName_checks fun table => ?_
  refine .check Declaration.textUnder_checks fun nickname => ?_
  refine includedFields_asks.bind fun included => hfields.bind fun own => ?_
  exact hfriends.bindDone fun friends => .check optionalCount_checks fun count =>
    .done (Template.mk table nickname count (included ++ own) friends file line)

mutual

theorem object_asks (file : String) (around : Nat) : (node : Node) →
    Asks (objectNames node) fun groups => object groups file around node
  | .mapping _ entries =>
      template_asks (fieldsUnder_asks file _ entries) (friendsUnder_asks file _ entries)
  | .scalar _ _ _ | .sequence _ _ => .failAt nofun

theorem objects_asks (file : String) (around : Nat) : (nodes : List Node) →
    Asks (objectsNames nodes) fun groups => objects groups file around nodes
  | [] => .done []
  | first :: rest =>
      (object_asks file around first).bind fun template =>
        (objects_asks file around rest).bindDone fun others => .done (template :: others)

theorem friendsUnder_asks (file : String) (around : Nat) : (entries : List (Node × Node)) →
    Asks (friendsUnderNames entries) fun groups => friendsUnder groups file around entries
  | [] => .done []
  | (key, value) :: rest => by
      unfold friendsUnderNames friendsUnder
      by_cases hkey : key.content? = some "friends"
      · simpa only [if_pos hkey] using friends_asks file around value
      · simpa only [if_neg hkey] using friendsUnder_asks file around rest

theorem friends_asks (file : String) (around : Nat) : (node : Node) →
    Asks (friendsNames node) fun groups => friends groups file around node
  | .sequence line items => objects_asks file (line.getD around) items
  | .mapping _ _ | .scalar _ _ _ => by
      unfold friendsNames friends
      exact .ite (fun _ => .done []) fun _ => .failAt nofun

theorem fieldsUnder_asks (file : String) (around : Nat) : (entries : List (Node × Node)) →
    Asks (fieldsUnderNames entries) fun groups => fieldsUnder groups file around entries
  | [] => .done []
  | (key, value) :: rest => by
      unfold fieldsUnderNames fieldsUnder
      by_cases hkey : key.content? = some "fields"
      · simpa only [if_pos hkey] using fields_asks file around value
      · simpa only [if_neg hkey] using fieldsUnder_asks file around rest

theorem fields_asks (file : String) (around : Nat) : (node : Node) →
    Asks (fieldsNames node) fun groups => fields groups file around node
  | .mapping line entries => fieldEntries_asks file (line.getD around) entries
  | .sequence _ _ | .scalar _ _ _ => by
      unfold fieldsNames fields
      exact .ite (fun _ => .done []) fun _ => .failAt nofun

theorem fieldEntries_asks (file : String) (around : Nat) : (entries : List (Node × Node)) →
    Asks (fieldEntriesNames entries) fun groups => fieldEntries groups file around entries
  | [] => .done []
  | (key, value) :: rest => by
      unfold fieldEntriesNames fieldEntries
      refine .guarded nofun ?_
      exact (definition_asks file key.name (key.lineOr around) value).bind fun found =>
        (fieldEntries_asks file around rest).bindDone fun others =>
          .done (Field.mk key.name found file (value.lineOr (key.lineOr around)) :: others)

theorem definition_asks (file name : String) (around : Nat) : (node : Node) →
    Asks (definitionNames node) fun groups => definition groups file name around node
  | .scalar line _ value =>
      .ite (fun _ => .failAt nofun) fun _ => .check written_checks fun found =>
        .done (Definition.value found)
  | .mapping line entries => by
      unfold definitionNames definition
      by_cases hrecord : describesRecord entries
      · simp only [if_pos hrecord]
        exact (template_asks (fieldsUnder_asks file _ entries)
          (friendsUnder_asks file _ entries)).bindDone fun record =>
            .done (Definition.child record file (line.getD around))
      · simpa only [if_neg hrecord] using call_asks file name (line.getD around) entries
  | .sequence line [item] => by
      unfold definitionNames definition
      by_cases hentries : item.entries?.isSome
      · simpa only [if_pos hentries] using definition_asks file name (line.getD around) item
      · simp only [if_neg hentries]
        exact .failAt nofun
  | .sequence _ [] | .sequence _ (_ :: _ :: _) => .failAt nofun

theorem call_asks (file name : String) (here : Nat) : (entries : List (Node × Node)) →
    Asks (callNames entries) fun groups => call groups file name here entries
  | [] | _ :: _ :: _ => by
      unfold callNames call
      exact .failAt nofun
  | [(function, given)] =>
      (arguments_asks file function.name here given).bindDone fun found =>
        .done (Definition.call function.name found.1 found.2 file here)

theorem arguments_asks (file function : String) (around : Nat) : (node : Node) →
    Asks (argumentsNames node) fun groups => arguments groups file function around node
  | .sequence _ items =>
      (definitions_asks file function around items).bindDone fun found => .done (found, [])
  | .mapping _ entries =>
      (namedDefinitions_asks file around entries []).bindDone fun found => .done ([], found)
  | .scalar _ _ _ =>
      .ite (fun _ => .done ([], [])) fun _ =>
        .check written_checks fun found => .done ([Definition.value found], [])

theorem definitions_asks (file function : String) (around : Nat) : (nodes : List Node) →
    Asks (definitionsNames nodes) fun groups => definitions groups file function around nodes
  | [] => .done []
  | first :: rest =>
      (definition_asks file function around first).bind fun argument =>
        (definitions_asks file function around rest).bindDone fun others =>
          .done (argument :: others)

theorem namedDefinitions_asks (file : String) (around : Nat) : (entries : List (Node × Node)) →
    (found : Assoc Definition) →
      Asks (fieldEntriesNames entries) fun groups =>
        namedDefinitions groups file around entries found
  | [], found => .done found
  | (key, value) :: rest, found =>
      (definition_asks file key.name around value).bind fun argument =>
        namedDefinitions_asks file around rest (found.put key.name argument)

end

theorem groupBody_asks (name : String) (declaration : Declaration) :
    Asks (groupNames declaration.node) fun groups => groupBody groups name declaration := by
  obtain ⟨file, node⟩ := declaration
  refine .check Declaration.checkKeys_checks fun _ => ?_
  exact includedFields_asks.bind fun included =>
    (fieldsUnder_asks file _ _).bindDone fun own =>
      .done (FieldGroup.mk name (included ++ own) file (node.lineOr 1))

end Reading

end RecordRecipe
