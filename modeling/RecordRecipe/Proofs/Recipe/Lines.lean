import RecordRecipe.Proofs.Assoc
import RecordRecipe.Proofs.Recipe.Settled
import RecordRecipe.Recipe.Source

/-!
# Lines behind aliases

Reading a recipe records lines and raises errors at lines. All of them are those of the settled
nodes: what is reached through an alias counts as written where the innermost construct around the
alias is. Two checks are an exception: a key that an object may not have and a text that is none are
reported at the first line when the object itself is reached through an alias. The result for
declarations that have been collected is `Recipe.ofDeclarations_settles`.
-/

namespace RecordRecipe

open Yaml (Node)

namespace Yaml.Node

/-- A node is another one, or lies in it as an item or as the value under a key. -/
inductive PartOf (part : Node) : Node → Prop
  | whole : PartOf part part
  | item {line : Option Nat} {items : List Node} {item : Node} (hitem : item ∈ items)
      (h : PartOf part item) : PartOf part (.sequence line items)
  | value {line : Option Nat} {entries : List (Node × Node)} {entry : Node × Node}
      (hentry : entry ∈ entries) (h : PartOf part entry.2) : PartOf part (.mapping line entries)

/-- All parts of a node satisfy a property. -/
def Within (within : Node → Prop) (node : Node) : Prop := ∀ part, part.PartOf node → within part

namespace Within

variable {within : Node → Prop} {line : Option Nat}

theorem items {items : List Node} (h : (sequence line items).Within within) :
    ∀ item ∈ items, item.Within within :=
  fun _ hitem part hpart => h part (.item hitem hpart)

theorem values {entries : List (Node × Node)} (h : (mapping line entries).Within within) :
    ∀ entry ∈ entries, entry.2.Within within :=
  fun _ hentry part hpart => h part (.value hentry hpart)

end Within

/-- A part in a node has the line of one of both, or neither has a line. -/
theorem lineOr_lineOr (part node : Node) :
    (∃ line, (part.line? = some line ∨ node.line? = some line) ∧
      ∀ around, part.lineOr (node.lineOr around) = line) ∨
    node.line? = none ∧ ∀ around, part.lineOr (node.lineOr around) = around := by
  unfold lineOr
  cases hpart : part.line? with
  | some line => exact .inl ⟨line, .inl rfl, fun _ => rfl⟩
  | none =>
      cases hnode : node.line? with
      | some line => exact .inl ⟨line, .inr rfl, fun _ => rfl⟩
      | none => exact .inr ⟨rfl, fun _ => rfl⟩

end Yaml.Node

/-- A complaint of the two checks that know no line but the node's own. -/
inductive Declaration.Complains (file : String) (node : Node) (fault : RecipeFault) : Prop
  | key (kind : DeclarationKind)
      (h : Declaration.checkKeys file kind node = .error (fault.errorAt file 1))
  | text (key : String) (h : Declaration.textUnder file node key = .error (fault.errorAt file 1))

/-- Two results are the same, or errors that differ in their lines: a check complains about a node
that has no line, at the first line instead of another. -/
inductive Settles (within : Node → Prop) {α : Type} : Except Error α → Except Error α → Prop
  | same (result : Except Error α) : Settles within result result
  | astray {file : String} {node : Node} {fault : RecipeFault} (line : Nat) (hwithin : within node)
      (hnode : node.line? = none) (hfault : Declaration.Complains file node fault) :
      Settles within (.error (fault.errorAt file 1)) (.error (fault.errorAt file line))

namespace Settles

variable {within : Node → Prop} {α β : Type}

theorem bind {first second : Except Error α} {next other : α → Except Error β}
    (hfirst : Settles within first second) (hnext : ∀ a, Settles within (next a) (other a)) :
    Settles within (first >>= next) (second >>= other) := by
  cases hfirst with
  | same =>
      cases first with
      | ok a => exact hnext a
      | error error => exact .same _
  | astray line hwithin hnode hfault => exact .astray line hwithin hnode hfault

theorem map {first second : Except Error α} (h : Settles within first second) (f : α → β) :
    Settles within (first.map f) (second.map f) := by
  cases h with
  | same => exact .same _
  | astray line hwithin hnode hfault => exact .astray line hwithin hnode hfault

theorem imp {other : Node → Prop} {first second : Except Error α}
    (h : Settles within first second) (himp : ∀ node, within node → other node) :
    Settles other first second := by
  cases h with
  | same => exact .same _
  | astray line hwithin hnode hfault => exact .astray line (himp _ hwithin) hnode hfault

end Settles

namespace Declaration

variable {within : Node → Prop} {file : String} {node : Node} {around : Nat}

/-- The check of keys, which names the key that it complains about. -/
def keyCheck (kind : DeclarationKind) (node : Node) : Except (RecipeFault × Node) Unit :=
  match (node.entries?.getD []).find? fun entry => !kind.keys.contains entry.1.name with
  | none => .ok ()
  | some (key, _) => .error (.unexpectedKey key.name kind.key, key)

/-- The check of a text, which names the value that it complains about. -/
def textCheck (node : Node) (key : String) : Except (RecipeFault × Node) (Option String) :=
  match node.get? key with
  | none => .ok none
  | some value =>
      if value.isNull then .ok none
      else match value.text? with
        | some content => .ok (some content)
        | none => .error (.notText key value.typeName, value)

/-- Report a complaint at the line of the part that it is about, or else at a given one. -/
def report {α : Type} (file : String) (line : Nat) (check : Except (RecipeFault × Node) α) :
    Except Error α :=
  check.mapError fun complaint => complaint.1.errorAt file (complaint.2.lineOr line)

theorem checkKeys_eq (kind : DeclarationKind) :
    checkKeys file kind node = report file (node.lineOr 1) (keyCheck kind node) := by
  rw [checkKeys, keyCheck]
  cases (node.entries?.getD []).find? fun entry => !kind.keys.contains entry.1.name <;> rfl

theorem textUnder_eq (key : String) :
    textUnder file node key = report file (node.lineOr 1) (textCheck node key) := by
  rw [textUnder, textCheck]
  cases node.get? key with
  | none => rfl
  | some value =>
      dsimp only
      cases value.isNull <;> cases value.text? <;> rfl

/-- Keys that a settled node may not have are reported at its line. -/
theorem checkKeys_settled (kind : DeclarationKind) :
    checkKeys file kind (node.settled .object around) =
      report file (node.lineOr around) (keyCheck kind node) := by
  cases node with
  | scalar | sequence => rfl
  | mapping line? entries =>
      rw [checkKeys, keyCheck, Node.settled, Node.settledEntries_eq_map]
      simp only [Node.entries?, Option.getD_some, List.find?_map, Function.comp_def,
        Node.name_settled]
      cases entries.find? fun entry => !kind.keys.contains entry.1.name with
      | none => rfl
      | some entry => simp only [Option.map_some, Node.name_settled, Node.lineOr_settled]; rfl

/-- A text that is none in a settled node is reported at its line. -/
theorem textUnder_settled (key : String) :
    textUnder file (node.settled .object around) key =
      report file (node.lineOr around) (textCheck node key) := by
  rw [textUnder, textCheck, Node.get?_settled]
  cases node.get? key with
  | none => rfl
  | some value =>
      simp only [Option.map_some, Node.isNull_settled, Node.text?_settled, Node.typeName_settled,
        Node.lineOr_settled]
      cases value.isNull <;> cases value.text? <;> rfl

theorem report_error {α : Type} {line : Nat} {fault : RecipeFault} {part : Node} :
    report file line (.error (fault, part)) =
      (.error (fault.errorAt file (part.lineOr line)) : Except Error α) := rfl

/-- A complaint stands at the line of the settled part, or astray. -/
theorem report_settles {α : Type} {check : Except (RecipeFault × Node) α} (hwithin : within node)
    (hcomplains : ∀ fault part, check = .error (fault, part) →
      report file (node.lineOr 1) check = .error (fault.errorAt file 1) →
      Complains file node fault) :
    Settles within (report file (node.lineOr 1) check)
      (report file (node.lineOr around) check) := by
  cases check with
  | ok a => exact .same _
  | error complaint =>
      obtain ⟨fault, part⟩ := complaint
      -- The line that a check falls back to matters only if neither node has one.
      obtain ⟨line, -, hline⟩ | ⟨hnode, hline⟩ := Node.lineOr_lineOr part node
      · rw [report_error, report_error, hline, hline]
        exact .same _
      · have hreport (around : Nat) : report file (node.lineOr around) (.error (fault, part)) =
            (.error (fault.errorAt file around) : Except Error α) := by
          rw [report_error, hline]
        rw [hreport, hreport]
        exact .astray around hwithin hnode (hcomplains fault part rfl (hreport 1))

theorem checkKeys_settles (hwithin : within node) (kind : DeclarationKind) :
    Settles within (checkKeys file kind node)
      (checkKeys file kind (node.settled .object around)) := by
  rw [checkKeys_eq, checkKeys_settled]
  exact report_settles hwithin fun _ _ _ h => .key kind ((checkKeys_eq kind).trans h)

theorem textUnder_settles (hwithin : within node) (key : String) :
    Settles within (textUnder file node key)
      (textUnder file (node.settled .object around) key) := by
  rw [textUnder_eq, textUnder_settled]
  exact report_settles hwithin fun _ _ _ h => .text key ((textUnder_eq key).trans h)

end Declaration

namespace Reading

variable {within : Node → Prop} {α β : Type}

/-- One reading follows another: it keeps the same groups and gives the same result, or a check
complains astray. -/
def Settles (within : Node → Prop) (reading other : Reading α) : Prop :=
  ∀ groups, (reading groups).2 = (other groups).2 ∧
    RecordRecipe.Settles within (reading groups).1 (other groups).1

namespace Settles

theorem refl (reading : Reading α) : Settles within reading reading := fun _ => ⟨rfl, .same _⟩

theorem lift {result other : Except Error α} (h : RecordRecipe.Settles within result other) :
    Settles within (Action.lift result) (Action.lift other) := fun _ => ⟨rfl, h⟩

theorem bind {first second : Reading α} {next other : α → Reading β}
    (hfirst : Settles within first second) (hnext : ∀ a, Settles within (next a) (other a)) :
    Settles within (first >>= next) (second >>= other) := by
  intro groups
  obtain ⟨hgroups, hresult⟩ := hfirst groups
  rw [Action.bind_apply, Action.bind_apply]
  generalize first groups = run at hgroups hresult
  generalize second groups = otherRun at hgroups hresult
  obtain ⟨result, middle⟩ := run
  obtain ⟨otherResult, otherMiddle⟩ := otherRun
  obtain rfl : middle = otherMiddle := hgroups
  cases hresult with
  | same =>
      cases result with
      | ok a => exact hnext a middle
      | error error => exact ⟨rfl, .same _⟩
  | astray line hwithin hnode hfault => exact ⟨rfl, .astray line hwithin hnode hfault⟩

theorem forEach {body other : α → Reading Unit} {items : List α}
    (h : ∀ a, Settles within (body a) (other a)) :
    Settles within (Action.forEach body items) (Action.forEach other items) := by
  induction items with
  | nil => exact refl _
  | cons first rest ih => exact (h first).bind fun _ => ih

/-- A frame that knows a line changes nothing about an error that has one. -/
theorem orAtLine {reading other : Reading α} (h : Settles within reading other) (file : String)
    (line : Nat) :
    Settles within (reading.mapError (Error.orAtLine file line))
      (other.mapError (Error.orAtLine file line)) := by
  intro groups
  obtain ⟨hgroups, hresult⟩ := h groups
  unfold Action.mapError
  generalize reading groups = run at hgroups hresult
  generalize other groups = otherRun at hgroups hresult
  obtain ⟨result, last⟩ := run
  obtain ⟨otherResult, otherLast⟩ := otherRun
  obtain rfl : last = otherLast := hgroups
  cases hresult with
  | same => exact ⟨by cases result <;> rfl, .same _⟩
  | astray line hwithin hnode hfault => exact ⟨rfl, .astray line hwithin hnode hfault⟩

end Settles

/-- The groups that one source finds follow those of another. -/
def GroupsFollow (within : Node → Prop) (groups others : GroupSource) : Prop :=
  ∀ name, Settles within (groups name) (others name)

/-- A number of rows is read from the value of a node alone. -/
theorem count_settled {file : String} {line around : Nat} {node : Node} {role : Role} :
    count file line (node.settled role around) = count file line node := by
  rw [count, count, Node.value?_settled, Node.typeName_settled]

theorem optionalCount_settled {file : String} {around : Nat} {node : Node} :
    optionalCount file (node.lineOr around) (node.settled .object around) =
      optionalCount file (node.lineOr around) node := by
  rw [optionalCount, optionalCount, Node.get?_settled]
  cases node.get? "count" with
  | none => rfl
  | some value =>
      simp only [Option.map_some, Node.isNull_settled, Node.lineOr_settled, count_settled]

theorem tableName_settles {file : String} {line around : Nat} {node : Node}
    (hwithin : within node) :
    RecordRecipe.Settles within (tableName file line node)
      (tableName file line (node.settled .object around)) :=
  (Declaration.textUnder_settles hwithin "object").bind fun _ => .same _

section

variable {groups others : GroupSource} (hgroups : GroupsFollow within groups others)

include hgroups

theorem groupFields_settles (file : String) (line : Nat) (names : List String) :
    Settles within (groupFields groups file line names) (groupFields others file line names) := by
  induction names with
  | nil => exact .refl _
  | cons name rest ih =>
      refine ((hgroups name).orAtLine file line).bind fun group => ?_
      have hrest : Settles within (do
          let fields ← groupFields groups file line rest
          return group.fields ++ fields) (do
          let fields ← groupFields others file line rest
          return group.fields ++ fields) := ih.bind fun _ => .refl _
      dsimp only
      split
      · exact (Settles.refl _).bind fun _ => hrest
      · exact hrest

theorem includedFields_settles {file : String} {around : Nat} {node : Node}
    (hwithin : within node) :
    Settles within (includedFields groups file (node.lineOr around) node)
      (includedFields others file (node.lineOr around) (node.settled .object around)) := by
  have hline :
      ((node.settled .object around).get? "include").map (Node.lineOr (node.lineOr around)) =
        (node.get? "include").map (Node.lineOr (node.lineOr around)) := by
    rw [Node.get?_settled, Option.map_map]
    congr 1
    funext value
    exact Node.lineOr_settled _
  refine (Settles.lift (Declaration.textUnder_settles hwithin "include")).bind fun names => ?_
  split
  · exact .refl _
  · rw [hline]
    exact groupFields_settles hgroups file _ _

theorem template_settles {file : String} {around : Nat} {node : Node}
    {ownFields settledFields : Reading (List Field)}
    {friends settledFriends : Reading (List Template)} (hwithin : within node)
    (hfields : Settles within ownFields settledFields)
    (hfriends : Settles within friends settledFriends) :
    Settles within (template groups file (node.lineOr around) node ownFields friends)
      (template others file (node.lineOr around) (node.settled .object around) settledFields
        settledFriends) := by
  refine (Settles.lift (Declaration.checkKeys_settles hwithin .template)).bind fun _ => ?_
  refine (Settles.lift (tableName_settles hwithin)).bind fun table => ?_
  refine (Settles.lift (Declaration.textUnder_settles hwithin "nickname")).bind fun nickname => ?_
  refine (includedFields_settles hgroups hwithin).bind fun included => ?_
  refine hfields.bind fun own => hfriends.bind fun friends => ?_
  rw [optionalCount_settled]
  exact .refl _

end

mutual

/-- A template is read at the lines of its settled node, whatever line is given for that. -/
theorem object_settles {groups others : GroupSource} (hgroups : GroupsFollow within groups others)
    (file : String) (around line : Nat) : (node : Node) → node.Within within →
    Settles within (object groups file around node)
      (object others file line (node.settled .object around))
  | .mapping _ entries, h =>
      template_settles hgroups (h _ .whole)
        (fieldsUnder_settles hgroups file _ around _ entries h.values)
        (friendsUnder_settles hgroups file _ around _ entries h.values)
  | .scalar _ _ _, _ | .sequence _ _, _ => .refl _

theorem objects_settles {groups others : GroupSource} (hgroups : GroupsFollow within groups others)
    (file : String) (around line : Nat) : (nodes : List Node) →
    (∀ node ∈ nodes, node.Within within) →
    Settles within (objects groups file around nodes)
      (objects others file line (Node.settledItems .object around nodes))
  | [], _ => .refl _
  | first :: rest, h => by
      obtain ⟨hfirst, hrest⟩ := List.forall_mem_cons.mp h
      exact (object_settles hgroups file around line first hfirst).bind fun _ =>
        (objects_settles hgroups file around line rest hrest).bind fun _ => .refl _

theorem friendsUnder_settles {groups others : GroupSource}
    (hgroups : GroupsFollow within groups others) (file : String) (here around line : Nat) :
    (entries : List (Node × Node)) → (∀ entry ∈ entries, entry.2.Within within) →
    Settles within (friendsUnder groups file here entries)
      (friendsUnder others file line (Node.settledEntries .object here around entries))
  | [], _ => .refl _
  | (key, value) :: rest, h => by
      obtain ⟨hvalue, hrest⟩ := List.forall_mem_cons.mp h
      rw [Node.settledEntries, friendsUnder, friendsUnder, Node.content?_settled]
      split
      next hkey =>
        rw [hkey]
        exact friends_settles hgroups file here line value hvalue
      next => exact friendsUnder_settles hgroups file here around line rest hrest

theorem friends_settles {groups others : GroupSource} (hgroups : GroupsFollow within groups others)
    (file : String) (around line : Nat) : (node : Node) → node.Within within →
    Settles within (friends groups file around node)
      (friends others file line (node.settled .friends around))
  | .sequence _ items, h => objects_settles hgroups file _ _ items h.items
  | .mapping _ _, _ | .scalar _ _ _, _ => .refl _

theorem fieldsUnder_settles {groups others : GroupSource}
    (hgroups : GroupsFollow within groups others) (file : String) (here around line : Nat) :
    (entries : List (Node × Node)) → (∀ entry ∈ entries, entry.2.Within within) →
    Settles within (fieldsUnder groups file here entries)
      (fieldsUnder others file line (Node.settledEntries .object here around entries))
  | [], _ => .refl _
  | (key, value) :: rest, h => by
      obtain ⟨hvalue, hrest⟩ := List.forall_mem_cons.mp h
      rw [Node.settledEntries, fieldsUnder, fieldsUnder, Node.content?_settled]
      split
      next hkey =>
        rw [hkey]
        exact fields_settles hgroups file here line value hvalue
      next => exact fieldsUnder_settles hgroups file here around line rest hrest

theorem fields_settles {groups others : GroupSource} (hgroups : GroupsFollow within groups others)
    (file : String) (around line : Nat) : (node : Node) → node.Within within →
    Settles within (fields groups file around node)
      (fields others file line (node.settled .fields around))
  | .mapping _ entries, h => fieldEntries_settles hgroups file _ around _ entries h.values
  | .sequence _ _, _ | .scalar _ _ _, _ => .refl _

theorem fieldEntries_settles {groups others : GroupSource}
    (hgroups : GroupsFollow within groups others) (file : String) (here around line : Nat) :
    (entries : List (Node × Node)) → (∀ entry ∈ entries, entry.2.Within within) →
    Settles within (fieldEntries groups file here entries)
      (fieldEntries others file line (Node.settledEntries .fields here around entries))
  | [], _ => .refl _
  | (key, value) :: rest, h => by
      obtain ⟨hvalue, hrest⟩ := List.forall_mem_cons.mp h
      -- What comes behind the check for a definition is the same whether the check fails or not.
      have hread := (definition_settles hgroups file key.name (key.lineOr here) (key.lineOr here)
        value hvalue).bind fun found =>
          (fieldEntries_settles hgroups file here around line rest hrest).bind fun others =>
            Settles.refl (pure (Field.mk key.name found file (value.lineOr (key.lineOr here)) ::
              others))
      rw [Node.settledEntries, fieldEntries, fieldEntries]
      simp only [Node.lineOr_settled, Node.name_settled, Node.isNull_settled]
      split
      · exact (Settles.refl _).bind fun _ => hread
      · exact hread

/-- A definition is read at the lines of its settled node, whatever line is given for that. -/
theorem definition_settles {groups others : GroupSource}
    (hgroups : GroupsFollow within groups others) (file name : String) (around line : Nat) :
    (node : Node) → node.Within within →
    Settles within (definition groups file name around node)
      (definition others file name line (node.settled .value around))
  | .scalar _ _ _, _ => .refl _
  | .mapping line? entries, h => by
      rw [Node.settled, definition, definition, Node.describesRecord_settledEntries,
        Role.ofMapping]
      split
      next hrecord =>
        exact (template_settles hgroups (h _ .whole)
          (fieldsUnder_settles hgroups file _ around _ entries h.values)
          (friendsUnder_settles hgroups file _ around _ entries h.values)).bind fun _ => .refl _
      next hrecord => exact call_settles hgroups file name _ around entries h.values
  | .sequence line? [item], h => by
      rw [Node.settled, Node.settledItems, Node.settledItems, definition, definition]
      simp only [Node.isSome_entries?_settled]
      split
      · exact definition_settles hgroups file name (line?.getD around) _ item
          (h.items item List.mem_cons_self)
      · exact .refl _
  | .sequence _ [], _ => .refl _
  | .sequence _ (_ :: _ :: _), _ => .refl _

theorem call_settles {groups others : GroupSource} (hgroups : GroupsFollow within groups others)
    (file name : String) (here around : Nat) : (entries : List (Node × Node)) →
    (∀ entry ∈ entries, entry.2.Within within) →
    Settles within (call groups file name here entries)
      (call others file name here (Node.settledEntries .call here around entries))
  | [], _ => .refl _
  | [(function, given)], h => by
      rw [Node.settledEntries, Node.settledEntries, call, call, Node.name_settled]
      exact (arguments_settles hgroups file function.name here given
        (h _ List.mem_cons_self)).bind fun _ => .refl _
  | first :: second :: rest, _ => by
      -- The message names all keys, which settling leaves as they are.
      have hkeys := Node.keys_settledEntries .call here around (first :: second :: rest)
      change Settles within _ (failAt file here (.extraKeys name
        ((Node.settledEntries .call here around (first :: second :: rest)).filterMap _)))
      rw [hkeys]
      exact .refl _

theorem arguments_settles {groups others : GroupSource}
    (hgroups : GroupsFollow within groups others) (file function : String) (around : Nat) :
    (node : Node) → node.Within within →
    Settles within (arguments groups file function around node)
      (arguments others file function around (node.settled .arguments around))
  | .sequence _ items, h =>
      (definitions_settles hgroups file function around around items h.items).bind
        fun _ => .refl _
  | .mapping _ entries, h =>
      (namedDefinitions_settles hgroups file _ around around entries h.values []).bind
        fun _ => .refl _
  | .scalar _ _ _, _ => .refl _

theorem definitions_settles {groups others : GroupSource}
    (hgroups : GroupsFollow within groups others) (file function : String) (around line : Nat) :
    (nodes : List Node) → (∀ node ∈ nodes, node.Within within) →
    Settles within (definitions groups file function around nodes)
      (definitions others file function line (Node.settledItems .value around nodes))
  | [], _ => .refl _
  | first :: rest, h => by
      obtain ⟨hfirst, hrest⟩ := List.forall_mem_cons.mp h
      exact (definition_settles hgroups file function around line first hfirst).bind fun _ =>
        (definitions_settles hgroups file function around line rest hrest).bind fun _ => .refl _

theorem namedDefinitions_settles {groups others : GroupSource}
    (hgroups : GroupsFollow within groups others) (file : String) (here around line : Nat) :
    (entries : List (Node × Node)) → (∀ entry ∈ entries, entry.2.Within within) →
    (found : Assoc Definition) →
    Settles within (namedDefinitions groups file around entries found)
      (namedDefinitions others file line
        (Node.settledEntries .arguments here around entries) found)
  | [], _, _ => .refl _
  | (key, value) :: rest, h, found => by
      obtain ⟨hvalue, hrest⟩ := List.forall_mem_cons.mp h
      rw [Node.settledEntries, namedDefinitions, namedDefinitions, Node.name_settled]
      exact (definition_settles hgroups file key.name around line value hvalue).bind
        fun argument => namedDefinitions_settles hgroups file here around line rest hrest _

end

end Reading

/-- A declaration whose parts all have lines. One that is an alias itself counts as written on the
first line. -/
def Declaration.settled (declaration : Declaration) : Declaration :=
  { declaration with node := declaration.node.settled .object 1 }

namespace Reading

/-- Declarations under their names, settled. -/
def settledGroups (declared : Assoc Declaration) : Assoc Declaration :=
  declared.map fun entry => (entry.1, entry.2.settled)

variable {declared : Assoc Declaration}

theorem groupBody_settles {groups others : GroupSource}
    (hgroups : GroupsFollow within groups others) (name : String) {declaration : Declaration}
    (h : declaration.node.Within within) :
    Settles within (groupBody groups name declaration)
      (groupBody others name declaration.settled) := by
  obtain ⟨file, node⟩ := declaration
  refine (Settles.lift (Declaration.checkKeys_settles (h node .whole) .group)).bind fun _ => ?_
  simp only [Node.lineOr_settled]
  refine (includedFields_settles hgroups (h node .whole)).bind fun included => ?_
  refine Settles.bind ?_ fun _ => .refl _
  cases node with
  | scalar | sequence => exact .refl _
  | mapping line? entries => exact fieldsUnder_settles hgroups file _ 1 _ entries h.values

/-- Groups of settled declarations are read at the same lines. -/
theorem group_settles (h : ∀ entry ∈ declared, entry.2.node.Within within) (depth : Nat)
    (path : List String) :
    GroupsFollow within (group declared depth path)
      (group (settledGroups declared) depth path) := by
  -- The depth bounds the chain of groups that include each other.
  induction depth generalizing path with
  | zero => exact fun name => .refl _
  | succ depth ih =>
      intro name
      refine (Settles.refl _).bind fun known => ?_
      split
      · exact .refl _
      · rw [settledGroups, Assoc.find?_map]
        cases hfound : declared.find? name with
        | none => exact .refl _
        | some declaration =>
            have hnode := h _ (Assoc.mem_of_find? hfound)
            have hread := (groupBody_settles (ih (name :: path)) name hnode).bind
              fun found => Settles.refl (do
                Action.modify (Assoc.put name found)
                return found)
            have hline : declaration.settled.node.lineOr 1 = declaration.node.lineOr 1 :=
              Node.lineOr_settled 1
            simp only [Option.map_some, hline]
            split
            · exact (Settles.refl _).bind fun _ => hread
            · exact hread

theorem findGroup_settles (h : ∀ entry ∈ declared, entry.2.node.Within within) :
    GroupsFollow within (findGroup declared) (findGroup (settledGroups declared)) := by
  unfold findGroup
  rw [show (settledGroups declared).length = declared.length from List.length_map _]
  exact group_settles h _ []

theorem templates_settles {groups others : GroupSource}
    (hgroups : GroupsFollow within groups others) {declarations : List Declaration}
    (h : ∀ declaration ∈ declarations, declaration.node.Within within) :
    Settles within (templates groups declarations)
      (templates others (declarations.map Declaration.settled)) := by
  induction declarations with
  | nil => exact .refl _
  | cons first rest ih =>
      obtain ⟨hfirst, hrest⟩ := List.forall_mem_cons.mp h
      exact (object_settles hgroups first.file 1 1 first.node hfirst).bind fun _ =>
        (ih hrest).bind fun _ => .refl _

theorem remainingGroups_settles (h : ∀ entry ∈ declared, entry.2.node.Within within) :
    Settles within (remainingGroups declared) (remainingGroups (settledGroups declared)) := by
  have hkeys : (settledGroups declared).keys = declared.keys := by
    simp [settledGroups, Assoc.keys]
  rw [remainingGroups, remainingGroups, hkeys]
  exact .forEach fun name => (findGroup_settles h name).bind fun _ => .refl _

end Reading

namespace Declarations

/-- Declarations with their nodes settled. -/
def settled (declarations : Declarations) : Declarations :=
  { declarations with
    groups := Reading.settledGroups declarations.groups
    templates := declarations.templates.map Declaration.settled }

/-- The reading of all templates and then of all groups. -/
def readAll (declarations : Declarations) : Reading (List Template) := do
  let templates ← Reading.templates (Reading.findGroup declarations.groups) declarations.templates
  Reading.remainingGroups declarations.groups
  return templates

/-- A node lies in a template or in a group that is declared. -/
def Has (declarations : Declarations) (part : Node) : Prop :=
  (∃ entry ∈ declarations.groups, part.PartOf entry.2.node) ∨
    ∃ declaration ∈ declarations.templates, part.PartOf declaration.node

theorem readAll_settles (declarations : Declarations) :
    Reading.Settles declarations.Has declarations.readAll declarations.settled.readAll := by
  have hgroups : ∀ entry ∈ declarations.groups, entry.2.node.Within declarations.Has :=
    fun entry hentry _ hpart => .inl ⟨entry, hentry, hpart⟩
  have htemplates :
      ∀ declaration ∈ declarations.templates, declaration.node.Within declarations.Has :=
    fun declaration hdeclaration _ hpart => .inr ⟨declaration, hdeclaration, hpart⟩
  exact (Reading.templates_settles (Reading.findGroup_settles hgroups) htemplates).bind fun _ =>
    (Reading.remainingGroups_settles hgroups).bind fun _ => .refl _

end Declarations

theorem Recipe.ofDeclarations_eq (file : String) (declarations : Declarations) :
    Recipe.ofDeclarations file declarations = (declarations.readAll []).1.map fun templates =>
      { file, options := declarations.options, groups := (declarations.readAll []).2,
        templates } := by
  unfold Recipe.ofDeclarations
  rw [← Declarations.readAll]
  dsimp only
  generalize declarations.readAll [] = run
  obtain ⟨result, groups⟩ := run
  cases result <;> rfl

/-- The templates and groups of settled declarations are the same, or a check complains astray about
a node of a declaration. -/
theorem Recipe.ofDeclarations_settles (file : String) (declarations : Declarations) :
    Settles declarations.Has (Recipe.ofDeclarations file declarations)
      (Recipe.ofDeclarations file declarations.settled) := by
  obtain ⟨hgroups, hresult⟩ := declarations.readAll_settles []
  rw [Recipe.ofDeclarations_eq, Recipe.ofDeclarations_eq, hgroups]
  exact hresult.map _

end RecordRecipe
