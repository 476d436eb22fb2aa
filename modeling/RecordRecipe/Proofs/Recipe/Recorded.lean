import RecordRecipe.Proofs.Assoc
import RecordRecipe.Proofs.Recipe.Lines
import RecordRecipe.Proofs.Result

/-!
# Lines that are recorded

Reading records a line with every template, every field, every definition and every group, and
raises errors at lines. None of these lines is made up: `Records` says that all of them come from
the nodes that are read and from the constructs around them. What is reached through an alias has no
lines, and so everything in it is recorded on the line of the construct around the alias:
`Reading.unplaced_liesAround`.
-/

namespace RecordRecipe

open Yaml (Node)

/-- The line of a number of rows that is worked out anew every time. -/
def Count.lines : Count → List Nat
  | fixed _ => []
  | deferred definition => [definition.line]

mutual

/-- All lines that are recorded in a template. -/
def Template.lines : Template → List Nat
  | .mk _ _ count fields friends _ line =>
      line :: (count.elim [] Count.lines ++ (fieldsLines fields ++ templatesLines friends))

/-- All lines that are recorded in some templates. -/
def templatesLines : List Template → List Nat
  | [] => []
  | template :: rest => template.lines ++ templatesLines rest

/-- All lines that are recorded in some fields. -/
def fieldsLines : List Field → List Nat
  | [] => []
  | .mk _ definition _ line :: rest => line :: (definition.lines ++ fieldsLines rest)

/-- All lines that are recorded in a definition. -/
def Definition.lines : Definition → List Nat
  | .value written => [written.line]
  | .call _ positional named _ line => line :: (argumentLines positional ++ namedLines named)
  | .child record _ line => line :: record.lines

/-- All lines that are recorded in arguments by position. -/
def argumentLines : List Definition → List Nat
  | [] => []
  | definition :: rest => definition.lines ++ argumentLines rest

/-- All lines that are recorded in arguments by name. -/
def namedLines : List (String × Definition) → List Nat
  | [] => []
  | (_, definition) :: rest => definition.lines ++ namedLines rest

end

/-- All lines that are recorded in a group. -/
def FieldGroup.lines (group : FieldGroup) : List Nat := group.line :: fieldsLines group.fields

theorem fieldsLines_append (fields others : List Field) :
    fieldsLines (fields ++ others) = fieldsLines fields ++ fieldsLines others := by
  induction fields with
  | nil => rfl
  | cons first rest ih =>
      obtain ⟨name, definition, file, line⟩ := first
      rw [List.cons_append, fieldsLines, fieldsLines, ih, List.cons_append, List.append_assoc]

theorem mem_namedLines {line : Nat} {named : List (String × Definition)} :
    line ∈ namedLines named ↔ ∃ entry ∈ named, line ∈ entry.2.lines := by
  induction named with
  | nil => simp [namedLines]
  | cons first rest ih => simp [namedLines, ih]

namespace Yaml.Node

mutual

/-- The lines of all parts of a node. -/
def lines : Node → List Nat
  | scalar line _ _ => line.toList
  | sequence line items => line.toList ++ itemsLines items
  | mapping line entries => line.toList ++ entriesLines entries

/-- The lines of all parts of some items. -/
def itemsLines : List Node → List Nat
  | [] => []
  | item :: rest => lines item ++ itemsLines rest

/-- The lines of all parts of some entries. -/
def entriesLines : List (Node × Node) → List Nat
  | [] => []
  | (key, value) :: rest => lines key ++ (lines value ++ entriesLines rest)

end

mutual

/-- What an alias stands for has no lines. -/
theorem lines_unplaced : (node : Node) → node.unplaced.lines = []
  | .scalar .. => rfl
  | .sequence _ items => itemsLines_unplaced items
  | .mapping _ entries => entriesLines_unplaced entries

theorem itemsLines_unplaced : (items : List Node) → itemsLines (unplacedItems items) = []
  | [] => rfl
  | item :: rest => by
      rw [unplacedItems, itemsLines, lines_unplaced, itemsLines_unplaced, List.append_nil]

theorem entriesLines_unplaced : (entries : List (Node × Node)) →
    entriesLines (unplacedEntries entries) = []
  | [] => rfl
  | (key, value) :: rest => by
      rw [unplacedEntries, entriesLines, lines_unplaced, lines_unplaced, entriesLines_unplaced]
      rfl

end

variable {node value : Node} {entries : List (Node × Node)} {key : String} {line around : Nat}

theorem mem_lines_of_line? (h : node.line? = some line) : line ∈ node.lines := by
  cases node with
  | scalar => exact Option.mem_toList.mpr h
  | sequence | mapping => exact List.mem_append_left _ (Option.mem_toList.mpr h)

/-- The lines of a key are among those of its mapping. -/
theorem lines_of_mem_entries {entry : Node × Node} (h : entry ∈ entries)
    (hline : line ∈ entry.1.lines) : line ∈ entriesLines entries := by
  induction entries with
  | nil => cases h
  | cons first rest ih =>
      rw [entriesLines]
      obtain rfl | h := List.mem_cons.mp h
      · exact List.mem_append_left _ hline
      · exact List.mem_append_right _ (List.mem_append_right _ (ih h))

theorem lines_of_mem_entries? {entry : Node × Node} (h : entry ∈ node.entries?.getD [])
    (hline : line ∈ entry.1.lines) : line ∈ node.lines := by
  cases node with
  | scalar | sequence => cases h
  | mapping => exact List.mem_append_right _ (lines_of_mem_entries h hline)

theorem lines_of_lookup (h : lookup key entries = some value) (hline : line ∈ value.lines) :
    line ∈ entriesLines entries := by
  induction entries with
  | nil => cases h
  | cons first rest ih =>
      rw [entriesLines]
      refine List.mem_append_right _ (List.mem_append.mpr ?_)
      rw [lookup] at h
      split at h
      · cases h
        exact .inl hline
      · exact .inr (ih h)

/-- The lines of the value under a key are among those of its mapping. -/
theorem lines_of_get? (h : node.get? key = some value) (hline : line ∈ value.lines) :
    line ∈ node.lines := by
  cases node with
  | scalar | sequence => cases h
  | mapping => exact List.mem_append_right _ (lines_of_lookup h hline)

variable {p : Nat → Prop}

/-- A node is on one of its lines or on that of the construct around it. -/
theorem lineOr_of_lines (h : ∀ line ∈ node.lines, p line) (haround : p around) :
    p (node.lineOr around) := by
  unfold lineOr
  cases hline : node.line? with
  | none => exact haround
  | some line => exact h line (mem_lines_of_line? hline)

end Yaml.Node

/-- The line of an error, if it has one. -/
def Error.line? (error : Error) : Option Nat := error.place?.bind Place.line

/-- The line of an error satisfies a property, or a check complains at the first line about a node
that has none. -/
inductive Error.Lies (p : Nat → Prop) (error : Error) : Prop
  | inside (h : ∀ line ∈ error.line?, p line)
  | astray {file : String} {node : Node} {fault : RecipeFault} (hnode : node.line? = none)
      (hfault : Declaration.Complains file node fault) (herror : error = fault.errorAt file 1)

variable {p : Nat → Prop} {file : String} {line around : Nat} {node : Node}

theorem RecipeFault.errorAt_lies {fault : RecipeFault} (h : p line) :
    (fault.errorAt file line).Lies p :=
  .inside fun other hother => by
    obtain rfl : line = other := Option.some.inj hother
    exact h

/-- A frame supplies its line, or an error keeps its own. -/
theorem Error.Lies.orAtLine {error : Error} (h : error.Lies p) (hline : p line) :
    (error.orAtLine file line).Lies p := by
  cases h with
  | astray hnode hfault herror =>
      subst herror
      exact .astray hnode hfault rfl
  | inside h =>
      refine .inside fun found hfound => ?_
      cases error with
      | noEncoder | io =>
          obtain rfl : line = found := Option.some.inj hfound
          exact hline
      | placed kind message place cause =>
          obtain ⟨known, number, field⟩ := place
          cases number with
          | none =>
              obtain rfl : line = found := Option.some.inj hfound
              exact hline
          | some number => exact h found hfound

namespace Declaration

/-- A complaint is reported at a line of the node, or astray. -/
theorem report_lies {α : Type} {check : Except (RecipeFault × Node) α}
    (hnode : ∀ line ∈ node.lines, p line)
    (hpart : ∀ fault part, check = .error (fault, part) → ∀ line ∈ part.lines, p line)
    (hcomplains : ∀ fault part, check = .error (fault, part) →
      report file (node.lineOr 1) check = .error (fault.errorAt file 1) →
      Complains file node fault) :
    Refuses (Error.Lies p) (report file (node.lineOr 1) check) := by
  cases check with
  | ok a => trivial
  | error complaint =>
      obtain ⟨fault, part⟩ := complaint
      -- The line is that of the part or of the node, unless neither has one.
      obtain ⟨line, hfound, hline⟩ | ⟨hnone, hline⟩ := Node.lineOr_lineOr part node
      · rw [report_error, hline]
        refine RecipeFault.errorAt_lies (hfound.elim (fun h => ?_) fun h => ?_)
        · exact hpart fault part rfl line (Node.mem_lines_of_line? h)
        · exact hnode line (Node.mem_lines_of_line? h)
      · have hreport : report file (node.lineOr 1) (.error (fault, part)) =
            (.error (fault.errorAt file 1) : Except Error α) := by
          rw [report_error, hline]
        rw [hreport]
        exact .astray hnone (hcomplains fault part rfl hreport) rfl

theorem checkKeys_lies (hnode : ∀ line ∈ node.lines, p line) (kind : DeclarationKind) :
    Refuses (Error.Lies p) (checkKeys file kind node) := by
  rw [checkKeys_eq]
  refine report_lies hnode (fun fault part hcheck line hline => ?_)
    fun _ _ _ h => .key kind ((checkKeys_eq kind).trans h)
  unfold keyCheck at hcheck
  split at hcheck
  · cases hcheck
  next hfound =>
    cases hcheck
    exact hnode line (Node.lines_of_mem_entries? (List.mem_of_find?_eq_some hfound) hline)

theorem textUnder_lies (hnode : ∀ line ∈ node.lines, p line) (key : String) :
    Refuses (Error.Lies p) (textUnder file node key) := by
  rw [textUnder_eq]
  refine report_lies hnode (fun fault part hcheck line hline => ?_)
    fun _ _ _ h => .text key ((textUnder_eq key).trans h)
  unfold textCheck at hcheck
  split at hcheck
  · cases hcheck
  next hfound =>
    split at hcheck
    · cases hcheck
    · split at hcheck
      · cases hcheck
      · cases hcheck
        exact hnode line (Node.lines_of_get? hfound hline)

end Declaration

namespace Reading

variable {α β : Type} {lines : α → List Nat} {more : β → List Nat}

/-- All lines in what is read satisfy a property, and so do those of errors and of the groups that
are kept. -/
def Records (p : Nat → Prop) (lines : α → List Nat) (reading : Reading α) : Prop :=
  ∀ groups : Assoc FieldGroup, (∀ entry ∈ groups, ∀ line ∈ entry.2.lines, p line) →
    Gives (fun a => ∀ line ∈ lines a, p line) (reading groups).1 ∧
      Refuses (Error.Lies p) (reading groups).1 ∧
        ∀ entry ∈ (reading groups).2, ∀ line ∈ entry.2.lines, p line

namespace Records

theorem pure {a : α} (h : ∀ line ∈ lines a, p line) : Records p lines (Pure.pure a) :=
  fun _ hgroups => ⟨h, trivial, hgroups⟩

theorem fail {error : Error} (h : error.Lies p) : Records p lines (Action.fail error) :=
  fun _ hgroups => ⟨trivial, h, hgroups⟩

theorem failAt {fault : RecipeFault} (h : p line) :
    Records p lines (Reading.failAt file line fault) :=
  fail (RecipeFault.errorAt_lies h)

/-- Nothing behind a failure is read. -/
theorem failAt_bind {fault : RecipeFault} {next : α → Reading β} (h : p line) :
    Records p more (Reading.failAt file line fault >>= next) :=
  fun _ hgroups => ⟨trivial, RecipeFault.errorAt_lies h, hgroups⟩

theorem lift {result : Except Error α} (hgives : Gives (fun a => ∀ line ∈ lines a, p line) result)
    (hrefuses : Refuses (Error.Lies p) result) : Records p lines (Action.lift result) :=
  fun _ hgroups => ⟨hgives, hrefuses, hgroups⟩

/-- A text has no lines. -/
theorem liftText {result : Except Error α} (h : Refuses (Error.Lies p) result) :
    Records p (fun _ => []) (Action.lift result) :=
  lift (Gives.of_forall fun _ => nofun) h

theorem get : Records p (List.flatMap fun entry => entry.2.lines) Action.get := by
  refine fun groups hgroups => ⟨fun line hline => ?_, trivial, hgroups⟩
  obtain ⟨entry, hentry, hline⟩ := List.mem_flatMap.mp hline
  exact hgroups entry hentry line hline

theorem bind {first : Reading α} {next : α → Reading β} (hfirst : Records p lines first)
    (hnext : ∀ a, (∀ line ∈ lines a, p line) → Records p more (next a)) :
    Records p more (first >>= next) := by
  intro groups hgroups
  obtain ⟨hgives, hrefuses, hmiddle⟩ := hfirst groups hgroups
  rw [Action.bind_apply]
  generalize first groups = run at hgives hrefuses hmiddle
  obtain ⟨result, middle⟩ := run
  cases result with
  | ok a => exact hnext a hgives middle hmiddle
  | error error => exact ⟨trivial, hrefuses, hmiddle⟩

/-- A frame that knows a line adds no other one. -/
theorem orAtLine {reading : Reading α} (h : Records p lines reading) (hline : p line) :
    Records p lines (reading.mapError (Error.orAtLine file line)) := by
  intro groups hgroups
  obtain ⟨hgives, hrefuses, hlast⟩ := h groups hgroups
  unfold Action.mapError
  generalize reading groups = run at hgives hrefuses hlast
  obtain ⟨result, last⟩ := run
  cases result with
  | ok a => exact ⟨hgives, trivial, hlast⟩
  | error error => exact ⟨trivial, Error.Lies.orAtLine hrefuses hline, hlast⟩

end Records

theorem written_gives {value : FieldValue} :
    Gives (fun written => written.line = line) (written file line value) := by
  unfold written
  split
  · exact Gives.bind_iff.mpr (Gives.of_forall fun _ => rfl)
  · rfl

theorem written_lies {value : FieldValue} (h : p line) :
    Refuses (Error.Lies p) (written file line value) := by
  unfold written
  split
  · refine Refuses.bind ?_ fun _ => trivial
    unfold checkText
    split
    · trivial
    next =>
      refine .inside fun other hother => ?_
      obtain rfl : line = other := Option.some.inj hother
      exact h
  · trivial

theorem written_records {value : FieldValue} (h : p line) :
    Records p (fun written => [written.line]) (Action.lift (written file line value)) := by
  refine .lift (written_gives.imp fun written hwritten => ?_) (written_lies h)
  rw [hwritten]
  exact List.forall_mem_singleton.mpr h

theorem count_gives (h : p line) :
    Gives (fun count => ∀ line ∈ count.lines, p line) (count file line node) := by
  unfold count
  split
  · split
    · trivial
    · exact nofun
  · split
    · exact nofun
    · trivial
  · split
    · rw [Gives.except_map_iff]
      refine written_gives.imp fun written hwritten other hother => ?_
      obtain rfl := List.mem_singleton.mp hother
      rwa [hwritten]
    · split
      · exact nofun
      · trivial
  · trivial

theorem count_lies (h : p line) : Refuses (Error.Lies p) (count file line node) := by
  have hbad (value : String) : Refuses (Error.Lies p) (count.bad file line value) :=
    RecipeFault.errorAt_lies h
  unfold count
  split
  · split
    · exact hbad _
    · trivial
  · split
    · trivial
    · exact hbad _
  · split
    · exact Refuses.except_map_iff.mpr (written_lies h)
    · split
      · trivial
      · exact hbad _
  · exact RecipeFault.errorAt_lies h

theorem optionalCount_records (hnode : ∀ line ∈ node.lines, p line) (h : p line) :
    Records p (fun count => count.elim [] Count.lines)
      (Action.lift (optionalCount file line node)) := by
  unfold optionalCount
  split
  · exact .pure nofun
  next value hvalue =>
    have hhere : p (value.lineOr line) := Node.lineOr_of_lines
      (fun line hline => hnode line (Node.lines_of_get? hvalue hline)) h
    split
    · exact .pure nofun
    · exact .lift (Gives.except_map_iff.mpr (count_gives hhere))
        (Refuses.except_map_iff.mpr (count_lies hhere))

theorem tableName_lies (hnode : ∀ line ∈ node.lines, p line) (h : p line) :
    Refuses (Error.Lies p) (tableName file line node) := by
  have hnone : Refuses (Error.Lies p) (tableName.noTable file line) := RecipeFault.errorAt_lies h
  refine (Declaration.textUnder_lies hnode "object").bind fun name => ?_
  split
  · split
    · exact hnone
    · trivial
  · exact hnone

/-- All lines in the groups that a source finds satisfy a property. -/
def GroupsRecord (p : Nat → Prop) (groups : GroupSource) : Prop :=
  ∀ name, Records p FieldGroup.lines (groups name)

section

variable {groups : GroupSource} (hgroups : GroupsRecord p groups)

include hgroups

theorem groupFields_records (names : List String) (h : p line) :
    Records p fieldsLines (groupFields groups file line names) := by
  induction names with
  | nil => exact .pure nofun
  | cons name rest ih =>
      refine ((hgroups name).orAtLine h).bind fun group hgroup => ?_
      obtain ⟨hline, hfields⟩ := List.forall_mem_cons.mp hgroup
      have hrest : Records p fieldsLines (do
          let others ← groupFields groups file line rest
          return group.fields ++ others) :=
        ih.bind fun others hothers => .pure (by
          rw [fieldsLines_append]
          exact List.forall_mem_append.mpr ⟨hfields, hothers⟩)
      dsimp only
      split
      · exact .failAt_bind hline
      · exact hrest

theorem includedFields_records (hnode : ∀ line ∈ node.lines, p line) (h : p line) :
    Records p fieldsLines (includedFields groups file line node) := by
  refine (Records.liftText (Declaration.textUnder_lies hnode "include")).bind fun names _ => ?_
  split
  · exact .pure nofun
  · refine groupFields_records hgroups _ ?_
    cases hvalue : node.get? "include" with
    | none => exact h
    | some value =>
        exact Node.lineOr_of_lines
          (fun line hline => hnode line (Node.lines_of_get? hvalue hline)) h

theorem template_records {ownFields : Reading (List Field)} {friends : Reading (List Template)}
    (hnode : ∀ line ∈ node.lines, p line) (h : p line)
    (hfields : Records p fieldsLines ownFields) (hfriends : Records p templatesLines friends) :
    Records p Template.lines (template groups file line node ownFields friends) := by
  refine (Records.liftText (Declaration.checkKeys_lies hnode .template)).bind fun _ _ => ?_
  refine (Records.liftText (tableName_lies hnode h)).bind fun table _ => ?_
  refine (Records.liftText (Declaration.textUnder_lies hnode "nickname")).bind fun nickname _ => ?_
  refine (includedFields_records hgroups hnode h).bind fun included hincluded => ?_
  refine hfields.bind fun own hown => hfriends.bind fun friends hfriends => ?_
  refine (optionalCount_records hnode h).bind fun count hcount => .pure ?_
  rw [Template.lines, fieldsLines_append]
  simp only [List.forall_mem_cons, List.forall_mem_append]
  exact ⟨h, hcount, ⟨hincluded, hown⟩, hfriends⟩

end

mutual

/-- All lines that a template records are those of its node, or the line around it. -/
theorem object_records {groups : GroupSource} (hgroups : GroupsRecord p groups)
    {around : Nat} : (node : Node) → (∀ line ∈ node.lines, p line) → p around →
      Records p Template.lines (object groups file around node)
  | .mapping line entries, h, haround => by
      have hhere := (Node.mapping line entries).lineOr_of_lines h haround
      have hentries := (List.forall_mem_append.mp h).2
      exact template_records hgroups h hhere (fieldsUnder_records hgroups entries hentries hhere)
        (friendsUnder_records hgroups entries hentries hhere)
  | .scalar .., h, haround | .sequence .., h, haround =>
      .failAt (Node.lineOr_of_lines h haround)

theorem objects_records {groups : GroupSource} (hgroups : GroupsRecord p groups)
    {around : Nat} : (nodes : List Node) → (∀ line ∈ Node.itemsLines nodes, p line) → p around →
      Records p templatesLines (objects groups file around nodes)
  | [], _, _ => .pure nofun
  | first :: rest, h, haround => by
      obtain ⟨hfirst, hrest⟩ := List.forall_mem_append.mp h
      exact (object_records hgroups first hfirst haround).bind fun _ htemplate =>
        (objects_records hgroups rest hrest haround).bind fun _ hothers =>
          .pure (List.forall_mem_append.mpr ⟨htemplate, hothers⟩)

theorem friendsUnder_records {groups : GroupSource} (hgroups : GroupsRecord p groups)
    {around : Nat} : (entries : List (Node × Node)) →
      (∀ line ∈ Node.entriesLines entries, p line) → p around →
        Records p templatesLines (friendsUnder groups file around entries)
  | [], _, _ => .pure nofun
  | (key, value) :: rest, h, haround => by
      obtain ⟨-, h⟩ := List.forall_mem_append.mp h
      obtain ⟨hvalue, hrest⟩ := List.forall_mem_append.mp h
      unfold friendsUnder
      split
      · exact friends_records hgroups value hvalue haround
      · exact friendsUnder_records hgroups rest hrest haround

theorem friends_records {groups : GroupSource} (hgroups : GroupsRecord p groups)
    {around : Nat} : (node : Node) → (∀ line ∈ node.lines, p line) → p around →
      Records p templatesLines (friends groups file around node)
  | .sequence line items, h, haround =>
      objects_records hgroups items (List.forall_mem_append.mp h).2
        ((Node.sequence line items).lineOr_of_lines h haround)
  | .scalar .., h, haround | .mapping .., h, haround => by
      unfold friends
      split
      · exact .pure nofun
      · exact .failAt (Node.lineOr_of_lines h haround)

theorem fieldsUnder_records {groups : GroupSource} (hgroups : GroupsRecord p groups)
    {around : Nat} : (entries : List (Node × Node)) →
      (∀ line ∈ Node.entriesLines entries, p line) → p around →
        Records p fieldsLines (fieldsUnder groups file around entries)
  | [], _, _ => .pure nofun
  | (key, value) :: rest, h, haround => by
      obtain ⟨-, h⟩ := List.forall_mem_append.mp h
      obtain ⟨hvalue, hrest⟩ := List.forall_mem_append.mp h
      unfold fieldsUnder
      split
      · exact fields_records hgroups value hvalue haround
      · exact fieldsUnder_records hgroups rest hrest haround

theorem fields_records {groups : GroupSource} (hgroups : GroupsRecord p groups)
    {around : Nat} : (node : Node) → (∀ line ∈ node.lines, p line) → p around →
      Records p fieldsLines (fields groups file around node)
  | .mapping line entries, h, haround =>
      fieldEntries_records hgroups entries (List.forall_mem_append.mp h).2
        ((Node.mapping line entries).lineOr_of_lines h haround)
  | .scalar .., h, haround | .sequence .., h, haround => by
      unfold fields
      split
      · exact .pure nofun
      · exact .failAt (Node.lineOr_of_lines h haround)

theorem fieldEntries_records {groups : GroupSource} (hgroups : GroupsRecord p groups)
    {around : Nat} : (entries : List (Node × Node)) →
      (∀ line ∈ Node.entriesLines entries, p line) → p around →
        Records p fieldsLines (fieldEntries groups file around entries)
  | [], _, _ => .pure nofun
  | (key, value) :: rest, h, haround => by
      obtain ⟨hkey, h⟩ := List.forall_mem_append.mp h
      obtain ⟨hvalue, hrest⟩ := List.forall_mem_append.mp h
      have hhere : p (key.lineOr around) := Node.lineOr_of_lines hkey haround
      have hread : Records p fieldsLines (do
          let definition ← definition groups file key.name (key.lineOr around) value
          let others ← fieldEntries groups file around rest
          return .mk key.name definition file (value.lineOr (key.lineOr around)) :: others) :=
        (definition_records hgroups value hvalue hhere).bind fun _ hdefinition =>
          (fieldEntries_records hgroups rest hrest haround).bind fun _ hothers => .pure
            (List.forall_mem_cons.mpr ⟨Node.lineOr_of_lines hvalue hhere,
              List.forall_mem_append.mpr ⟨hdefinition, hothers⟩⟩)
      unfold fieldEntries
      dsimp only
      split
      · exact .failAt_bind hhere
      · exact hread

/-- All lines that a definition records are those of its node, or the line around it. -/
theorem definition_records {groups : GroupSource} (hgroups : GroupsRecord p groups)
    {name : String} {around : Nat} : (node : Node) → (∀ line ∈ node.lines, p line) → p around →
      Records p Definition.lines (definition groups file name around node)
  | .scalar line content value, h, haround => by
      have hhere := (Node.scalar line content value).lineOr_of_lines h haround
      unfold definition
      dsimp only
      split
      · exact .failAt hhere
      · exact (written_records hhere).bind fun _ hwritten => .pure hwritten
  | .mapping line entries, h, haround => by
      have hhere := (Node.mapping line entries).lineOr_of_lines h haround
      have hentries := (List.forall_mem_append.mp h).2
      unfold definition
      dsimp only
      split
      · exact (template_records hgroups h hhere (fieldsUnder_records hgroups entries hentries hhere)
          (friendsUnder_records hgroups entries hentries hhere)).bind fun _ hrecord =>
            .pure (List.forall_mem_cons.mpr ⟨hhere, hrecord⟩)
      · exact call_records hgroups entries hentries hhere
  | .sequence line [item], h, haround => by
      have hhere := (Node.sequence line [item]).lineOr_of_lines h haround
      unfold definition
      dsimp only
      split
      · refine definition_records hgroups item (fun line hline => h line ?_) hhere
        exact List.mem_append_right _ (List.mem_append_left _ hline)
      · exact .failAt hhere
  | .sequence _ [], h, haround | .sequence _ (_ :: _ :: _), h, haround =>
      .failAt (Node.lineOr_of_lines h haround)

theorem call_records {groups : GroupSource} (hgroups : GroupsRecord p groups)
    {name : String} {around : Nat} : (entries : List (Node × Node)) →
      (∀ line ∈ Node.entriesLines entries, p line) → p around →
        Records p Definition.lines (call groups file name around entries)
  | [], _, haround => .failAt haround
  | [(function, given)], h, haround => by
      obtain ⟨-, h⟩ := List.forall_mem_append.mp h
      obtain ⟨hgiven, -⟩ := List.forall_mem_append.mp h
      exact (arguments_records hgroups given hgiven haround).bind fun _ harguments =>
        .pure (List.forall_mem_cons.mpr ⟨haround, harguments⟩)
  | _ :: _ :: _, _, haround => .failAt haround

theorem arguments_records {groups : GroupSource} (hgroups : GroupsRecord p groups)
    {function : String} {around : Nat} : (node : Node) → (∀ line ∈ node.lines, p line) → p around →
      Records p (fun found => argumentLines found.1 ++ namedLines found.2)
        (arguments groups file function around node)
  | .sequence _ items, h, haround =>
      (definitions_records hgroups items (List.forall_mem_append.mp h).2 haround).bind
        fun _ hall => .pure (List.forall_mem_append.mpr ⟨hall, by simp [namedLines]⟩)
  | .mapping _ entries, h, haround =>
      (namedDefinitions_records hgroups entries (List.forall_mem_append.mp h).2 haround
        (by simp [namedLines])).bind fun _ hall => .pure hall
  | .scalar line content value, h, haround => by
      have hhere := (Node.scalar line content value).lineOr_of_lines h haround
      unfold arguments
      split
      · exact .pure nofun
      · exact (written_records hhere).bind fun _ hwritten => .pure hwritten

theorem definitions_records {groups : GroupSource} (hgroups : GroupsRecord p groups)
    {function : String} {around : Nat} : (nodes : List Node) →
      (∀ line ∈ Node.itemsLines nodes, p line) → p around →
        Records p argumentLines (definitions groups file function around nodes)
  | [], _, _ => .pure nofun
  | first :: rest, h, haround => by
      obtain ⟨hfirst, hrest⟩ := List.forall_mem_append.mp h
      exact (definition_records hgroups first hfirst haround).bind fun _ hargument =>
        (definitions_records hgroups rest hrest haround).bind fun _ hothers =>
          .pure (List.forall_mem_append.mpr ⟨hargument, hothers⟩)

theorem namedDefinitions_records {groups : GroupSource} (hgroups : GroupsRecord p groups)
    {around : Nat} : (entries : List (Node × Node)) →
      (∀ line ∈ Node.entriesLines entries, p line) → p around → {found : Assoc Definition} →
        (∀ line ∈ namedLines found, p line) →
          Records p namedLines (namedDefinitions groups file around entries found)
  | [], _, _, _, hfound => .pure hfound
  | (key, value) :: rest, h, haround, found, hfound => by
      obtain ⟨-, h⟩ := List.forall_mem_append.mp h
      obtain ⟨hvalue, hrest⟩ := List.forall_mem_append.mp h
      refine (definition_records hgroups value hvalue haround).bind fun argument hargument => ?_
      -- An argument that is given twice takes the place of the first one.
      refine namedDefinitions_records hgroups rest hrest haround fun line hline => ?_
      obtain ⟨entry, hentry, hline⟩ := mem_namedLines.mp hline
      obtain rfl | hentry := Assoc.mem_put hentry
      · exact hargument line hline
      · exact hfound line (mem_namedLines.mpr ⟨entry, hentry, hline⟩)

end

end Reading

/-- The line of a declaration and those of all its parts. -/
def Declaration.lines (declaration : Declaration) : List Nat :=
  declaration.node.lineOr 1 :: declaration.node.lines

namespace Reading

variable {declared : Assoc Declaration}

theorem groupBody_records {groups : GroupSource} (hgroups : GroupsRecord p groups) {name : String}
    {declaration : Declaration} (h : ∀ line ∈ declaration.lines, p line) :
    Records p FieldGroup.lines (groupBody groups name declaration) := by
  obtain ⟨file, node⟩ := declaration
  obtain ⟨hline, hnode⟩ := List.forall_mem_cons.mp h
  refine (Records.liftText (Declaration.checkKeys_lies hnode .group)).bind fun _ _ => ?_
  refine (includedFields_records hgroups hnode hline).bind fun included hincluded => ?_
  have hfields : Records p fieldsLines
      (fieldsUnder groups file (node.lineOr 1) (node.entries?.getD [])) := by
    cases node with
    | scalar | sequence => exact .pure nofun
    | mapping _ entries =>
        exact fieldsUnder_records hgroups entries (List.forall_mem_append.mp hnode).2 hline
  refine hfields.bind fun own hown => .pure (List.forall_mem_cons.mpr ⟨hline, ?_⟩)
  rw [fieldsLines_append]
  exact List.forall_mem_append.mpr ⟨hincluded, hown⟩

/-- Groups record the lines of their declarations. -/
theorem group_records (h : ∀ entry ∈ declared, ∀ line ∈ entry.2.lines, p line) (depth : Nat)
    (path : List String) : GroupsRecord p (group declared depth path) := by
  -- The depth bounds the chain of groups; a group that has been kept was recorded before.
  induction depth generalizing path with
  | zero => exact fun name => .fail (.inside nofun)
  | succ depth ih =>
      intro name
      refine Records.get.bind fun known hknown => ?_
      split
      next found hfound =>
        exact .pure fun line hline =>
          hknown line (List.mem_flatMap.mpr ⟨_, Assoc.mem_of_find? hfound, hline⟩)
      next =>
        split
        next => exact .fail (.inside nofun)
        next declaration hdeclaration =>
          have hlines := h _ (Assoc.mem_of_find? hdeclaration)
          have hread : Records p FieldGroup.lines (do
              let found ← groupBody (group declared depth (name :: path)) name declaration
              Action.modify (Assoc.put name found)
              return found) := by
            refine (groupBody_records (ih (name :: path)) hlines).bind
              fun found hfound groups hgroups => ⟨hfound, trivial, fun entry hentry => ?_⟩
            obtain rfl | hentry := Assoc.mem_put hentry
            · exact hfound
            · exact hgroups entry hentry
          dsimp only
          split
          · exact .failAt_bind (hlines _ List.mem_cons_self)
          · exact hread

theorem findGroup_records (h : ∀ entry ∈ declared, ∀ line ∈ entry.2.lines, p line) :
    GroupsRecord p (findGroup declared) :=
  group_records h _ []

/-- A line is that of the construct around, or it is written in a group. -/
def IsAround (declared : Assoc Declaration) (around line : Nat) : Prop :=
  line = around ∨ ∃ entry ∈ declared, line ∈ entry.2.lines

/-- Whatever a node is read as, all lines in it are the one around it, but for the lines of the
groups that it includes. -/
structure LiesAround (declared : Assoc Declaration) (file : String) (around : Nat) (node : Node) :
    Prop where
  object : Records (IsAround declared around) Template.lines
    (object (findGroup declared) file around node)
  friends : Records (IsAround declared around) templatesLines
    (friends (findGroup declared) file around node)
  fields : Records (IsAround declared around) fieldsLines
    (fields (findGroup declared) file around node)
  definition (name : String) : Records (IsAround declared around) Definition.lines
    (definition (findGroup declared) file name around node)
  arguments (function : String) : Records (IsAround declared around)
    (fun found => argumentLines found.1 ++ namedLines found.2)
    (arguments (findGroup declared) file function around node)

/-- What is reached through an alias lies on the line of the construct around the alias. -/
theorem unplaced_liesAround (declared : Assoc Declaration) (file : String) (around : Nat)
    (node : Node) : LiesAround declared file around node.unplaced := by
  have hgroups : GroupsRecord (IsAround declared around) (findGroup declared) :=
    findGroup_records fun entry hentry _ hline => .inr ⟨entry, hentry, hline⟩
  have hnode : ∀ line ∈ node.unplaced.lines, IsAround declared around line := by
    rw [Node.lines_unplaced]
    exact nofun
  have haround : IsAround declared around around := .inl rfl
  exact
    { object := object_records hgroups _ hnode haround
      friends := friends_records hgroups _ hnode haround
      fields := fields_records hgroups _ hnode haround
      definition := fun _ => definition_records hgroups _ hnode haround
      arguments := fun _ => arguments_records hgroups _ hnode haround }

end Reading

end RecordRecipe
