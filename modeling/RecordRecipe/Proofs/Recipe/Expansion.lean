import Mathlib.Logic.Relation
import RecordRecipe.Proofs.Assoc
import RecordRecipe.Proofs.Recipe.Asking

/-!
# Expansions of groups of fields

`Expands` says what the fields of a group are: those of the groups that it includes, in the order in
which it names them, and then its own. Nothing is kept on the way, and no order of reading matters.

`Resolves` is what a reading of a recipe should satisfy, provided that what has been kept are
expansions: it gives exactly what the expansion gives, whatever has been kept before, and it says of
a group that it includes itself only if that is so. By `Asks.resolves` every reading does so that
asks for groups which resolve themselves.
-/

namespace RecordRecipe

open Yaml (Node)

namespace Reading

variable {declared : Assoc Declaration}

/-- A group asks for another one: it includes it, or a template in its fields does. -/
def Needs (declared : Assoc Declaration) (name other : String) : Prop :=
  ∃ declaration, declared.find? name = some declaration ∧ other ∈ groupNames declaration.node

/-- A group asks for another one, directly or through others. -/
abbrev Reaches (declared : Assoc Declaration) : String → String → Prop :=
  Relation.TransGen (Needs declared)

/-- Groups that are known. -/
def given (answers : String → FieldGroup) : GroupSource := fun name => pure (answers name)

/-- The expansion of a group: the fields of the groups that it includes, in the order in which it
names them, and then its own. All groups that it asks for have been expanded before, and those that
it includes have fields. -/
inductive Expands (declared : Assoc Declaration) : String → FieldGroup → Prop where
  | group {name file node answers listed own} :
      declared.find? name = some ⟨file, node⟩ →
      (∀ other ∈ groupNames node, Expands declared other (answers other)) →
      Declaration.checkKeys file .group node = .ok () →
      Declaration.textUnder file node "include" = .ok listed →
      (∀ other ∈ included node, (answers other).fields ≠ []) →
      (fieldsUnder (given answers) file (node.lineOr 1) (node.entries?.getD []) []).1 = .ok own →
      Expands declared name
        { name, fields := (included node).flatMap (fun other => (answers other).fields) ++ own, file
          line := node.lineOr 1 }

/-- A template, read with the expansions of the groups that it asks for. -/
def ExpandsObject (declared : Assoc Declaration) (file : String) (around : Nat) (node : Node)
    (template : Template) : Prop :=
  ∃ answers, (∀ name ∈ objectNames node, Expands declared name (answers name)) ∧
    (object (given answers) file around node []).1 = .ok template

section Shape

variable {α : Type} {names : List String} {body : GroupSource → Reading α}

/-- A reading depends only on the groups that it asks for. -/
theorem Asks.eq_of_agree {groups others : GroupSource} (h : Asks names body)
    (hagree : ∀ name ∈ names, groups name = others name) : body groups = body others := by
  induction h with
  | done a => rfl
  | refused _ => rfl
  | ask _ ih =>
      obtain ⟨hname, hrest⟩ := List.forall_mem_cons.mp hagree
      dsimp only
      rw [hname]
      exact congrArg _ (funext fun group => ih group hrest)

/-- With known groups a reading leaves alone what has been kept, and does not look at it. -/
theorem Asks.given_apply (h : Asks names body) (answers : String → FieldGroup)
    (kept : Assoc FieldGroup) :
    body (given answers) kept = ((body (given answers) []).1, kept) := by
  induction h with
  | done a => rfl
  | refused _ => rfl
  | ask _ ih => exact ih (answers _)

end Shape

section Known

variable {answers : String → FieldGroup} {file : String} {line : Nat} {node : Node}

/-- Groups that are known and have fields are read one after the other. -/
theorem groupFields_given {names : List String}
    (h : ∀ name ∈ names, (answers name).fields ≠ []) (kept : Assoc FieldGroup) :
    groupFields (given answers) file line names kept =
      (.ok (names.flatMap fun name => (answers name).fields), kept) := by
  induction names with
  | nil => rfl
  | cons name rest ih =>
      obtain ⟨hname, hrest⟩ := List.forall_mem_cons.mp h
      simp [groupFields, given, Action.mapError, hname, ih hrest]

/-- Groups that can be read one after the other have fields. -/
theorem fields_ne_of_groupFields {names : List String} {kept later : Assoc FieldGroup}
    {fields : List Field}
    (h : groupFields (given answers) file line names kept = (.ok fields, later)) :
    ∀ name ∈ names, (answers name).fields ≠ [] := by
  induction names generalizing fields kept later with
  | nil => simp
  | cons name rest ih =>
      obtain ⟨group, middle, hgroup, h⟩ := Action.bind_eq_ok h
      cases hgroup
      by_cases hempty : (answers name).fields = []
      · simp [hempty, failAt] at h
      · simp only [List.isEmpty_iff, hempty, if_false] at h
        obtain ⟨others, _, hothers, -⟩ := Action.bind_eq_ok h
        exact List.forall_mem_cons.mpr ⟨hempty, ih hothers⟩

/-- What is read of the groups that a declaration includes. -/
theorem includedFields_given {fields : List Field} :
    includedFields (given answers) file line node [] = (.ok fields, []) ↔
      (∃ listed, Declaration.textUnder file node "include" = .ok listed) ∧
        (∀ name ∈ included node, (answers name).fields ≠ []) ∧
        fields = (included node).flatMap fun name => (answers name).fields := by
  unfold includedFields
  cases hlisted : Declaration.textUnder file node "include" with
  | error error => simp
  | ok listed =>
      have hexists : ∃ other, (.ok listed : Except Error (Option String)) = .ok other :=
        ⟨listed, rfl⟩
      rw [included_eq hlisted]
      cases listed with
      | none => simp [eq_comm]
      | some names =>
          constructor
          · intro hread
            have hne := fields_ne_of_groupFields hread
            have hfields := congrArg Prod.fst ((groupFields_given hne []).symm.trans hread)
            exact ⟨hexists, hne, (Except.ok.inj hfields).symm⟩
          · rintro ⟨-, hne, rfl⟩
            exact groupFields_given hne []

/-- What is read of a group whose groups are known. -/
theorem groupBody_given {name : String} {group : FieldGroup} :
    (groupBody (given answers) name ⟨file, node⟩ []).1 = .ok group ↔
      ∃ listed own, Declaration.checkKeys file .group node = .ok () ∧
        Declaration.textUnder file node "include" = .ok listed ∧
        (∀ other ∈ included node, (answers other).fields ≠ []) ∧
        (fieldsUnder (given answers) file (node.lineOr 1) (node.entries?.getD []) []).1 =
          .ok own ∧
        group = FieldGroup.mk name
          ((included node).flatMap (fun other => (answers other).fields) ++ own) file
          (node.lineOr 1) := by
  constructor
  · intro h
    generalize hrun : groupBody (given answers) name ⟨file, node⟩ [] = run at h
    obtain ⟨result, later⟩ := run
    cases h
    obtain ⟨_, _, hchecked, hrun⟩ := Action.bind_eq_ok hrun
    obtain ⟨hkeys, rfl⟩ := Prod.mk.inj hchecked
    obtain ⟨fields, middle, hincluded, hrun⟩ := Action.bind_eq_ok hrun
    have hstate : includedFields (given answers) file (node.lineOr 1) node [] = (_, []) :=
      includedFields_asks.given_apply answers []
    obtain rfl : middle = [] := congrArg Prod.snd (hincluded.symm.trans hstate)
    obtain ⟨⟨listed, hlisted⟩, hne, rfl⟩ := includedFields_given.mp hincluded
    obtain ⟨own, last, hown, hrun⟩ := Action.bind_eq_ok hrun
    cases hrun
    exact ⟨listed, own, hkeys, hlisted, hne, congrArg Prod.fst hown, rfl⟩
  · rintro ⟨listed, own, hkeys, hlisted, hne, hown, rfl⟩
    have hincluded : includedFields (given answers) file (node.lineOr 1) node [] =
        (.ok ((included node).flatMap fun name => (answers name).fields), []) :=
      includedFields_given.mpr ⟨⟨listed, hlisted⟩, hne, rfl⟩
    have hfields :=
      (fieldsUnder_asks file (node.lineOr 1) (node.entries?.getD [])).given_apply answers []
    simp only [hown] at hfields
    simp [groupBody, hkeys, hincluded, hfields]

end Known

namespace Expands

variable {name : String} {group other : FieldGroup}

/-- A group has one expansion only. -/
theorem unique (h : Expands declared name group) (hother : Expands declared name other) :
    group = other := by
  induction h generalizing other with
  | @group name file node answers listed own hfound hanswers hkeys hlisted hne hown ih =>
      cases hother with
      | @group _ _ _ others _ _ hfoundOther hothers _ _ _ hownOther =>
          obtain ⟨rfl, rfl⟩ := Declaration.mk.inj
            (Option.some.inj (hfound.symm.trans hfoundOther))
          have hagree : ∀ needed ∈ groupNames node, answers needed = others needed :=
            fun needed hneeded => ih needed hneeded (hothers needed hneeded)
          have hincluded : (included node).flatMap (fun needed => (answers needed).fields) =
              (included node).flatMap fun needed => (others needed).fields := by
            refine List.flatMap_congr fun needed hneeded => ?_
            rw [hagree needed (List.mem_append_left _ hneeded)]
          have hgiven : fieldsUnder (given answers) file (node.lineOr 1) (node.entries?.getD []) =
              fieldsUnder (given others) file (node.lineOr 1) (node.entries?.getD []) := by
            refine (fieldsUnder_asks file _ _).eq_of_agree fun needed hneeded => ?_
            exact congrArg pure (hagree needed (List.mem_append_right _ hneeded))
          rw [hgiven] at hown
          obtain rfl := Except.ok.inj (hown.symm.trans hownOther)
          rw [hincluded]

/-- A group that has an expansion does not ask for itself. -/
theorem not_reaches (h : Expands declared name group) : ¬ Reaches declared name name := by
  induction h with
  | @group name file node _ _ _ hfound _ _ _ _ _ ih =>
      intro hcycle
      obtain ⟨next, hneeds, hback⟩ := Relation.TransGen.head'_iff.mp hcycle
      obtain ⟨declaration, hdeclaration, hnext⟩ := id hneeds
      obtain rfl := Option.some.inj (hfound.symm.trans hdeclaration)
      exact ih next hnext (Relation.TransGen.tail' hback hneeds)

end Expands

open Classical in
/-- The expansion of a group, if it has one. -/
noncomputable def expansion (declared : Assoc Declaration) (name : String) : FieldGroup :=
  if h : ∃ group, Expands declared name group then h.choose else ⟨name, [], "", 0⟩

theorem Expands.eq_expansion {name : String} {group : FieldGroup}
    (h : Expands declared name group) : expansion declared name = group := by
  have hexists : ∃ group, Expands declared name group := ⟨group, h⟩
  rw [expansion, dif_pos hexists]
  exact hexists.choose_spec.unique h

/-- All groups that are asked for have expansions. -/
def AllExpand (declared : Assoc Declaration) (names : List String) : Prop :=
  ∀ name ∈ names, Expands declared name (expansion declared name)

/-- An expansion is what is read when all groups that are asked for have been expanded. -/
theorem expands_iff {name : String} {declaration : Declaration} {group : FieldGroup}
    (hfound : declared.find? name = some declaration) :
    Expands declared name group ↔ AllExpand declared (groupNames declaration.node) ∧
      (groupBody (given (expansion declared)) name declaration []).1 = .ok group := by
  obtain ⟨file, node⟩ := declaration
  constructor
  · intro h
    cases h with
    | @group _ _ _ answers listed own hagain hanswers hkeys hlisted hne hown =>
        obtain ⟨rfl, rfl⟩ := Declaration.mk.inj (Option.some.inj (hfound.symm.trans hagain))
        have hagree : ∀ needed ∈ groupNames node, answers needed = expansion declared needed :=
          fun needed hneeded => (hanswers needed hneeded).eq_expansion.symm
        refine ⟨fun needed hneeded => hagree needed hneeded ▸ hanswers needed hneeded, ?_⟩
        have hbody : groupBody (given answers) name ⟨file, node⟩ =
            groupBody (given (expansion declared)) name ⟨file, node⟩ :=
          (groupBody_asks name ⟨file, node⟩).eq_of_agree fun needed hneeded =>
            congrArg pure (hagree needed hneeded)
        rw [← hbody]
        exact groupBody_given.mpr ⟨listed, own, hkeys, hlisted, hne, hown, rfl⟩
  · rintro ⟨hall, hbody⟩
    obtain ⟨listed, own, hkeys, hlisted, hne, hown, rfl⟩ := groupBody_given.mp hbody
    exact .group hfound hall hkeys hlisted hne hown

theorem expandsObject_iff {file : String} {around : Nat} {node : Node} {template : Template} :
    ExpandsObject declared file around node template ↔ AllExpand declared (objectNames node) ∧
      (object (given (expansion declared)) file around node []).1 = .ok template := by
  constructor
  · rintro ⟨answers, hanswers, htemplate⟩
    have hagree : ∀ needed ∈ objectNames node, answers needed = expansion declared needed :=
      fun needed hneeded => (hanswers needed hneeded).eq_expansion.symm
    refine ⟨fun needed hneeded => hagree needed hneeded ▸ hanswers needed hneeded, ?_⟩
    have hobject : object (given answers) file around node =
        object (given (expansion declared)) file around node :=
      (object_asks file around node).eq_of_agree fun needed hneeded =>
        congrArg pure (hagree needed hneeded)
    rw [← hobject]
    exact htemplate
  · rintro ⟨hall, htemplate⟩
    exact ⟨expansion declared, hall, htemplate⟩

/-- All groups that have been kept are expansions. -/
def Valid (declared : Assoc Declaration) (kept : Assoc FieldGroup) : Prop :=
  ∀ name group, kept.find? name = some group → Expands declared name group

theorem Valid.put {kept : Assoc FieldGroup} {name : String} {group : FieldGroup}
    (h : Valid declared kept) (hgroup : Expands declared name group) :
    Valid declared (kept.put name group) := by
  intro other found hfound
  rw [Assoc.find?_put] at hfound
  split at hfound
  next hname =>
    cases hfound
    exact hname ▸ hgroup
  next => exact h other found hfound

/-- A reading gives what it is meant to give, and nothing else, whatever has been kept before; and
what it keeps are expansions. If it fails since a group includes itself, the group does so. -/
structure Resolves {α : Type} (declared : Assoc Declaration) (Is : α → Prop)
    (reading : Reading α) : Prop where
  valid : ∀ kept, Valid declared kept → Valid declared (reading kept).2
  gives_iff : ∀ kept a, Valid declared kept → ((reading kept).1 = .ok a ↔ Is a)
  same : ∀ kept other, Valid declared kept → Valid declared other →
    (reading kept).1 = (reading other).1
  recursive : ∀ kept error name, Valid declared kept → (reading kept).1 = .error error →
    error.message = (RecipeFault.recursiveGroup name).message → Reaches declared name name

namespace Resolves

variable {α β : Type} {Is Other : α → Prop} {reading : Reading α}

theorem congr (h : Resolves declared Is reading) (hiff : ∀ a, Is a ↔ Other a) :
    Resolves declared Other reading :=
  ⟨h.valid, fun kept a hkept => (h.gives_iff kept a hkept).trans (hiff a), h.same, h.recursive⟩

theorem pure (a : α) : Resolves declared (· = a) (Pure.pure a) where
  valid _ hkept := hkept
  gives_iff kept b _ := by simp [eq_comm]
  same _ _ _ _ := rfl
  recursive _ _ _ _ herror := nomatch herror

theorem fail {error : Error} (hnone : ∀ a, ¬ Is a)
    (h : ∀ name, error.message = (RecipeFault.recursiveGroup name).message →
      Reaches declared name name) :
    Resolves declared Is (Action.fail error) where
  valid _ hkept := hkept
  gives_iff kept a _ := ⟨fun hok => (nomatch hok), fun ha => absurd ha (hnone a)⟩
  same _ _ _ _ := rfl
  recursive _ _ name _ herror hmessage := by
    cases herror
    exact h name hmessage

/-- A reading that resolves has gone one of two ways. -/
theorem run (h : Resolves declared Is reading) {kept : Assoc FieldGroup}
    (hkept : Valid declared kept) :
    (∃ a later, reading kept = (.ok a, later) ∧ Valid declared later ∧ Is a) ∨
      ∃ error later, reading kept = (.error error, later) ∧ Valid declared later := by
  have hvalid := h.valid kept hkept
  have hgives := h.gives_iff kept
  generalize reading kept = run at hvalid hgives
  obtain ⟨result, later⟩ := run
  cases result with
  | ok a => exact .inl ⟨a, later, rfl, hvalid, (hgives a hkept).mp rfl⟩
  | error error => exact .inr ⟨error, later, rfl, hvalid⟩

theorem mapError (h : Resolves declared Is reading) (file : String) (line : Nat) :
    Resolves declared Is (reading.mapError (Error.orAtLine file line)) := by
  have hframe : ∀ kept, (reading.mapError (Error.orAtLine file line)) kept =
      ((reading kept).1.mapError (Error.orAtLine file line), (reading kept).2) := by
    intro kept
    unfold Action.mapError
    cases reading kept with
    | mk result later => cases result <;> rfl
  refine ⟨fun kept hkept => ?_, fun kept a hkept => ?_, fun kept other hkept hother => ?_,
    fun kept error name hkept herror hmessage => ?_⟩
  · rw [hframe]
    exact h.valid kept hkept
  · rw [hframe, ← h.gives_iff kept a hkept]
    cases (reading kept).1 <;> simp [Except.mapError]
  · rw [hframe, hframe, h.same kept other hkept hother]
  · rw [hframe] at herror
    cases hresult : (reading kept).1 with
    | ok a => simp [hresult, Except.mapError] at herror
    | error found =>
        obtain rfl : found.orAtLine file line = error := by
          simpa [hresult, Except.mapError] using herror
        rw [Error.message_orAtLine] at hmessage
        exact h.recursive kept found name hkept hresult hmessage

theorem bind {IsNext : α → β → Prop} {next : α → Reading β} (h : Resolves declared Is reading)
    (hnext : ∀ a, Is a → Resolves declared (IsNext a) (next a)) :
    Resolves declared (fun b => ∃ a, Is a ∧ IsNext a b) (reading >>= next) := by
  refine ⟨fun kept hkept => ?_, fun kept b hkept => ?_, fun kept other hkept hother => ?_,
    fun kept error name hkept herror hmessage => ?_⟩
  · rw [Action.bind_apply]
    obtain ⟨a, later, hrun, hlater, ha⟩ | ⟨error, later, hrun, hlater⟩ := h.run hkept
    · rw [hrun]
      exact (hnext a ha).valid later hlater
    · rw [hrun]
      exact hlater
  · rw [Action.bind_apply]
    obtain ⟨a, later, hrun, hlater, ha⟩ | ⟨error, later, hrun, hlater⟩ := h.run hkept
    · rw [hrun]
      refine ⟨fun hok => ⟨a, ha, ((hnext a ha).gives_iff later b hlater).mp hok⟩, ?_⟩
      rintro ⟨a', ha', hb⟩
      have hagain := (h.gives_iff kept a' hkept).mpr ha'
      rw [hrun] at hagain
      cases hagain
      exact ((hnext a ha).gives_iff later b hlater).mpr hb
    · rw [hrun]
      refine ⟨fun hok => (nomatch hok), ?_⟩
      rintro ⟨a, ha, -⟩
      have hok := (h.gives_iff kept a hkept).mpr ha
      rw [hrun] at hok
      cases hok
  · have hsame := h.same kept other hkept hother
    rw [Action.bind_apply, Action.bind_apply]
    obtain ⟨a, later, hrun, hlater, ha⟩ | ⟨error, later, hrun, hlater⟩ := h.run hkept
    · obtain ⟨a', behind, hagain, hbehind, -⟩ | ⟨_, _, hagain, -⟩ := h.run hother
      · rw [hrun, hagain] at hsame
        cases hsame
        rw [hrun, hagain]
        exact (hnext a ha).same later behind hlater hbehind
      · rw [hrun, hagain] at hsame
        cases hsame
    · obtain ⟨_, _, hagain, -⟩ | ⟨_, _, hagain, -⟩ := h.run hother
      · rw [hrun, hagain] at hsame
        cases hsame
      · rw [hrun, hagain] at hsame
        cases hsame
        rw [hrun, hagain]
  · rw [Action.bind_apply] at herror
    obtain ⟨a, later, hrun, hlater, ha⟩ | ⟨found, later, hrun, -⟩ := h.run hkept
    · rw [hrun] at herror
      exact (hnext a ha).recursive later error name hlater herror hmessage
    · rw [hrun] at herror
      obtain rfl : found = error := Except.error.inj herror
      exact h.recursive kept found name hkept (by rw [hrun]) hmessage

end Resolves

/-- What is meant to be read if all groups that are asked for are expanded. -/
def IsExpanded {α : Type} (declared : Assoc Declaration) (names : List String)
    (body : GroupSource → Reading α) (a : α) : Prop :=
  AllExpand declared names ∧ (body (given (expansion declared)) []).1 = .ok a

/-- A reading resolves if the groups do that it asks for. -/
theorem Asks.resolves {α : Type} {names : List String} {body : GroupSource → Reading α}
    {groups : GroupSource} (h : Asks names body)
    (hgroups : ∀ name ∈ names, Resolves declared (Expands declared name) (groups name)) :
    Resolves declared (IsExpanded declared names body) (body groups) := by
  induction h with
  | done a =>
      refine (Resolves.pure a).congr fun b => ?_
      simp [IsExpanded, AllExpand, eq_comm]
  | refused hordinary =>
      refine .fail ?_ fun name hmessage => absurd hmessage (hordinary name)
      rintro a ⟨-, ha⟩
      cases ha
  | @ask name rest file line next _ ih =>
      obtain ⟨hname, hrest⟩ := List.forall_mem_cons.mp hgroups
      refine ((hname.mapError file line).bind fun group _ => ih group hrest).congr fun a => ?_
      constructor
      · rintro ⟨group, hgroup, hall, ha⟩
        obtain rfl := hgroup.eq_expansion
        exact ⟨List.forall_mem_cons.mpr ⟨hgroup, hall⟩, ha⟩
      · rintro ⟨hall, ha⟩
        obtain ⟨hexpands, hall⟩ := List.forall_mem_cons.mp hall
        exact ⟨_, hexpands, hall, ha⟩

end Reading

end RecordRecipe
