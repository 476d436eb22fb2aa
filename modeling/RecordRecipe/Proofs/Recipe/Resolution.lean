import Mathlib.Data.List.Nodup
import RecordRecipe.Proofs.Recipe.Expansion
import RecordRecipe.Proofs.Recipe.Lines

/-!
# Groups are found as they are expanded

A group is read when it is first needed and kept, and while it is read it may not be needed again.
`Finds` is this search without the bound on its depth. The bound cuts nothing off, and what is found
are expansions, since a group that is needed while it is read has none. The main result is
`Recipe.groups_expand`.
-/

namespace RecordRecipe

open Yaml (Node)

namespace Reading

variable {declared : Assoc Declaration}

/-- What is done about a group that has not been kept, given how to find the groups that it asks
for. -/
def openWith (declared : Assoc Declaration) (path : List String) (name : String)
    (inner : GroupSource) : Reading FieldGroup :=
  match declared.find? name with
  | none => Action.fail (RecipeFault.unknownGroup name).error
  | some declaration => do
      if path.contains name then
        failAt declaration.file (declaration.node.lineOr 1) (.recursiveGroup name)
      let found ← groupBody inner name declaration
      Action.modify (Assoc.put name found)
      return found

/-- A group that has been kept is not opened again. -/
def keptOr (name : String) (opened : Reading FieldGroup) : Reading FieldGroup := do
  match (← Action.get).find? name with
  | some known => return known
  | none => opened

section Kept

variable {name : String} {opened : Reading FieldGroup} {kept : Assoc FieldGroup}

theorem keptOr_of_some {known : FieldGroup} (h : kept.find? name = some known) :
    keptOr name opened kept = (.ok known, kept) := by
  simp [keptOr, h]

theorem keptOr_of_none (h : kept.find? name = none) :
    keptOr name opened kept = opened kept := by
  simp [keptOr, h]

end Kept

/-- The search for a group, and for every group that it asks for, without a bound. A derivation is
finite, so a search that has one ends. -/
inductive Finds (declared : Assoc Declaration) : List String → String → Reading FieldGroup → Prop
    where
  | found {path name} {inner : GroupSource} :
      (∀ other, name ∉ path → Needs declared name other →
        Finds declared (name :: path) other (inner other)) →
      Finds declared path name (keptOr name (openWith declared path name inner))

section Search

variable {path : List String} {name : String}

/-- A group is opened with those groups only that it asks for. -/
theorem openWith_congr {inner other : GroupSource}
    (h : ∀ needed, name ∉ path → Needs declared name needed → inner needed = other needed) :
    openWith declared path name inner = openWith declared path name other := by
  unfold openWith
  cases hfound : declared.find? name with
  | none => rfl
  | some declaration =>
      by_cases hpath : name ∈ path
      · have hcontains : path.contains name = true := by simpa using hpath
        simp only [hcontains, if_true]
        rfl
      · have hbody : groupBody inner name declaration = groupBody other name declaration :=
          (groupBody_asks name declaration).eq_of_agree fun needed hneeded =>
            h needed hpath ⟨declaration, hfound, hneeded⟩
        simp only [hbody]

/-- A search without a bound ends in one way only. -/
theorem Finds.unique {reading other : Reading FieldGroup} (h : Finds declared path name reading)
    (hother : Finds declared path name other) : reading = other := by
  induction h generalizing other with
  | found _ ih =>
      cases hother with
      | found hinner =>
          refine congrArg (keptOr _) (openWith_congr fun needed hpath hneeds => ?_)
          exact ih needed hpath hneeds (hinner needed hpath hneeds)

/-- The bound on a search cuts nothing off. -/
theorem group_finds {depth : Nat} (hnodup : path.Nodup) (hdeclared : path ⊆ declared.keys)
    (hdepth : declared.length < depth + path.length) :
    Finds declared path name (group declared depth path name) := by
  induction depth generalizing path name with
  | zero =>
      have hlength : path.length ≤ declared.keys.length :=
        List.Nodup.length_le_of_subset hnodup hdeclared
      rw [Assoc.keys, List.length_map] at hlength
      omega
  | succ depth ih =>
      have hinner : ∀ needed, name ∉ path → Needs declared name needed →
          Finds declared (name :: path) needed (group declared depth (name :: path) needed) := by
        rintro needed hnew ⟨declaration, hfound, -⟩
        have hname : name ∈ declared.keys := List.mem_map_of_mem (Assoc.mem_of_find? hfound)
        refine ih (List.nodup_cons.mpr ⟨hnew, hnodup⟩) (List.cons_subset.mpr ⟨hname, hdeclared⟩) ?_
        rw [List.length_cons]
        omega
      exact .found hinner

/-- A group that is opened is kept. -/
theorem Resolves.keep {group : FieldGroup} (h : Expands declared name group) :
    Resolves declared (· = group)
      (do Action.modify (Assoc.put name group); return group : Reading FieldGroup) where
  valid _ hkept := hkept.put h
  gives_iff _ _ _ := ⟨fun hok => (Except.ok.inj hok).symm, fun hother => hother ▸ rfl⟩
  same _ _ _ _ := rfl
  recursive _ _ _ _ herror := nomatch herror

theorem Resolves.keptOr {opened : Reading FieldGroup}
    (h : Resolves declared (Expands declared name) opened) :
    Resolves declared (Expands declared name) (keptOr name opened) := by
  have hgives : ∀ kept group, Valid declared kept →
      ((Reading.keptOr name opened kept).1 = .ok group ↔ Expands declared name group) := by
    intro kept group hkept
    cases hfound : kept.find? name with
    | none =>
        rw [keptOr_of_none hfound]
        exact h.gives_iff kept group hkept
    | some known =>
        have hexpands := hkept name known hfound
        rw [keptOr_of_some hfound]
        exact ⟨fun hok => Except.ok.inj hok ▸ hexpands,
          fun hgroup => congrArg Except.ok (hexpands.unique hgroup)⟩
  refine ⟨fun kept hkept => ?_, hgives, fun kept other hkept hother => ?_,
    fun kept error other hkept herror hmessage => ?_⟩
  · cases hfound : kept.find? name with
    | none =>
        rw [keptOr_of_none hfound]
        exact h.valid kept hkept
    | some known =>
        rw [keptOr_of_some hfound]
        exact hkept
  · cases hfound : kept.find? name with
    | none =>
        cases hagain : other.find? name with
        | none =>
            rw [keptOr_of_none hfound, keptOr_of_none hagain]
            exact h.same kept other hkept hother
        | some known =>
            rw [keptOr_of_some hagain]
            exact (hgives kept known hkept).mpr (hother name known hagain)
    | some known =>
        rw [keptOr_of_some hfound]
        exact ((hgives other known hother).mpr (hkept name known hfound)).symm
  · cases hfound : kept.find? name with
    | none =>
        rw [keptOr_of_none hfound] at herror
        exact h.recursive kept error other hkept herror hmessage
    | some known =>
        rw [keptOr_of_some hfound] at herror
        cases herror

/-- What is found are expansions, provided that every group on the way asks for the one that is
needed. -/
theorem Finds.resolves {reading : Reading FieldGroup} (h : Finds declared path name reading)
    (hpath : ∀ other ∈ path, Reaches declared other name) :
    Resolves declared (Expands declared name) reading := by
  induction h with
  | @found path name inner _ ih =>
      refine Resolves.keptOr ?_
      unfold openWith
      cases hfound : declared.find? name with
      | none =>
          have hordinary : (RecipeFault.unknownGroup name).error.Ordinary :=
            RecipeFault.error_ordinary nofun
          refine .fail (fun group hgroup => ?_) fun other hmessage =>
            absurd hmessage (hordinary other)
          cases hgroup with
          | group hdeclared => exact nomatch hfound.symm.trans hdeclared
      | some declaration =>
          have hneeds : ∀ needed ∈ groupNames declaration.node, Needs declared name needed :=
            fun needed hneeded => ⟨declaration, hfound, hneeded⟩
          by_cases hagain : name ∈ path
          · have hcycle : Reaches declared name name := hpath name hagain
            have hcontains : path.contains name = true := by simpa using hagain
            simp only [hcontains, if_true]
            refine Resolves.fail (fun group hgroup => hgroup.not_reaches hcycle) ?_
            intro other hmessage
            rw [RecipeFault.errorAt, Error.message_atLine] at hmessage
            exact RecipeFault.recursiveGroup_message_inj hmessage ▸ hcycle
          · have hbody : Resolves declared (Expands declared name)
                (groupBody inner name declaration) := by
              refine ((groupBody_asks name declaration).resolves fun needed hneeded => ?_).congr
                fun group => (expands_iff hfound).symm
              refine ih needed hagain (hneeds needed hneeded) fun other hother => ?_
              have hlast := hneeds needed hneeded
              rcases List.mem_cons.mp hother with rfl | hother
              · exact .single hlast
              · exact (hpath other hother).tail hlast
            have hcontains : ¬ path.contains name = true := by simpa using hagain
            simp only [hcontains]
            exact (hbody.bind fun group hgroup => .keep hgroup).congr fun group => by simp

end Search

theorem findGroup_finds (name : String) : Finds declared [] name (findGroup declared name) :=
  group_finds List.nodup_nil (List.nil_subset _) (by simp)

theorem findGroup_resolves (name : String) :
    Resolves declared (Expands declared name) (findGroup declared name) :=
  (findGroup_finds name).resolves fun _ hother => nomatch hother

theorem object_resolves (file : String) (around : Nat) (node : Node) :
    Resolves declared (ExpandsObject declared file around node)
      (object (findGroup declared) file around node) :=
  ((object_asks file around node).resolves fun name _ => findGroup_resolves name).congr
    fun _ => expandsObject_iff.symm

/-- What has been kept after some groups have been found and some templates read. -/
inductive Accumulates (declared : Assoc Declaration) : Assoc FieldGroup → Prop where
  | start : Accumulates declared []
  | group {kept} (name : String) :
      Accumulates declared kept → Accumulates declared (findGroup declared name kept).2
  | object {kept} (file : String) (around : Nat) (node : Node) : Accumulates declared kept →
      Accumulates declared (object (findGroup declared) file around node kept).2

theorem Accumulates.valid {kept : Assoc FieldGroup} (h : Accumulates declared kept) :
    Valid declared kept := by
  induction h with
  | start => exact fun name group hfound => nomatch hfound
  | group name _ ih => exact (findGroup_resolves name).valid _ ih
  | object file around node _ ih => exact (object_resolves file around node).valid _ ih

theorem templates_asks (declarations : List Declaration) :
    Asks (declarations.flatMap fun declaration => objectNames declaration.node) fun groups =>
      templates groups declarations := by
  induction declarations with
  | nil => exact .done []
  | cons first rest ih =>
      exact (object_asks first.file 1 first.node).bind fun template =>
        ih.bindDone fun others => .done (template :: others)

/-- Reading all groups that are left succeeds if all groups can be expanded. -/
theorem remainingGroups_resolves : Resolves declared
    (fun _ => ∀ name ∈ declared.keys, ∃ group, Expands declared name group)
    (remainingGroups declared) := by
  unfold remainingGroups
  induction declared.keys with
  | nil => exact (Resolves.pure ()).congr (by simp)
  | cons name rest ih =>
      refine (((findGroup_resolves name).bind fun group _ => .pure ()).bind fun _ _ => ih).congr
        fun _ => ?_
      simp

end Reading

namespace Recipe

open Reading (Reaches Expands ExpandsObject Finds Accumulates Resolves)

/-- The declarations of a recipe are read as they are expanded. -/
theorem readAll_resolves (declarations : Declarations) : Resolves declarations.groups
    (fun templates => Reading.IsExpanded declarations.groups
        (declarations.templates.flatMap fun declaration => Reading.objectNames declaration.node)
        (fun groups => Reading.templates groups declarations.templates) templates ∧
      ∀ name ∈ declarations.groups.keys, ∃ group, Expands declarations.groups name group)
    declarations.readAll := by
  refine (((Reading.templates_asks declarations.templates).resolves fun name _ =>
    Reading.findGroup_resolves name).bind fun templates _ =>
      Reading.remainingGroups_resolves.bind fun _ _ => .pure templates).congr fun templates => ?_
  constructor
  · rintro ⟨read, hread, _, hall, rfl⟩
    exact ⟨hread, hall⟩
  · rintro ⟨hread, hall⟩
    exact ⟨templates, hread, (), hall, rfl⟩

/-- A recipe is refused for a group that includes itself only if the group asks for itself. -/
theorem reaches_of_recursiveGroup {file again : String} {declarations : Declarations}
    {error : Error} (herror : ofDeclarations file declarations = .error error)
    (hmessage : error.message = (RecipeFault.recursiveGroup again).message) :
    Reaches declarations.groups again again := by
  rw [ofDeclarations_eq] at herror
  cases hresult : (declarations.readAll []).1 with
  | ok templates => exact nomatch hresult ▸ herror
  | error found =>
      rw [hresult] at herror
      cases herror
      exact (readAll_resolves declarations).recursive [] error again Accumulates.start.valid hresult
        hmessage

/-- No recipe is read that has a group that asks for itself. -/
theorem ofDeclarations_ne_ok {file name : String} {declarations : Declarations} {recipe : Recipe}
    (hcycle : Reaches declarations.groups name name) :
    ofDeclarations file declarations ≠ .ok recipe := by
  intro hrecipe
  rw [ofDeclarations_eq] at hrecipe
  cases hresult : (declarations.readAll []).1 with
  | error found => exact nomatch hresult ▸ hrecipe
  | ok templates =>
      have hread := readAll_resolves declarations
      obtain ⟨-, hall⟩ := (hread.gives_iff [] templates Accumulates.start.valid).mp hresult
      obtain ⟨next, ⟨declaration, hdeclaration, -⟩, -⟩ := Relation.TransGen.head'_iff.mp hcycle
      obtain ⟨group, hgroup⟩ := hall name (List.mem_map_of_mem (Assoc.mem_of_find? hdeclaration))
      exact hgroup.not_reaches hcycle

/-- The search for a group ends in one way, and what it finds are the fields of the groups that are
included, in order, followed by the group's own; templates are read alike. The result does not
depend on what has been read before. That a group includes itself is said only if it asks for
itself, directly or through others, and then no recipe is read. -/
theorem groups_expand (declared : Assoc Declaration) :
    (∀ name, ∃ search, Finds declared [] name search ∧
      (∀ other, Finds declared [] name other → other = search) ∧
      Reading.findGroup declared name = search) ∧
    (∀ kept, Accumulates declared kept →
      (∀ name group, (Reading.findGroup declared name kept).1 = .ok group ↔
        Expands declared name group) ∧
      ∀ file around node template,
        (Reading.object (Reading.findGroup declared) file around node kept).1 = .ok template ↔
          ExpandsObject declared file around node template) ∧
    (∀ kept other, Accumulates declared kept → Accumulates declared other →
      (∀ name, (Reading.findGroup declared name kept).1 =
        (Reading.findGroup declared name other).1) ∧
      ∀ file around node,
        (Reading.object (Reading.findGroup declared) file around node kept).1 =
          (Reading.object (Reading.findGroup declared) file around node other).1) ∧
    (∀ kept error again, Accumulates declared kept →
      error.message = (RecipeFault.recursiveGroup again).message →
      (∀ name, (Reading.findGroup declared name kept).1 = .error error →
        Reaches declared again again) ∧
      ∀ file around node,
        (Reading.object (Reading.findGroup declared) file around node kept).1 = .error error →
          Reaches declared again again) ∧
    ∀ file declarations, declarations.groups = declared →
      (∀ error again, ofDeclarations file declarations = .error error →
        error.message = (RecipeFault.recursiveGroup again).message →
        Reaches declared again again) ∧
      ∀ name recipe, Reaches declared name name →
        ofDeclarations file declarations ≠ .ok recipe := by
  refine ⟨fun name => ?_, fun kept hkept => ?_, fun kept other hkept hother => ?_,
    fun kept error again hkept hmessage => ?_, ?_⟩
  · have hfinds : Finds declared [] name (Reading.findGroup declared name) :=
      Reading.findGroup_finds name
    exact ⟨_, hfinds, fun other hother => hother.unique hfinds, rfl⟩
  · exact ⟨fun name group => (Reading.findGroup_resolves name).gives_iff kept group hkept.valid,
      fun file around node template =>
        (Reading.object_resolves file around node).gives_iff kept template hkept.valid⟩
  · exact ⟨fun name => (Reading.findGroup_resolves name).same kept other hkept.valid hother.valid,
      fun file around node =>
        (Reading.object_resolves file around node).same kept other hkept.valid hother.valid⟩
  · exact ⟨fun name herror => (Reading.findGroup_resolves name).recursive kept error again
        hkept.valid herror hmessage,
      fun file around node herror => (Reading.object_resolves file around node).recursive kept error
        again hkept.valid herror hmessage⟩
  · rintro file declarations rfl
    exact ⟨fun error again herror hmessage => reaches_of_recursiveGroup herror hmessage,
      fun name recipe hcycle => ofDeclarations_ne_ok hcycle⟩

/-- A plain word on a line. -/
def wordNode (line : Nat) (content : String) : Node :=
  .scalar (some line) content (.text content)

/-- A group that includes another one, and a group with a field whose template includes the group
itself. -/
def chained : Assoc Declaration :=
  [("a", ⟨"f", .mapping (some 1) [(wordNode 1 "macro", wordNode 1 "a"),
      (wordNode 2 "include", wordNode 2 "b")]⟩),
    ("b", ⟨"f", .mapping (some 3) [(wordNode 3 "macro", wordNode 3 "b"),
      (wordNode 4 "fields", .mapping (some 5) [(wordNode 5 "x", wordNode 5 "y")])]⟩),
    ("c", ⟨"f", .mapping (some 6) [(wordNode 6 "macro", wordNode 6 "c"),
      (wordNode 7 "fields", .mapping (some 8) [(wordNode 8 "x", .mapping (some 9) [
        (wordNode 9 "object", wordNode 9 "A"), (wordNode 10 "include", wordNode 10 "c")])])]⟩)]

/-- The first group, with the field of the second one. -/
def chainedGroup : FieldGroup :=
  { name := "a", fields := [.mk "x" (.value ⟨.text "y", "f", 5⟩) "f" 5], file := "f", line := 1 }

theorem groups_expand_chained :
    let fault := (RecipeFault.recursiveGroup "c").errorAt "f" 6
    Expands chained "a" chainedGroup ∧ Reaches chained "c" "c" ∧
      ofDeclarations "f" { groups := chained } = .error fault ∧
      ∀ recipe, ofDeclarations "f" { groups := chained } ≠ .ok recipe := by
  intro fault
  obtain ⟨-, hexpands, -, -, hrecipes⟩ := groups_expand chained
  obtain ⟨hrecursive, hnone⟩ := hrecipes "f" { groups := chained } rfl
  have hfound : (Reading.findGroup chained "a" []).1 = .ok chainedGroup := rfl
  have herror : ofDeclarations "f" { groups := chained } = .error fault := rfl
  have hcycle : Reaches chained "c" "c" := hrecursive fault "c" herror rfl
  exact ⟨((hexpands [] .start).1 "a" chainedGroup).mp hfound, hcycle, herror,
    fun recipe => hnone "c" recipe hcycle⟩

end Recipe

end RecordRecipe
