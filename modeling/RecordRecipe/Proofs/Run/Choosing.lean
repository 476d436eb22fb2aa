import RecordRecipe.Proofs.Assoc
import RecordRecipe.Proofs.Run.Call
import RecordRecipe.Sink.Memory

/-!
# What is not chosen

`if` and `random_choice` render what decides their choice and then what they have chosen. So
whatever else they are given may be replaced by anything, and neither the value nor the state that
is left behind changes: `Definition.unchosen_immaterial` compares the two runs. An entry that varies
has to keep the names of its arguments, since these are looked at in all entries before anything is
rendered.
-/

namespace RecordRecipe

open RecordRecipe.Random (Generator)
open Simulation (SameResult)

/-! ## Lists that differ around a place -/

/-- Lists that are related by one relation in front of a place and by another behind it, and are the
same at this place. -/
inductive Around {α : Type} (Before After : α → α → Prop) : Nat → List α → List α → Prop
  | here {a : α} {rest others : List α} (h : List.Forall₂ After rest others) :
      Around Before After 0 (a :: rest) (a :: others)
  | there {k : Nat} {a b : α} {rest others : List α} (hhead : Before a b)
      (htail : Around Before After k rest others) :
      Around Before After (k + 1) (a :: rest) (b :: others)

namespace Around

variable {α β : Type} {Before After : α → α → Prop} {Front Back : β → β → Prop} {k : Nat}
  {items others : List α}

theorem getElem?_eq (h : Around Before After k items others) : items[k]? = others[k]? := by
  induction h with
  | here => rfl
  | there _ _ ih => simpa using ih

/-- Where both relations lie within one that relates everything to itself, the lists are related by
this item by item. -/
theorem forall₂ {R : α → α → Prop} (h : Around Before After k items others)
    (hbefore : ∀ a b, Before a b → R a b) (hrefl : ∀ a, R a a) (hafter : ∀ a b, After a b → R a b) :
    List.Forall₂ R items others := by
  induction h with
  | here hrest => exact .cons (hrefl _) (hrest.imp hafter)
  | there hhead _ ih => exact .cons (hbefore _ _ hhead) ih

/-- Results for such lists are such lists again, or one error. -/
theorem mapM {ε : Type} {f : α → Except ε β} (h : Around Before After k items others)
    (hbefore : ∀ a b, Before a b → SameResult Front (f a) (f b))
    (hafter : ∀ a b, After a b → SameResult Back (f a) (f b)) :
    SameResult (Around Front Back k) (items.mapM f) (others.mapM f) := by
  induction h with
  | @here a rest others hrest =>
      have hrests := SameResult.mapM hrest hafter
      rw [List.mapM_cons, List.mapM_cons]
      cases f a with
      | error e => exact .error e
      | ok b =>
          generalize rest.mapM f = left at hrests
          generalize others.mapM f = right at hrests
          cases hrests with
          | error e => exact .error e
          | ok _ _ h => exact .ok _ _ (.here h)
  | @there k a b rest others hhead _ ih =>
      have hresult := hbefore a b hhead
      rw [List.mapM_cons, List.mapM_cons]
      generalize f a = left at hresult
      generalize f b = right at hresult
      cases hresult with
      | error e => exact .error e
      | ok _ _ hfirst =>
          generalize rest.mapM f = left at ih
          generalize others.mapM f = right at ih
          cases ih with
          | error e => exact .error e
          | ok _ _ h => exact .ok _ _ (.there hfirst h)

end Around

/-! ## Entries of choices -/

namespace Definition

/-- A definition that is an entry of a choice. -/
def IsEntry : Definition → Prop
  | .call function _ _ _ _ => function = "choice"
  | _ => False

/-- An argument by name of an entry of a choice. -/
def argument? (name : String) : Definition → Option Definition
  | .call function _ named _ _ => if function = "choice" then Assoc.find? name named else none
  | _ => none

theorem isEntry_of_argument? {definition argument : Definition} {name : String}
    (h : definition.argument? name = some argument) : definition.IsEntry := by
  cases definition with
  | value | child => cases h
  | call function positional named file line =>
      rw [argument?] at h
      split at h
      next hentry => exact hentry
      next => cases h

end Definition

/-- Entries with as many arguments by position and with the same names, whose arguments are the same
but for those by position and those with free names. -/
inductive Varied (free : List String) : Definition → Definition → Prop
  | same (definition : Definition) : Varied free definition definition
  | entry {positional others : List Definition} {named more : Assoc Definition} {file : String}
      {line : Nat} (hpositional : positional.length = others.length)
      (hkeys : Assoc.keys named = Assoc.keys more)
      (hnamed : ∀ name ∉ free, Assoc.find? name named = Assoc.find? name more) :
      Varied free (.call "choice" positional named file line)
        (.call "choice" others more file line)

namespace Varied

variable {free : List String} {first second third : Definition}

/-- An argument with a free name may be any definition. -/
theorem put {positional : List Definition} {named : Assoc Definition} {file : String} {line : Nat}
    (name : String) (definition : Definition) (hname : name ∈ free)
    (hnamed : name ∈ Assoc.keys named) :
    Varied free (.call "choice" positional named file line)
      (.call "choice" positional (Assoc.put name definition named) file line) := by
  refine .entry rfl (Assoc.keys_put_of_mem hnamed).symm fun other hother => ?_
  rw [Assoc.find?_put, if_neg]
  rintro rfl
  exact hother hname

theorem trans (h : Varied free first second) (hsecond : Varied free second third) :
    Varied free first third := by
  cases h with
  | same => exact hsecond
  | entry hpositional hkeys hnamed =>
      cases hsecond with
      | same => exact .entry hpositional hkeys hnamed
      | entry hmore hmoreKeys hmoreNamed =>
          exact .entry (hpositional.trans hmore) (hkeys.trans hmoreKeys) fun name hname =>
            (hnamed name hname).trans (hmoreNamed name hname)

end Varied

/-- Another definition in place of an option that is no entry, or an entry with another pick. -/
inductive Replaced : Definition → Definition → Prop
  | bare {option other : Definition} (hoption : ¬ option.IsEntry) (hother : ¬ other.IsEntry) :
      Replaced option other
  | entry {option other : Definition} (h : Varied ["pick"] option other) : Replaced option other

section

variable {σ : Type} (setting : Setting) (desk : Desk σ) (activation : Activation)

/-- The first branch of a condition that holds has a number. The conditions of the branches in front
of it are rendered and fail; a branch without a condition holds. -/
inductive Chooses : List Definition → Nat → Machine σ → Prop
  | always {branch : Definition} {rest : List Definition} {machine : Machine σ}
      (h : branch.argument? "when" = none) : Chooses (branch :: rest) 0 machine
  | holds {branch condition : Definition} {rest : List Definition} {machine later : Machine σ}
      {value : FieldValue} (h : branch.argument? "when" = some condition)
      (hrender : condition.render setting desk activation machine = (.ok value, later))
      (hvalue : value.isTruthy = true) : Chooses (branch :: rest) 0 machine
  | fails {branch condition : Definition} {rest : List Definition} {machine later : Machine σ}
      {value : FieldValue} {k : Nat} (h : branch.argument? "when" = some condition)
      (hrender : condition.render setting desk activation machine = (.ok value, later))
      (hvalue : value.isTruthy = false) (hrest : Chooses rest k later) :
      Chooses (branch :: rest) (k + 1) machine

/-- The probabilities of options are rendered in order to weights. -/
inductive Weighs : List Definition → Machine σ → List Float → Machine σ → Prop
  | nil (machine : Machine σ) : Weighs [] machine [] machine
  | cons {option probability : Definition} {rest : List Definition}
      {machine middle later : Machine σ} {value : FieldValue} {weight : Float}
      {weights : List Float} (h : option.argument? "probability" = some probability)
      (hrender : probability.render setting desk activation machine = (.ok value, middle))
      (hweight : value.asWeight = .ok weight) (hrest : Weighs rest middle weights later) :
      Weighs (option :: rest) machine (weight :: weights) later

/-- The option of a number is drawn, evenly from options that are no entries and else by weight. -/
inductive Draws : List Definition → Nat → Machine σ → Prop
  | evenly {options : List Definition} {k : Nat} {machine : Machine σ} {generator : Generator}
      (hbare : ∀ option ∈ options, ¬ option.IsEntry)
      (hdraw : Random.index options.length machine.registry.generator = (k, generator)) :
      Draws options k machine
  | weighted {options : List Definition} {k : Nat} {machine later : Machine σ}
      {weights : List Float} {generator : Generator}
      (hweighs : Weighs setting desk activation options machine weights later)
      (hdraw : drawWeighted weights later.registry.generator = (.ok k, generator)) :
      Draws options k machine

end

/-! ## What entries say -/

theorem operands_eq_map {σ : Type} {setting : Setting} {desk : Desk σ} {activation : Activation}
    (definitions : List Definition) : operands setting desk activation definitions =
      definitions.map fun definition => definition.operand setting desk activation := by
  induction definitions with
  | nil => rfl
  | cons first rest ih => rw [operands, ih, List.map_cons]

theorem namedOperands_eq_map {σ : Type} {setting : Setting} {desk : Desk σ}
    {activation : Activation} (definitions : Assoc Definition) :
    namedOperands setting desk activation definitions =
      definitions.map fun entry => (entry.1, entry.2.operand setting desk activation) := by
  induction definitions with
  | nil => rfl
  | cons first rest ih => rw [namedOperands, ih, List.map_cons]

section

variable {σ : Type} {setting : Setting} {desk : Desk σ} {activation : Activation}

theorem Definition.choice?_of_not_isEntry {definition : Definition} (h : ¬ definition.IsEntry) :
    (definition.operand setting desk activation).choice? = .ok none := by
  cases definition with
  | value written => rfl
  | call function positional named file line =>
      have hentry : ((Definition.call function positional named file line).operand setting desk
          activation).entry = none := by
        rw [Definition.operand]
        exact if_neg h
      rw [Operand.choice?, hentry]
  | child record file line => rw [Definition.operand, Operand.choice?]

/-- What an entry says, if the names of its arguments are right and it has a pick. -/
theorem Definition.choice?_entry {positional : List Definition} {named : Assoc Definition}
    {file : String} {line : Nat} :
    Operand.choice? ((Definition.call "choice" positional named file line).operand setting desk
        activation) =
      match (Assoc.keys named).find? fun name => !ChoiceEntry.argumentNames.contains name with
      | some name => .error ((CallFault.choiceArgument name).error.atLine file line)
      | none =>
          match Assoc.find? "pick" named <|> positional.head? with
          | some pick => .ok (some {
              probability := (Assoc.find? "probability" named).map
                (Definition.render setting desk activation)
              condition := (Assoc.find? "when" named).map
                (Definition.render setting desk activation)
              pick := pick.render setting desk activation })
          | none => .error (CallFault.choiceWithoutPick.error.atLine file line) := by
  have hentry : ((Definition.call "choice" positional named file line).operand setting desk
      activation).entry = some {
        positional := positional.map (Definition.render setting desk activation)
        named := named.map fun entry => (entry.1, entry.2.render setting desk activation)
        file, line } := by
    rw [Definition.operand, operands_eq_map, namedOperands_eq_map]
    simp only [if_true, List.map_map]
    rfl
  have hkeys : Assoc.keys (named.map fun entry =>
      (entry.1, entry.2.render setting desk activation)) = Assoc.keys named := by
    simp [Assoc.keys]
  rw [Operand.choice?, hentry]
  dsimp only
  rw [ChoiceEntry.choice, hkeys]
  cases (Assoc.keys named).find? fun name => !ChoiceEntry.argumentNames.contains name with
  | some name => rfl
  | none =>
      simp only [Assoc.find?_map, List.head?_map]
      cases Assoc.find? "pick" named with
      | some pick => rfl
      | none => cases positional <;> rfl

/-- What the operand of a definition says as an entry, if it is one. -/
def ReadAs (setting : Setting) (desk : Desk σ) (activation : Activation) (definition : Definition)
    (found : Option (Choice σ)) : Prop :=
  (definition.operand setting desk activation).choice? = .ok found

/-- What is read in an entry comes from the arguments of the definition. -/
theorem ReadAs.cases_eq {definition : Definition} {found : Option (Choice σ)}
    (h : ReadAs setting desk activation definition found) :
    ¬ definition.IsEntry ∧ found = none ∨
      definition.IsEntry ∧ ∃ choice, found = some choice ∧
        choice.probability = (definition.argument? "probability").map
          (Definition.render setting desk activation) ∧
        choice.condition = (definition.argument? "when").map
          (Definition.render setting desk activation) := by
  unfold ReadAs at h
  by_cases hentry : definition.IsEntry
  · refine .inr ⟨hentry, ?_⟩
    cases definition with
    | value | child => exact hentry.elim
    | call function positional named file line =>
        obtain rfl : function = "choice" := hentry
        rw [Definition.choice?_entry] at h
        cases hname : (Assoc.keys named).find? fun name =>
          !ChoiceEntry.argumentNames.contains name with
        | some name => rw [hname] at h; cases h
        | none =>
            rw [hname] at h
            cases hpick : Assoc.find? "pick" named <|> positional.head? with
            | none => simp only [hpick] at h; cases h
            | some pick =>
                simp only [hpick] at h
                exact ⟨_, (Except.ok.inj h).symm, rfl, rfl⟩
  · rw [Definition.choice?_of_not_isEntry hentry] at h
    exact .inl ⟨hentry, (Except.ok.inj h).symm⟩

/-- Choices that have a condition or not alike, and have the same one unless it is free. So with
probabilities. -/
structure SameBut (free : List String) (choice other : Choice σ) : Prop where
  probability : "probability" ∉ free → choice.probability = other.probability
  condition : "when" ∉ free → choice.condition = other.condition
  isNone : choice.condition.isNone = other.condition.isNone

theorem SameBut.refl {free : List String} (choice : Choice σ) : SameBut free choice choice :=
  ⟨fun _ => rfl, fun _ => rfl, rfl⟩

/-- Definitions that vary in free arguments are read alike, or are wrong in the same way. -/
theorem Varied.choice? {free : List String} {definition other : Definition}
    (h : Varied free definition other) :
    SameResult (Option.Rel (SameBut free)) (definition.operand setting desk activation).choice?
      (other.operand setting desk activation).choice? := by
  cases h with
  | same =>
      cases (definition.operand setting desk activation).choice? with
      | error e => exact .error e
      | ok found =>
          cases found with
          | none => exact .ok none none .none
          | some choice => exact .ok _ _ (.some (.refl choice))
  | @entry positional others named more file line hpositional hkeys hnamed =>
      have hpick : (Assoc.find? "pick" named <|> positional.head?).isNone =
          (Assoc.find? "pick" more <|> others.head?).isNone := by
        have hnone : (Assoc.find? "pick" named).isNone = (Assoc.find? "pick" more).isNone := by
          rw [Assoc.isNone_find?, Assoc.isNone_find?, hkeys]
        have hhead : positional.head?.isNone = others.head?.isNone := by
          cases positional <;> cases others <;> simp_all
        simp only [Option.orElse_eq_orElse, Option.orElse_eq_or, Option.isNone_or, hnone, hhead]
      have hcondition : (Assoc.find? "when" named).isNone = (Assoc.find? "when" more).isNone := by
        rw [Assoc.isNone_find?, Assoc.isNone_find?, hkeys]
      rw [Definition.choice?_entry, Definition.choice?_entry, hkeys]
      cases (Assoc.keys more).find? fun name => !ChoiceEntry.argumentNames.contains name with
      | some name => exact .error _
      | none =>
          dsimp only
          generalize (Assoc.find? "pick" named <|> positional.head?) = pick at hpick
          generalize (Assoc.find? "pick" more <|> others.head?) = another at hpick
          cases pick <;> cases another
          · exact .error _
          · cases hpick
          · cases hpick
          · refine .ok _ _ (.some ⟨fun hfree => ?_, fun hfree => ?_, by simpa using hcondition⟩)
            · rw [hnamed "probability" hfree]
            · rw [hnamed "when" hfree]

/-! ## Conditions -/

/-- A branch has the condition of its definition. -/
theorem Operand.condition_of_branch {definition : Definition} {choice : Choice σ}
    (h : (definition.operand setting desk activation).branch = .ok choice) :
    choice.condition =
      (definition.argument? "when").map (Definition.render setting desk activation) := by
  obtain ⟨found, hfound, hchoice⟩ := bind_eq_ok h
  obtain ⟨-, rfl⟩ | ⟨-, choice, rfl, -, hcondition⟩ := ReadAs.cases_eq hfound
  · cases hchoice
  · obtain rfl := Except.ok.inj hchoice
    exact hcondition

/-- Two lists of branches that are the same at the first one that holds give the same. -/
theorem Chooses.firstBranch_eq {branches : List Definition} {k : Nat} {machine : Machine σ}
    (h : Chooses setting desk activation branches k machine) {choices others : List (Choice σ)}
    (hread : List.Forall₂ (fun branch choice => Choice.condition choice =
      (branch.argument? "when").map (Definition.render setting desk activation)) branches choices)
    (haround : Around (SameBut ["pick"]) (SameBut ["pick", "when"]) k choices others) :
    Call.firstBranch choices machine = Call.firstBranch others machine := by
  induction h generalizing choices others with
  | always h =>
      cases haround with
      | @here choice rest others hrest =>
          have hcondition : choice.condition = none := by
            simpa only [h, Option.map_none] using (List.forall₂_cons.mp hread).1
          rw [Call.firstBranch, Call.firstBranch, hcondition]
  | holds h hrender hvalue =>
      cases haround with
      | @here choice rest others hrest =>
          have hcondition := (List.forall₂_cons.mp hread).1
          rw [h, Option.map_some] at hcondition
          rw [Call.firstBranch, Call.firstBranch, hcondition]
          simp only [Action.bind_apply, hrender, hvalue, if_true]
  | fails h hrender hvalue hrest ih =>
      cases haround with
      | @there k choice other rest others hsame haround =>
          obtain ⟨hcondition, hread⟩ := List.forall₂_cons.mp hread
          rw [h, Option.map_some] at hcondition
          have hother := (hsame.condition (by decide)).symm.trans hcondition
          rw [Call.firstBranch, Call.firstBranch, hcondition, hother]
          simp only [Action.bind_apply, hrender, hvalue]
          exact ih hread haround

/-- A condition depends on nothing behind the branch that it chooses, nor on the picks in front. -/
theorem Chooses.conditional_eq {branches others : List Definition} {k : Nat} {machine : Machine σ}
    (h : Chooses setting desk activation branches k machine)
    (haround : Around (Varied ["pick"]) (Varied ["pick", "when"]) k branches others)
    (named : Assoc (Operand σ)) :
    Call.conditional (operands setting desk activation branches) named machine =
      Call.conditional (operands setting desk activation others) named machine := by
  have hbranches : SameResult (Around (SameBut ["pick"]) (SameBut ["pick", "when"]) k)
      (Call.branches (operands setting desk activation branches))
      (Call.branches (operands setting desk activation others)) := by
    simp only [Call.branches_eq_mapM, operands_eq_map, List.mapM_map]
    exact haround.mapM (fun _ _ h => h.choice?.branch) fun _ _ h => h.choice?.branch
  have hread (choices : List (Choice σ))
      (hchoices : Call.branches (operands setting desk activation branches) = .ok choices) :
      List.Forall₂ (fun branch choice => Choice.condition choice =
        (branch.argument? "when").map (Definition.render setting desk activation))
        branches choices := by
    rw [Call.branches_eq_mapM, operands_eq_map, List.mapM_map] at hchoices
    exact (forall₂_of_mapM hchoices).imp fun _ _ h => Operand.condition_of_branch h
  unfold Call.conditional
  dsimp only
  split
  · rfl
  · obtain ⟨e, hchoices, hmore⟩ | ⟨choices, more, hchoices, hmore, hsame⟩ := hbranches.cases_eq
    · rw [hchoices, hmore]
    · have hindex := Simulation.findIdx?_isNone_eq
        (hsame.forall₂ (fun _ _ h => h.isNone) (fun _ => rfl) fun _ _ h => h.isNone)
      simp only [hchoices, hmore, Action.bind_apply, Action.lift_apply, hindex]
      cases more.dropLast.findIdx? fun branch : Choice σ => branch.condition.isNone with
      | some index => rfl
      | none => exact h.firstBranch_eq (hread choices hchoices) hsame

/-! ## Random choices -/

/-- An option that is replaced is an entry as before, with the same probability. -/
theorem Replaced.choice? {option other : Definition} (h : Replaced option other) :
    SameResult (Option.Rel (SameBut ["pick"])) (option.operand setting desk activation).choice?
      (other.operand setting desk activation).choice? := by
  cases h with
  | bare hoption hother =>
      rw [Definition.choice?_of_not_isEntry hoption, Definition.choice?_of_not_isEntry hother]
      exact .ok none none .none
  | entry h => exact h.choice?

/-- What an option picks as an entry. -/
def Choice.pickOf (found : Option (Choice σ)) : Running σ FieldValue :=
  (found.map Choice.pick).getD (return .null)

/-- Weights that are rendered in order are those of the entries, with what these pick. -/
theorem Weighs.weigh {options : List Definition} {machine later : Machine σ} {weights : List Float}
    (h : Weighs setting desk activation options machine weights later)
    {choices : List (Option (Choice σ))}
    (hchoices : List.Forall₂ (ReadAs setting desk activation) options choices) :
    ∃ weighed, Call.weigh choices machine = (.ok weighed, later) ∧
      weighed.map Prod.fst = weights ∧ weighed.map Prod.snd = choices.map Choice.pickOf := by
  induction h generalizing choices with
  | nil machine =>
      cases hchoices
      exact ⟨[], rfl, rfl, rfl⟩
  | @cons option probability rest machine middle later value weight weights h hrender hweight
      hrest ih =>
      obtain ⟨_, choices, hfirst, hothers, rfl⟩ := List.forall₂_cons_left_iff.mp hchoices
      obtain ⟨weighed, hweighed, rfl, hpicks⟩ := ih hothers
      obtain ⟨hnot, -⟩ | ⟨-, choice, rfl, hprobability, -⟩ := ReadAs.cases_eq hfirst
      · exact absurd (Definition.isEntry_of_argument? h) hnot
      · rw [h, Option.map_some] at hprobability
        refine ⟨(weight, choice.pick) :: weighed, ?_, rfl, ?_⟩
        · rw [Call.weigh, hprobability]
          simp only [Action.bind_apply, hrender, hweight, Except.mapError, Action.lift_apply,
            hweighed]
          rfl
        · rw [List.map_cons, List.map_cons, hpicks]
          rfl

theorem Varied.argument?_eq {free : List String} {definition other : Definition} {name : String}
    (h : Varied free definition other) (hname : name ∉ free) :
    definition.argument? name = other.argument? name := by
  cases h with
  | same => rfl
  | entry _ _ hnamed => exact hnamed name hname

/-- Options that are replaced have the same weights. -/
theorem Weighs.replaced {options others : List Definition} {machine later : Machine σ}
    {weights : List Float} (h : Weighs setting desk activation options machine weights later)
    (hreplaced : List.Forall₂ Replaced options others) :
    Weighs setting desk activation others machine weights later := by
  induction h generalizing others with
  | nil machine =>
      cases hreplaced
      exact .nil machine
  | @cons option _ _ _ _ _ _ _ _ h hrender hweight _ ih =>
      obtain ⟨other, others, hfirst, hrest, rfl⟩ := List.forall₂_cons_left_iff.mp hreplaced
      cases hfirst with
      | bare hoption => exact absurd (Definition.isEntry_of_argument? h) hoption
      | entry hvaried =>
          have hsame : option.argument? "probability" = other.argument? "probability" :=
            hvaried.argument?_eq (by decide)
          exact .cons (hsame ▸ h) hrender hweight (ih hrest)

theorem Replaced.refl (option : Definition) : Replaced option option :=
  .entry (.same option)

theorem renderAt_eq {things others : List (Running σ FieldValue)} {k : Nat}
    (h : things[k]? = others[k]?) : Call.renderAt things k = Call.renderAt others k := by
  rw [Call.renderAt, Call.renderAt, List.getD_eq_getElem?_getD, List.getD_eq_getElem?_getD, h]

theorem read_of_mapM {definitions : List Definition} {choices : List (Option (Choice σ))}
    (h : (operands setting desk activation definitions).mapM Operand.choice? = .ok choices) :
    List.Forall₂ (ReadAs setting desk activation) definitions choices := by
  rw [operands_eq_map, List.mapM_map] at h
  exact forall₂_of_mapM h

/-- Options that are no entries are read as none. -/
theorem all_isNone_of_bare {options : List Definition} {choices : List (Option (Choice σ))}
    (hread : List.Forall₂ (ReadAs setting desk activation) options choices)
    (hbare : ∀ option ∈ options, ¬ option.IsEntry) : choices.all Option.isNone = true := by
  induction hread with
  | nil => rfl
  | cons hfirst _ ih =>
      obtain ⟨hnot, hrest⟩ := List.forall_mem_cons.mp hbare
      obtain ⟨-, rfl⟩ | ⟨hentry, -⟩ := hfirst.cases_eq
      · exact ih hrest
      · exact absurd hentry hnot

/-- Options with weights are read as entries. -/
theorem Weighs.all_isNone {options : List Definition} {machine later : Machine σ}
    {weights : List Float} (h : Weighs setting desk activation options machine weights later)
    {choices : List (Option (Choice σ))}
    (hread : List.Forall₂ (ReadAs setting desk activation) options choices)
    (hoptions : options ≠ []) : choices.all Option.isNone = false := by
  cases h with
  | nil => exact absurd rfl hoptions
  | cons h =>
      obtain ⟨_, choices, hfirst, -, rfl⟩ := List.forall₂_cons_left_iff.mp hread
      obtain ⟨hnot, -⟩ | ⟨-, choice, rfl, -⟩ := ReadAs.cases_eq hfirst
      · exact absurd (Definition.isEntry_of_argument? h) hnot
      · rfl

section

variable {list : List (Operand σ)} {choices : List (Option (Choice σ))} {machine : Machine σ}

theorem chooseListed_error {e : Error} (hempty : list.isEmpty = false)
    (hchoices : list.mapM Operand.choice? = .error e) :
    Call.chooseListed list machine = (.error e, machine) := by
  unfold Call.chooseListed
  dsimp only
  rw [if_neg (by simp [hempty]), hchoices]
  rfl

theorem chooseListed_evenly {k : Nat} {generator : Generator} (hempty : list.isEmpty = false)
    (hchoices : list.mapM Operand.choice? = .ok choices)
    (hbare : choices.all Option.isNone = true)
    (hdraw : Random.index list.length machine.registry.generator = (k, generator)) :
    Call.chooseListed list machine = Call.renderAt (list.map Operand.render) k
      { machine with registry := { machine.registry with generator } } := by
  unfold Call.chooseListed
  dsimp only
  rw [if_neg (by simp [hempty])]
  simp only [hchoices, Action.bind_apply, Action.lift_apply, hbare, if_true, Running.draw, hdraw]

theorem chooseListed_weighted {weighed : List (Float × Running σ FieldValue)} {later : Machine σ}
    {k : Nat} {generator : Generator} (hempty : list.isEmpty = false)
    (hchoices : list.mapM Operand.choice? = .ok choices)
    (hentry : choices.all Option.isNone = false)
    (hweigh : Call.weigh choices machine = (.ok weighed, later))
    (hdraw : drawWeighted (weighed.map Prod.fst) later.registry.generator = (.ok k, generator)) :
    Call.chooseListed list machine = Call.renderAt (weighed.map Prod.snd) k
      { later with registry := { later.registry with generator } } := by
  unfold Call.chooseListed
  dsimp only
  rw [if_neg (by simp [hempty])]
  simp only [hchoices, Action.bind_apply, Action.lift_apply, hentry, Bool.false_eq_true, if_false,
    hweigh, Running.drawCall, Running.draw, hdraw]
  rfl

end

/-- A random choice depends on no option but the one that is drawn. -/
theorem Draws.chooseListed_eq {options others : List Definition} {k : Nat} {machine : Machine σ}
    (h : Draws setting desk activation options k machine)
    (haround : Around Replaced Replaced k options others) :
    Call.chooseListed (operands setting desk activation options) machine =
      Call.chooseListed (operands setting desk activation others) machine := by
  have hreplaced : List.Forall₂ Replaced options others :=
    haround.forall₂ (fun _ _ h => h) Replaced.refl fun _ _ h => h
  have hresult : SameResult
      (Around (Option.Rel (SameBut ["pick"])) (Option.Rel (SameBut ["pick"])) k)
      ((operands setting desk activation options).mapM Operand.choice?)
      ((operands setting desk activation others).mapM Operand.choice?) := by
    simp only [operands_eq_map, List.mapM_map]
    exact haround.mapM (fun _ _ h => h.choice?) fun _ _ h => h.choice?
  have hempty : (operands setting desk activation options).isEmpty = false ∧
      (operands setting desk activation others).isEmpty = false := by
    cases haround <;> exact ⟨rfl, rfl⟩
  obtain ⟨e, hchoices, hmore⟩ | ⟨choices, more, hchoices, hmore, hsame⟩ := hresult.cases_eq
  · rw [chooseListed_error hempty.1 hchoices, chooseListed_error hempty.2 hmore]
  have hread := read_of_mapM hchoices
  have hreadMore := read_of_mapM hmore
  have hall : choices.all Option.isNone = more.all Option.isNone :=
    Simulation.all_isNone_eq (hsame.forall₂ (fun _ _ h => Simulation.isNone_eq h) (fun _ => rfl)
      fun _ _ h => Simulation.isNone_eq h)
  cases h with
  | evenly hbare hdraw =>
      have hnone := all_isNone_of_bare hread hbare
      have hlength : (operands setting desk activation options).length = options.length ∧
          (operands setting desk activation others).length = options.length := by
        simp only [operands_eq_map, List.length_map, hreplaced.length_eq, and_self]
      have hrender : ((operands setting desk activation options).map Operand.render)[k]? =
          ((operands setting desk activation others).map Operand.render)[k]? := by
        simp only [operands_eq_map, List.getElem?_map, haround.getElem?_eq]
      rw [chooseListed_evenly hempty.1 hchoices hnone (hlength.1 ▸ hdraw),
        chooseListed_evenly hempty.2 hmore (hall ▸ hnone) (hlength.2 ▸ hdraw),
        renderAt_eq hrender]
  | weighted hweighs hdraw =>
      have hentry := hweighs.all_isNone hread (by cases haround <;> simp)
      obtain ⟨weighed, hweigh, rfl, hpicks⟩ := hweighs.weigh hread
      obtain ⟨reweighed, hreweigh, hweights, hrepicks⟩ :=
        (hweighs.replaced hreplaced).weigh hreadMore
      have hpick : (choices.map Choice.pickOf)[k]? = (more.map Choice.pickOf)[k]? := by
        simp only [List.getElem?_map, hsame.getElem?_eq]
      rw [chooseListed_weighted hempty.1 hchoices hentry hweigh hdraw,
        chooseListed_weighted hempty.2 hmore (hall ▸ hentry) hreweigh (hweights ▸ hdraw),
        hpicks, hrepicks, renderAt_eq hpick]

theorem Draws.randomChoice_eq {options others : List Definition} {k : Nat} {machine : Machine σ}
    (h : Draws setting desk activation options k machine)
    (haround : Around Replaced Replaced k options others) (named : Assoc (Operand σ)) :
    Call.randomChoice (operands setting desk activation options) named machine =
      Call.randomChoice (operands setting desk activation others) named machine := by
  unfold Call.randomChoice
  split
  · exact h.chooseListed_eq haround
  · cases haround <;> rfl

/-! ## Calls -/

/-- The desk of a sink takes no note of moments. -/
theorem Sink.desk_attend {α : Type} (sink : Sink σ) (render : Running σ α) :
    sink.desk.attend activation render = render := by
  funext machine
  simp only [Desk.attend, Sink.desk, Action.bind_apply, Action.pure_apply, Action.onError]
  cases render machine with
  | mk result later => cases result <;> rfl

/-- The rendering of calls of one function comes to the same if the calls do. -/
theorem Definition.render_call_eq {sink : Sink σ} {function : String}
    {positional others : List Definition} {named : Assoc Definition} {file : String} {line : Nat}
    {machine : Machine σ}
    (h : Call.run setting activation function (operands setting sink.desk activation positional)
        (namedOperands setting sink.desk activation named) machine =
      Call.run setting activation function (operands setting sink.desk activation others)
        (namedOperands setting sink.desk activation named) machine) :
    (call function positional named file line).render setting sink.desk activation machine =
      (call function others named file line).render setting sink.desk activation machine := by
  rw [render, render, operand, operand, Sink.desk_attend, Sink.desk_attend]
  simp only [Action.mapError, h]

/-- An `if` comes to the same value and the same state with other picks in all branches but the one
that is the first to hold, and with other conditions in the branches behind that. A `random_choice`
comes to the same with all options replaced but the one that is drawn. -/
theorem Definition.unchosen_immaterial (setting : Setting) (sink : Sink σ) (activation : Activation)
    (machine : Machine σ) (k : Nat) (named : Assoc Definition) (file : String) (line : Nat) :
    (∀ branches others, Chooses setting sink.desk activation branches k machine →
      Around (Varied ["pick"]) (Varied ["pick", "when"]) k branches others →
      (call "if" branches named file line).render setting sink.desk activation machine =
        (call "if" others named file line).render setting sink.desk activation machine) ∧
    ∀ options others, Draws setting sink.desk activation options k machine →
      Around Replaced Replaced k options others →
      (call "random_choice" options named file line).render setting sink.desk activation
          machine =
        (call "random_choice" others named file line).render setting sink.desk activation
          machine := by
  refine ⟨fun branches others hchooses haround => render_call_eq ?_,
    fun options others hdraws haround => render_call_eq ?_⟩
  · exact hchooses.conditional_eq haround _
  · exact hdraws.randomChoice_eq haround _

end

/-- A word of the stream is one of a mixed block, added to the same of the block before mixing. -/
theorem Random.word_eq (key : Vector UInt32 8) (n : Nat) : Random.word key n =
    (Nat.repeat Random.doubleRound 6 (Random.initialBlock key (n / 16))).get
        ⟨n % 16, Nat.mod_lt _ (by decide)⟩ +
      (Random.initialBlock key (n / 16)).get ⟨n % 16, Nat.mod_lt _ (by decide)⟩ :=
  Vector.getElem_zipWith _

namespace Definition

/-- A child record of a table. -/
def childOf (table : String) : Definition :=
  .child (.mk table none none [] [] "recipe.yml" 1) "recipe.yml" 1

/-- A flag as it is written. -/
def flag (value : Bool) : Definition := .value ⟨.bool value, "recipe.yml", 1⟩

/-- Three branches, of which the second holds and picks a child record. -/
def threeBranches (first third condition : Definition) : List Definition :=
  [.call "choice" [] [("when", flag false), ("pick", first)] "recipe.yml" 2,
    .call "choice" [childOf "Dog"] [("when", flag true)] "recipe.yml" 3,
    .call "choice" [] [("pick", third), ("when", condition)] "recipe.yml" 4]

/-- What a definition comes to before any row has been made. -/
def renderAlone (definition : Definition) : Except Error FieldValue × Machine Sink.Kept :=
  definition.render ⟨[], .epoch, .builtin⟩ Sink.memory.desk { table := "Holder" }
    ⟨{ generator := ⟨#v[0, 0, 0, 0, 0, 0, 0, 0], 0⟩ }, {}⟩

theorem unchosen_immaterial_child :
    (renderAlone (.call "if" (threeBranches (childOf "Cat") (childOf "Bird") (flag true)) []
        "recipe.yml" 1)).1 = .ok (.row ⟨.made 0, "Dog", 1⟩) ∧
    renderAlone (.call "if" (threeBranches (childOf "Cat") (childOf "Bird") (flag true)) []
        "recipe.yml" 1) =
      renderAlone (.call "if" (threeBranches (childOf "Mouse") (flag false) (childOf "Fish")) []
        "recipe.yml" 1) ∧
    renderAlone (.call "random_choice" [childOf "Cat", childOf "Bird", childOf "Dog"] []
        "recipe.yml" 1) =
      renderAlone (.call "random_choice" [childOf "Mouse", flag false, childOf "Dog"] []
        "recipe.yml" 1) := by
  refine ⟨rfl, (unchosen_immaterial _ _ _ _ 1 _ _ _).1 _ _ ?_ ?_,
    (unchosen_immaterial _ _ _ _ 2 _ _ _).2 _ _ ?_ ?_⟩
  · exact .fails rfl rfl rfl (.holds rfl rfl rfl)
  · have hfirst : Varied ["pick"]
        (.call "choice" [] [("when", flag false), ("pick", childOf "Cat")] "recipe.yml" 2)
        (.call "choice" [] [("when", flag false), ("pick", childOf "Mouse")] "recipe.yml" 2) :=
      .put "pick" (childOf "Mouse") (by decide) (by decide)
    have hpick : Varied ["pick", "when"]
        (.call "choice" [] [("pick", childOf "Bird"), ("when", flag true)] "recipe.yml" 4)
        (.call "choice" [] [("pick", flag false), ("when", flag true)] "recipe.yml" 4) :=
      .put "pick" (flag false) (by decide) (by decide)
    have hcondition : Varied ["pick", "when"]
        (.call "choice" [] [("pick", flag false), ("when", flag true)] "recipe.yml" 4)
        (.call "choice" [] [("pick", flag false), ("when", childOf "Fish")] "recipe.yml" 4) :=
      .put "when" (childOf "Fish") (by decide) (by decide)
    exact .there hfirst (.here (.cons (hpick.trans hcondition) .nil))
  · refine .evenly (by simp [childOf, IsEntry]) (Prod.ext ?_ rfl)
    unfold Random.index Random.Source.below Random.patience
    simp only [Random.Source.wide, Generator.draw64, Random.word_eq]
    decide +kernel
  · exact .there (.bare id id) (.there (.bare id id) (.here .nil))

end Definition

end RecordRecipe
