import RecordRecipe.Proofs.Run.Leads

/-!
# Calls side by side

Calls with operands that agree agree. `Simulation.call_agrees` is the main result; it goes through
the functions that choose, which render some of their operands, and those that render them all.
-/

namespace RecordRecipe

open RecordRecipe.Random (Generator)

/-- The branch of a condition that an operand is. -/
def Operand.branch {σ : Type} (operand : Operand σ) : Except Error (Choice σ) := do
  match ← operand.choice? with
  | none => throw CallFault.ifBranch.error
  | some choice => return choice

/-- The branches of a condition are its operands one by one. -/
theorem Call.branches_eq_mapM {σ : Type} (operands : List (Operand σ)) :
    Call.branches operands = operands.mapM Operand.branch := by
  induction operands with
  | nil => rfl
  | cons first rest ih =>
      rw [branches, List.mapM_cons, ih, Operand.branch]
      cases first.choice? with
      | error e => rfl
      | ok found => cases found <;> rfl

namespace Simulation

variable {σ τ : Type}

/-- Named ways to render values, under the same names. -/
def NamedRenders (S : Simulation σ τ) (frames : List Frame)
    (first : String × Running σ FieldValue) (second : String × Running τ FieldValue) : Prop :=
  first.1 = second.1 ∧ S.Renders frames first.2 second.2

/-- Entries of choices that agree. -/
structure SameEntry (S : Simulation σ τ) (frames : List Frame) (first : ChoiceEntry σ)
    (second : ChoiceEntry τ) : Prop where
  positional : List.Forall₂ (S.Renders frames) first.positional second.positional
  named : List.Forall₂ (S.NamedRenders frames) first.named second.named
  file : first.file = second.file
  line : first.line = second.line

/-- Choices that agree. -/
structure SameChoice (S : Simulation σ τ) (frames : List Frame) (first : Choice σ)
    (second : Choice τ) : Prop where
  probability : Option.Rel (S.Renders frames) first.probability second.probability
  condition : Option.Rel (S.Renders frames) first.condition second.condition
  pick : S.Renders frames first.pick second.pick

/-- Operands that agree. -/
structure SameOperand (S : Simulation σ τ) (frames : List Frame) (first : Operand σ)
    (second : Operand τ) : Prop where
  render : S.Renders frames first.render second.render
  entry : Option.Rel (S.SameEntry frames) first.entry second.entry

/-- Named operands that agree, under the same name. -/
def SameNamed (S : Simulation σ τ) (frames : List Frame) (first : String × Operand σ)
    (second : String × Operand τ) : Prop :=
  first.1 = second.1 ∧ S.SameOperand frames first.2 second.2

variable {S : Simulation σ τ} {frames : List Frame}

/-- What is found under a name in lists that agree agrees. -/
theorem find?_rel {α β : Type} {R : α → β → Prop} {first : Assoc α} {second : Assoc β}
    (h : List.Forall₂ (fun a b : String × _ => a.1 = b.1 ∧ R a.2 b.2) first second)
    (name : String) : Option.Rel R (first.find? name) (second.find? name) := by
  induction h with
  | nil => exact .none
  | @cons a b first second hhead _ ih =>
      obtain ⟨key, value⟩ := a
      obtain ⟨other, found⟩ := b
      obtain ⟨rfl, hvalue⟩ := hhead
      by_cases hkey : key = name
      · simpa [Assoc.find?, hkey] using Option.Rel.some hvalue
      · simpa [Assoc.find?, hkey] using ih

/-- Lists that agree have the same names. -/
theorem keys_eq {α β : Type} {R : α → β → Prop} {first : Assoc α} {second : Assoc β}
    (h : List.Forall₂ (fun a b : String × _ => a.1 = b.1 ∧ R a.2 b.2) first second) :
    first.keys = second.keys := by
  induction h with
  | nil => rfl
  | cons hhead _ ih =>
      rw [Assoc.keys, Assoc.keys] at *
      rw [List.map_cons, List.map_cons, hhead.1, ih]

/-- Lists that agree are both empty or not. -/
theorem isEmpty_eq {α β : Type} {R : α → β → Prop} {first : List α} {second : List β}
    (h : List.Forall₂ R first second) : first.isEmpty = second.isEmpty := by
  cases h <;> rfl

/-- Options that agree are both absent or not. -/
theorem isNone_eq {α β : Type} {R : α → β → Prop} {first : Option α} {second : Option β}
    (h : Option.Rel R first second) : first.isNone = second.isNone := by
  cases h <;> rfl

/-- Lists that agree in what is absent are all absent or not. -/
theorem all_isNone_eq {α β : Type} {first : List (Option α)} {second : List (Option β)}
    (h : List.Forall₂ (fun a b => a.isNone = b.isNone) first second) :
    first.all Option.isNone = second.all Option.isNone := by
  induction h with
  | nil => rfl
  | cons hhead _ ih => rw [List.all_cons, List.all_cons, hhead, ih]

/-- In lists that agree, the first item of a kind stands at the same place. -/
theorem findIdx?_eq {α β : Type} {R : α → β → Prop} {first : List α} {second : List β}
    {p : α → Bool} {q : β → Bool} (h : List.Forall₂ R first second)
    (hsame : ∀ a b, R a b → p a = q b) : first.findIdx? p = second.findIdx? q := by
  induction h with
  | nil => rfl
  | cons hhead _ ih => rw [List.findIdx?_cons, List.findIdx?_cons, hsame _ _ hhead, ih]

/-- The choices that entries say agree. -/
theorem choice_rel {first : ChoiceEntry σ} {second : ChoiceEntry τ}
    (h : S.SameEntry frames first second) :
    SameResult (S.SameChoice frames) first.choice second.choice := by
  have hfault (fault : CallFault) : first.fault fault = second.fault fault := by
    rw [ChoiceEntry.fault, ChoiceEntry.fault, h.file, h.line]
  have hkeys : first.named.keys = second.named.keys := keys_eq h.named
  have hpick : Option.Rel (S.Renders frames)
      (first.named.find? "pick" <|> first.positional.head?)
      (second.named.find? "pick" <|> second.positional.head?) := by
    have hnamed := find?_rel h.named "pick"
    generalize first.named.find? "pick" = found at hnamed
    generalize second.named.find? "pick" = other at hnamed
    cases hnamed with
    | some hvalue => exact .some hvalue
    | none =>
        have hpositional := h.positional
        generalize first.positional = left at hpositional
        generalize second.positional = right at hpositional
        cases hpositional with
        | nil => exact .none
        | cons hhead _ => exact .some hhead
  unfold ChoiceEntry.choice
  rw [hkeys]
  split
  next name _ => rw [hfault]; exact .error _
  next =>
    generalize (first.named.find? "pick" <|> first.positional.head?) = left at hpick
    generalize (second.named.find? "pick" <|> second.positional.head?) = right at hpick
    cases hpick with
    | none => rw [hfault]; exact .error _
    | some hvalue =>
        exact .ok _ _ ⟨find?_rel h.named "probability", find?_rel h.named "when", hvalue⟩

/-- The choices that operands are agree. -/
theorem choice?_rel {first : Operand σ} {second : Operand τ}
    (h : S.SameOperand frames first second) :
    SameResult (Option.Rel (S.SameChoice frames)) first.choice? second.choice? := by
  have hentry := h.entry
  unfold Operand.choice?
  generalize first.entry = left at hentry
  generalize second.entry = right at hentry
  cases hentry with
  | none => exact .ok none none .none
  | @some entry other hsame =>
      have hchoice := choice_rel hsame
      dsimp only
      generalize entry.choice = left at hchoice
      generalize other.choice = right at hchoice
      cases hchoice with
      | ok a b h => exact .ok (some a) (some b) (.some h)
      | error e => exact .error e

/-- A fault of a call is the same on both sides. -/
theorem fault_agrees {α β : Type} {R : (RowRef → Prop) → α → β → Prop} {fault : CallFault} :
    S.Agree frames R (Running.fault fault) (Running.fault fault) :=
  .fail

/-- A thing that is drawn by number is rendered alike. -/
theorem renderAt_agrees {first : List (Running σ FieldValue)} {second : List (Running τ FieldValue)}
    (h : List.Forall₂ (S.Renders frames) first second) (index : Nat) :
    S.Renders frames (Call.renderAt first index) (Call.renderAt second index) := by
  unfold Call.renderAt
  induction h generalizing index with
  | nil => exact .pure fun _ _ => ⟨rfl, trivial⟩
  | cons hhead _ ih =>
      cases index with
      | zero => exact hhead
      | succ index => exact ih index

/-- Values that agree weigh the same. -/
theorem weight_agrees {known : RowRef → Prop} {value other : FieldValue}
    (h : SameValue known value other) :
    S.Agree frames SamePlain (Action.lift (value.asWeight.mapError CallFault.error))
      (Action.lift (other.asWeight.mapError CallFault.error)) := by
  obtain ⟨rfl, _⟩ := h
  exact .liftSame

/-- Picks that agree, with the same weight. -/
def SameWeighed (S : Simulation σ τ) (frames : List Frame) (first : Float × Running σ FieldValue)
    (second : Float × Running τ FieldValue) : Prop :=
  first.1 = second.1 ∧ S.Renders frames first.2 second.2

/-- Choices that agree are weighed alike. -/
theorem weigh_agrees {first : List (Option (Choice σ))} {second : List (Option (Choice τ))}
    (h : List.Forall₂ (Option.Rel (S.SameChoice frames)) first second) :
    S.Agree frames (fun _ => List.Forall₂ (S.SameWeighed frames)) (Call.weigh first)
      (Call.weigh second) := by
  induction h with
  | nil => exact .pure fun _ _ => .nil
  | cons hhead _ ih =>
      cases hhead with
      | none => exact fault_agrees
      | @some choice other hchoice =>
          have hprobability := hchoice.probability
          unfold Call.weigh
          generalize choice.probability = left at hprobability
          generalize other.probability = right at hprobability
          cases hprobability with
          | none => exact fault_agrees
          | some hrender =>
              refine hrender.bind fun known value other hvalue => ?_
              refine (weight_agrees hvalue).bind ?_
              rintro _ weight _ rfl
              refine ih.bind fun _ others more hothers => ?_
              exact .pure fun _ _ => .cons ⟨rfl, hchoice.pick⟩ hothers

/-- The weights of names are rendered alike. -/
theorem nameWeights_agrees {first : Assoc (Operand σ)} {second : Assoc (Operand τ)}
    (h : List.Forall₂ (S.SameNamed frames) first second) :
    S.Agree frames SamePlain (Call.nameWeights first) (Call.nameWeights second) := by
  induction h with
  | nil => exact .pure fun _ _ => rfl
  | cons hhead _ ih =>
      refine hhead.2.render.bind fun known value other hvalue => ?_
      refine (weight_agrees hvalue).bind ?_
      rintro _ weight _ rfl
      refine ih.bind ?_
      rintro _ others _ rfl
      exact .pure fun _ _ => rfl

/-- Operands that are related choices are related branches. -/
theorem SameResult.branch {R : Choice σ → Choice τ → Prop} {first : Operand σ}
    {second : Operand τ} (h : SameResult (Option.Rel R) first.choice? second.choice?) :
    SameResult R first.branch second.branch := by
  unfold Operand.branch
  generalize first.choice? = left at h
  generalize second.choice? = right at h
  cases h with
  | error e => exact .error e
  | ok _ _ hfound =>
      cases hfound with
      | none => exact .error _
      | some hsame => exact .ok _ _ hsame

/-- Branches of conditions agree. -/
theorem branches_rel {first : List (Operand σ)} {second : List (Operand τ)}
    (h : List.Forall₂ (S.SameOperand frames) first second) :
    SameResult (List.Forall₂ (S.SameChoice frames)) (Call.branches first)
      (Call.branches second) := by
  rw [Call.branches_eq_mapM, Call.branches_eq_mapM]
  exact .mapM h fun _ _ hsame => (choice?_rel hsame).branch

/-- In branches that have conditions or not alike, the first one that may not be without one is in
the same place. -/
theorem findIdx?_isNone_eq {first : List (Choice σ)} {second : List (Choice τ)}
    (h : List.Forall₂ (fun choice other => choice.condition.isNone = other.condition.isNone)
      first second) :
    (first.dropLast.findIdx? fun branch => branch.condition.isNone) =
      second.dropLast.findIdx? fun branch => branch.condition.isNone := by
  rw [List.dropLast_eq_take, List.dropLast_eq_take, h.length_eq]
  exact findIdx?_eq (List.forall₂_take _ h) fun _ _ hsame => hsame

/-- The first branch that holds is chosen alike. -/
theorem firstBranch_agrees {first : List (Choice σ)} {second : List (Choice τ)}
    (h : List.Forall₂ (S.SameChoice frames) first second) :
    S.Renders frames (Call.firstBranch first) (Call.firstBranch second) := by
  induction h with
  | nil => exact .pure fun _ _ => ⟨rfl, trivial⟩
  | @cons choice other first second hhead _ ih =>
      have hcondition := hhead.condition
      unfold Call.firstBranch
      generalize choice.condition = left at hcondition
      generalize other.condition = right at hcondition
      cases hcondition with
      | none => exact hhead.pick
      | some hrender =>
          refine hrender.bind ?_
          rintro known value _ ⟨rfl, _⟩
          split
          · exact hhead.pick
          · exact ih

/-- The renderings of operands that agree agree. -/
theorem renders_of_operands {first : List (Operand σ)} {second : List (Operand τ)}
    (h : List.Forall₂ (S.SameOperand frames) first second) :
    List.Forall₂ (S.Renders frames) (first.map Operand.render) (second.map Operand.render) := by
  rw [List.forall₂_map_left_iff, List.forall₂_map_right_iff]
  exact h.imp fun _ _ hsame => hsame.render

/-- The same values in the same order, with references to known rows alone. -/
def SameValues (known : RowRef → Prop) (values others : List FieldValue) : Prop :=
  values = others ∧ ∀ value ∈ values, value.Within known

/-- The same named values in the same order, with references to known rows alone. -/
def SameFields (known : RowRef → Prop) (fields others : Assoc FieldValue) : Prop :=
  fields = others ∧ FieldsWithin known fields

/-- Things that are rendered in order give the same values. -/
theorem inOrder_agrees {first : List (Running σ FieldValue)} {second : List (Running τ FieldValue)}
    (h : List.Forall₂ (S.Renders frames) first second) :
    S.Agree frames SameValues (Running.inOrder first) (Running.inOrder second) := by
  induction h with
  | nil => exact .pure fun _ _ => ⟨rfl, by simp⟩
  | cons hhead _ ih =>
      refine hhead.bindKnowing ?_
      rintro known _ value _ ⟨rfl, hvalue⟩
      refine ih.anywhere.bindKnowing ?_
      rintro later hlater values _ ⟨rfl, hvalues⟩
      refine .pure fun last hlast => ⟨rfl, List.forall_mem_cons.mpr ⟨?_, ?_⟩⟩
      · exact (hvalue.mono hlater).mono hlast
      · exact fun value hvalue => (hvalues value hvalue).mono hlast

/-- Named things that are rendered in order give the same named values. -/
theorem namedInOrder_agrees {first : Assoc (Running σ FieldValue)}
    {second : Assoc (Running τ FieldValue)}
    (h : List.Forall₂ (S.NamedRenders frames) first second) :
    S.Agree frames SameFields (Running.namedInOrder first) (Running.namedInOrder second) := by
  induction h with
  | nil => exact .pure fun _ _ => ⟨rfl, by simp [FieldsWithin]⟩
  | @cons a b first second hhead _ ih =>
      obtain ⟨name, render⟩ := a
      obtain ⟨_, follow⟩ := b
      obtain ⟨rfl, hrender⟩ := hhead
      refine hrender.bindKnowing ?_
      rintro known _ value _ ⟨rfl, hvalue⟩
      refine ih.anywhere.bindKnowing ?_
      rintro later hlater fields _ ⟨rfl, hfields⟩
      refine .pure fun last hlast => ⟨rfl, List.forall_mem_cons.mpr ⟨?_, ?_⟩⟩
      · exact (hvalue.mono hlater).mono hlast
      · exact FieldsWithin.mono hfields hlast

/-- Arguments of a function that agree, with references to known rows alone. -/
def SameArguments (known : RowRef → Prop) (arguments others : CallArguments) : Prop :=
  arguments = others ∧ arguments.Within known

/-- Operands that agree are rendered to the same arguments. -/
theorem values_agrees {positional : List (Operand σ)} {others : List (Operand τ)}
    {named : Assoc (Operand σ)} {more : Assoc (Operand τ)}
    (hpositional : List.Forall₂ (S.SameOperand frames) positional others)
    (hnamed : List.Forall₂ (S.SameNamed frames) named more) :
    S.Agree frames SameArguments (Call.values positional named) (Call.values others more) := by
  have hrenders : List.Forall₂ (S.NamedRenders frames)
      (named.map fun entry => (entry.1, entry.2.render))
      (more.map fun entry => (entry.1, entry.2.render)) := by
    rw [List.forall₂_map_left_iff, List.forall₂_map_right_iff]
    exact hnamed.imp fun _ _ hsame => ⟨hsame.1, hsame.2.render⟩
  refine (inOrder_agrees (renders_of_operands hpositional)).bindKnowing ?_
  rintro known _ values _ ⟨rfl, hvalues⟩
  refine (namedInOrder_agrees hrenders).anywhere.bindKnowing ?_
  rintro later hlater fields _ ⟨rfl, hfields⟩
  have harguments : CallArguments.Within later { positional := values, named := fields } :=
    ⟨fun value hvalue => (hvalues value hvalue).mono hlater, hfields⟩
  exact .pure fun _ hlast => ⟨rfl, harguments.mono hlast⟩

section Observant

variable (hS : S.Observant)

include hS

/-- Random numbers that a call draws alike give the same value. -/
theorem drawCall_agrees {known : RowRef → Prop}
    {drawing : Generator → Except CallFault FieldValue × Generator}
    (h : ∀ generator, Gives (fun value => value.Within known) (drawing generator).1) :
    S.Leads known frames frames SameValue (Running.drawCall drawing) (Running.drawCall drawing) :=
  Leads.drawValue hS fun generator => Gives.mapError_iff.mpr (h generator)

/-- Operands that agree are chosen from alike. -/
theorem chooseListed_agrees {first : List (Operand σ)} {second : List (Operand τ)}
    (h : List.Forall₂ (S.SameOperand frames) first second) :
    S.Renders frames (Call.chooseListed first) (Call.chooseListed second) := by
  have hlength : first.length = second.length := h.length_eq
  have hempty : first.isEmpty = second.isEmpty := isEmpty_eq h
  have hchoices : SameResult (List.Forall₂ (Option.Rel (S.SameChoice frames)))
      (first.mapM Operand.choice?) (second.mapM Operand.choice?) :=
    .mapM h fun _ _ hsame => choice?_rel hsame
  unfold Call.chooseListed
  dsimp only
  rw [hempty]
  split
  · exact fault_agrees.bind fun _ _ _ (h : False) => h.elim
  · refine (Leads.lift hchoices).bind fun _ choices others hsame => ?_
    -- Plain operands are drawn from evenly, and choices by their weights.
    rw [all_isNone_eq (hsame.imp fun _ _ hsame => isNone_eq hsame), hlength]
    split
    · refine (Leads.drawPlain hS).bind ?_
      rintro _ index _ rfl
      exact renderAt_agrees (renders_of_operands h) index
    · refine (weigh_agrees hsame).bind fun _ weighed more hweighed => ?_
      have hweights : weighed.map Prod.fst = more.map Prod.fst := by
        induction hweighed with
        | nil => rfl
        | cons hhead _ ih => rw [List.map_cons, List.map_cons, hhead.1, ih]
      have hpicks : List.Forall₂ (S.Renders frames) (weighed.map Prod.snd)
          (more.map Prod.snd) := by
        rw [List.forall₂_map_left_iff, List.forall₂_map_right_iff]
        exact hweighed.imp fun _ _ hsame => hsame.2
      rw [hweights]
      refine (Leads.drawPlain hS).bind ?_
      rintro _ index _ rfl
      exact renderAt_agrees hpicks index

/-- Names with weights that agree are chosen from alike. -/
theorem chooseNamed_agrees {first : Assoc (Operand σ)} {second : Assoc (Operand τ)}
    (h : List.Forall₂ (S.SameNamed frames) first second) :
    S.Renders frames (Call.chooseNamed first) (Call.chooseNamed second) := by
  have hkeys : first.keys = second.keys := keys_eq h
  unfold Call.chooseNamed
  refine (nameWeights_agrees h).bind ?_
  rintro _ weights _ rfl
  refine (Leads.drawPlain hS).bind ?_
  rintro _ index _ rfl
  rw [hkeys]
  exact .pure fun _ _ => ⟨rfl, FieldValue.within_ofText⟩

/-- Random choices agree. -/
theorem randomChoice_agrees {positional : List (Operand σ)} {others : List (Operand τ)}
    {named : Assoc (Operand σ)} {more : Assoc (Operand τ)}
    (hpositional : List.Forall₂ (S.SameOperand frames) positional others)
    (hnamed : List.Forall₂ (S.SameNamed frames) named more) :
    S.Renders frames (Call.randomChoice positional named) (Call.randomChoice others more) := by
  unfold Call.randomChoice
  rw [isEmpty_eq hpositional, isEmpty_eq hnamed]
  split
  · exact chooseListed_agrees hS hpositional
  · split
    · exact chooseNamed_agrees hS hnamed
    · exact fault_agrees

omit hS in
/-- Conditions agree. -/
theorem conditional_agrees {positional : List (Operand σ)} {others : List (Operand τ)}
    {named : Assoc (Operand σ)} {more : Assoc (Operand τ)}
    (hpositional : List.Forall₂ (S.SameOperand frames) positional others)
    (hnamed : List.Forall₂ (S.SameNamed frames) named more) :
    S.Renders frames (Call.conditional positional named) (Call.conditional others more) := by
  unfold Call.conditional
  dsimp only
  rw [isEmpty_eq hnamed]
  split
  · exact fault_agrees.bind fun _ _ _ (h : False) => h.elim
  · refine (Leads.lift (branches_rel hpositional)).bind fun _ branches others hsame => ?_
    rw [findIdx?_isNone_eq (hsame.imp fun _ _ hsame => isNone_eq hsame.condition)]
    split
    · exact fault_agrees
    · exact firstBranch_agrees hsame

/-- Fields of rows and fake values agree. -/
theorem dotted_agrees {activation : Activation}
    {positional : List (Operand σ)} {others : List (Operand τ)} {named : Assoc (Operand σ)}
    {more : Assoc (Operand τ)}
    (hpositional : List.Forall₂ (S.SameOperand frames) positional others)
    (hnamed : List.Forall₂ (S.SameNamed frames) named more) (object method : String) :
    S.Renders frames (Call.dotted S.setting activation object method positional named)
      (Call.dotted S.setting activation object method others more) := by
  unfold Call.dotted
  split
  · refine (values_agrees hpositional hnamed).bindKnowing ?_
    rintro known _ arguments _ ⟨rfl, _⟩
    refine Leads.within hS fun later _ hsurrounded => drawCall_agrees hS fun generator => ?_
    have hfake := hsurrounded.setting.fake method arguments.locale? generator
    generalize S.setting.fake method arguments.locale? generator = drawn at hfake
    obtain ⟨found, generator⟩ := drawn
    cases found with
    | none => trivial
    | some value => exact hfake value rfl
  · -- The row is looked up in one registry, which both sides have.
    refine Leads.withRegistry hS fun known registry _ hregistry _ => ?_
    cases activation.rowNamed? registry object with
    | none => exact .fail
    | some row =>
        dsimp only
        cases hvalue : registry.field? row method with
        | none => exact .fail
        | some value =>
            have hwithin := hregistry.field? row method value hvalue
            exact .pure fun _ hlater => ⟨rfl, hwithin.mono hlater⟩

/-- Functions that receive values agree. -/
theorem eager_agrees {frame : Frame}
    {positional : List (Operand σ)} {others : List (Operand τ)} {named : Assoc (Operand σ)}
    {more : Assoc (Operand τ)}
    (hpositional : List.Forall₂ (S.SameOperand (frame :: frames)) positional others)
    (hnamed : List.Forall₂ (S.SameNamed (frame :: frames)) named more) {name : String}
    {function : EagerFunction} (hfunction : EagerFunction.ofName? name = some function) :
    S.Renders (frame :: frames) (Call.eager S.setting frame.activation function positional named)
      (Call.eager S.setting frame.activation function others more) := by
  refine (values_agrees hpositional hnamed).bindKnowing ?_
  rintro known _ arguments _ ⟨rfl, harguments⟩
  refine Leads.withRegistry hS fun later registry hlater hregistry hsurrounded => ?_
  refine drawCall_agrees hS fun generator => ?_
  have hhost := Activation.host_within hsurrounded.setting hregistry hsurrounded.rows
  exact EagerFunction.ofName?_within hfunction hhost (harguments.mono hlater) generator

/-- Calls of functions by their names agree. -/
theorem plain_agrees {frame : Frame}
    {positional : List (Operand σ)} {others : List (Operand τ)} {named : Assoc (Operand σ)}
    {more : Assoc (Operand τ)}
    (hpositional : List.Forall₂ (S.SameOperand (frame :: frames)) positional others)
    (hnamed : List.Forall₂ (S.SameNamed (frame :: frames)) named more) (function : String) :
    S.Renders (frame :: frames) (Call.plain S.setting frame.activation function positional named)
      (Call.plain S.setting frame.activation function others more) := by
  unfold Call.plain
  split
  · exact randomChoice_agrees hS hpositional hnamed
  · exact conditional_agrees hpositional hnamed
  · exact fault_agrees
  · cases hfunction : EagerFunction.ofName? function with
    | none => exact fault_agrees
    | some found => exact eager_agrees hS hpositional hnamed hfunction

/-- Calls with operands that agree agree. -/
theorem call_agrees {frame : Frame}
    {positional : List (Operand σ)} {others : List (Operand τ)} {named : Assoc (Operand σ)}
    {more : Assoc (Operand τ)}
    (hpositional : List.Forall₂ (S.SameOperand (frame :: frames)) positional others)
    (hnamed : List.Forall₂ (S.SameNamed (frame :: frames)) named more) (function : String) :
    S.Renders (frame :: frames) (Call.run S.setting frame.activation function positional named)
      (Call.run S.setting frame.activation function others more) := by
  unfold Call.run
  split
  · exact plain_agrees hS hpositional hnamed function
  · split
    · exact fault_agrees
    · exact dotted_agrees hS hpositional hnamed _ _

end Observant

end Simulation

end RecordRecipe
