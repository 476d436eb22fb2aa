import RecordRecipe.Proofs.Run.Trail

/-!
# Errors of calls

A call fails with the errors of its own faults, which have no place yet, and with those of the
arguments that it renders. Errors that fit the fields around them in the arguments do so in the
call: `Call.run_fits`.
-/

namespace RecordRecipe

open RecordRecipe.Random (Generator)

variable {σ : Type}

/-- A part of a run fails with errors that fit the fields that it leaves on the trail. -/
abbrev Running.Fits {α : Type} (part : Running (Trailed σ) α) : Prop := part.Suits Error.Fits

/-- A part of a run fails with errors that are located in the fields that it leaves on the trail. -/
abbrev Running.Locates {α : Type} (part : Running (Trailed σ) α) : Prop := part.Suits Error.Located

/-- What an entry of a choice says fails fittingly. -/
structure Choice.Fits (choice : Choice (Trailed σ)) : Prop where
  probability : ∀ part ∈ choice.probability, part.Fits
  condition : ∀ part ∈ choice.condition, part.Fits
  pick : choice.pick.Fits

/-- The arguments of an entry of a choice fail fittingly. -/
structure ChoiceEntry.Fits (entry : ChoiceEntry (Trailed σ)) : Prop where
  positional : ∀ part ∈ entry.positional, part.Fits
  named : ∀ argument ∈ entry.named, argument.2.Fits

/-- An argument of a call fails fittingly. -/
structure Operand.Fits (operand : Operand (Trailed σ)) : Prop where
  render : operand.render.Fits
  entry : ∀ entry ∈ operand.entry, entry.Fits

namespace Running.Suits

theorem fault {α : Type} {fault : CallFault} :
    Running.Fits (Running.fault fault : Running (Trailed σ) α) :=
  fail fault.error_bare.fits

theorem drawCall {α : Type} {drawing : Generator → Except CallFault α × Generator} :
    Running.Fits (Running.drawCall drawing : Running (Trailed σ) α) := by
  refine draw fun generator => ?_
  cases hdrawn : (drawing generator).1 with
  | ok a => simp [hdrawn]
  | error fault => simpa [hdrawn] using fault.error_bare.fits

/-- Things that are done in order fail where one of them does. -/
theorem inOrder {α : Type} {parts : List (Running (Trailed σ) α)}
    (h : ∀ part ∈ parts, part.Fits) : Running.Fits (Running.inOrder parts) := by
  induction parts with
  | nil => exact pure
  | cons first rest ih =>
      obtain ⟨hfirst, hrest⟩ := List.forall_mem_cons.mp h
      exact hfirst.bind fun _ => (ih hrest).bind fun _ => pure

/-- Named things that are done in order fail where one of them does. -/
theorem namedInOrder {α : Type} {parts : Assoc (Running (Trailed σ) α)}
    (h : ∀ part ∈ parts, part.2.Fits) : Running.Fits (Running.namedInOrder parts) := by
  induction parts with
  | nil => exact pure
  | cons first rest ih =>
      obtain ⟨hfirst, hrest⟩ := List.forall_mem_cons.mp h
      exact hfirst.bind fun _ => (ih hrest).bind fun _ => pure

/-- What comes behind a check that may fail. -/
theorem faultIf {α : Type} {condition : Prop} [Decidable condition] {why : CallFault}
    {rest : PUnit → Running (Trailed σ) α} (h : Running.Fits (rest ⟨⟩)) :
    Running.Fits (if condition then Running.fault why >>= rest else rest ⟨⟩) := by
  split
  · exact fault.bind fun _ => h
  · exact h

end Running.Suits

namespace Call

open Running.Suits

/-- The errors of an entry are those of its line. -/
theorem choice_refuses (entry : ChoiceEntry (Trailed σ)) :
    Refuses (Error.Fits []) entry.choice := by
  have hfault (fault : CallFault) : (entry.fault fault).Fits [] := Error.located_atLine.fits
  unfold ChoiceEntry.choice
  split
  next => exact hfault _
  next =>
    split
    next => trivial
    next => exact hfault _

/-- What an entry with fitting arguments says fails fittingly. -/
theorem choice_gives {entry : ChoiceEntry (Trailed σ)} (h : entry.Fits) :
    Gives Choice.Fits entry.choice := by
  have hnamed (name : String) : ∀ part ∈ entry.named.find? name, part.Fits :=
    fun part hpart => h.named (name, part) (Assoc.mem_of_find? hpart)
  unfold ChoiceEntry.choice
  split
  next => trivial
  next =>
    split
    next pick hpick =>
      refine ⟨hnamed _, hnamed _, ?_⟩
      cases hfound : entry.named.find? "pick" with
      | some found =>
          obtain rfl : found = pick := by simpa [hfound] using hpick
          exact hnamed "pick" found hfound
      | none =>
          obtain hhead : entry.positional.head? = some pick := by simpa [hfound] using hpick
          exact h.positional pick (List.mem_of_head? hhead)
    next => trivial

/-- The choice of an operand, if it is one. -/
theorem choice?_refuses (operand : Operand (Trailed σ)) :
    Refuses (Error.Fits []) operand.choice? := by
  unfold Operand.choice?
  split
  · simpa using choice_refuses _
  · trivial

theorem choice?_gives {operand : Operand (Trailed σ)} (h : operand.Fits) :
    Gives (fun choice => ∀ found ∈ choice, found.Fits) operand.choice? := by
  unfold Operand.choice?
  split
  next entry hentry => simpa using choice_gives (h.entry entry hentry)
  next => simp

variable {operands positional : List (Operand (Trailed σ))} {named : Assoc (Operand (Trailed σ))}

/-- The weights of choices are rendered one after the other. -/
theorem weigh_fits {choices : List (Option (Choice (Trailed σ)))}
    (h : ∀ choice ∈ choices, ∀ found ∈ choice, found.Fits) : Running.Fits (weigh choices) := by
  induction choices with
  | nil => exact pure
  | cons first rest ih =>
      obtain ⟨hfirst, hrest⟩ := List.forall_mem_cons.mp h
      cases first with
      | none => exact fault
      | some choice =>
          have hchoice : choice.Fits := hfirst choice rfl
          unfold weigh
          split
          next => exact fault
          next probability hprobability =>
            refine (hchoice.probability probability hprobability).bind fun value => ?_
            refine (lift ?_).bind fun weight => (ih hrest).bind fun _ => pure
            exact Refuses.mapError_iff.mpr (Refuses.of_forall fun fault => fault.error_bare.fits)

/-- What choices with weights pick fails fittingly. -/
theorem weigh_picks {choices : List (Option (Choice (Trailed σ)))}
    (h : ∀ choice ∈ choices, ∀ found ∈ choice, found.Fits) {machine last : Machine (Trailed σ)}
    {weighed : List (Float × Running (Trailed σ) FieldValue)}
    (hweighed : weigh choices machine = (.ok weighed, last)) :
    ∀ pair ∈ weighed, pair.2.Fits := by
  induction choices generalizing machine weighed last with
  | nil =>
      cases hweighed
      simp
  | cons first rest ih =>
      obtain ⟨hfirst, hrest⟩ := List.forall_mem_cons.mp h
      cases first with
      | none => cases hweighed
      | some choice =>
          unfold weigh at hweighed
          cases hprobability : choice.probability with
          | none =>
              rw [hprobability] at hweighed
              cases hweighed
          | some probability =>
              rw [hprobability] at hweighed
              obtain ⟨_, _, _, hweighed⟩ := Action.bind_eq_ok hweighed
              obtain ⟨_, _, _, hweighed⟩ := Action.bind_eq_ok hweighed
              obtain ⟨others, _, hothers, hweighed⟩ := Action.bind_eq_ok hweighed
              cases hweighed
              exact List.forall_mem_cons.mpr ⟨(hfirst choice rfl).pick, ih hrest hothers⟩

/-- One of some things is rendered. -/
theorem renderAt_fits {things : List (Running (Trailed σ) FieldValue)}
    (h : ∀ part ∈ things, part.Fits) (index : Nat) : Running.Fits (renderAt things index) := by
  unfold renderAt
  rw [List.getD_eq_getElem?_getD]
  cases hthing : things[index]? with
  | none => exact pure
  | some part => exact h part (List.mem_of_getElem? hthing)

theorem chooseListed_fits (h : ∀ operand ∈ operands, operand.Fits) :
    Running.Fits (chooseListed operands) := by
  have hchoices : Refuses (Error.Fits []) (operands.mapM Operand.choice?) :=
    Refuses.mapM fun operand _ => choice?_refuses operand
  have hgiven := Gives.mapM fun operand hoperand => choice?_gives (h operand hoperand)
  unfold chooseListed
  refine faultIf (liftBind hchoices hgiven fun choices hfit => ?_)
  split
  · refine bind (draw fun _ => ?_) fun index => renderAt_fits ?_ index
    · trivial
    · exact List.forall_mem_map.mpr fun operand hoperand => (h operand hoperand).render
  · refine (weigh_fits hfit).bindGiven fun _ weighed _ hweighed => ?_
    refine drawCall.bind fun index => renderAt_fits ?_ index
    exact List.forall_mem_map.mpr (weigh_picks hfit hweighed)

theorem nameWeights_fits (h : ∀ argument ∈ named, argument.2.Fits) :
    Running.Fits (nameWeights named) := by
  induction named with
  | nil => exact pure
  | cons first rest ih =>
      obtain ⟨hfirst, hrest⟩ := List.forall_mem_cons.mp h
      refine hfirst.render.bind fun value => ?_
      refine (lift ?_).bind fun _ => (ih hrest).bind fun _ => pure
      exact Refuses.mapError_iff.mpr (Refuses.of_forall fun fault => fault.error_bare.fits)

theorem randomChoice_fits (hpositional : ∀ operand ∈ positional, operand.Fits)
    (hnamed : ∀ argument ∈ named, argument.2.Fits) :
    Running.Fits (randomChoice positional named) := by
  unfold randomChoice
  split
  · exact chooseListed_fits hpositional
  · split
    · exact (nameWeights_fits hnamed).bind fun _ => drawCall.bind fun _ => pure
    · exact fault

/-- The branches of a condition are choices. -/
theorem branches_refuses (operands : List (Operand (Trailed σ))) :
    Refuses (Error.Fits []) (branches operands) := by
  induction operands with
  | nil => trivial
  | cons first rest ih =>
      refine (choice?_refuses first).bind fun choice => ?_
      cases choice with
      | none => exact CallFault.ifBranch.error_bare.fits
      | some choice => exact ih.bind fun _ => trivial

theorem branches_gives (h : ∀ operand ∈ operands, operand.Fits) :
    Gives (fun choices => ∀ choice ∈ choices, choice.Fits) (branches operands) := by
  induction operands with
  | nil => simp [branches]
  | cons first rest ih =>
      obtain ⟨hfirst, hrest⟩ := List.forall_mem_cons.mp h
      unfold branches
      rw [Gives.bind_iff]
      refine (choice?_gives hfirst).imp fun choice hchoice => ?_
      cases choice with
      | none => trivial
      | some choice =>
          dsimp only
          rw [Gives.bind_iff]
          refine (ih hrest).imp fun choices hchoices => ?_
          exact List.forall_mem_cons.mpr ⟨hchoice choice rfl, hchoices⟩

theorem firstBranch_fits {choices : List (Choice (Trailed σ))}
    (h : ∀ choice ∈ choices, choice.Fits) : Running.Fits (firstBranch choices) := by
  induction choices with
  | nil => exact pure
  | cons first rest ih =>
      obtain ⟨hfirst, hrest⟩ := List.forall_mem_cons.mp h
      unfold firstBranch
      split
      next => exact hfirst.pick
      next condition hcondition =>
        refine (hfirst.condition condition hcondition).bind fun value => ?_
        split
        · exact hfirst.pick
        · exact ih hrest

theorem conditional_fits (hpositional : ∀ operand ∈ positional, operand.Fits) :
    Running.Fits (conditional positional named) := by
  unfold conditional
  refine faultIf (liftBind (branches_refuses positional) (branches_gives hpositional)
    fun choices hfit => ?_)
  split
  · exact fault
  · exact firstBranch_fits hfit

theorem values_fits (hpositional : ∀ operand ∈ positional, operand.Fits)
    (hnamed : ∀ argument ∈ named, argument.2.Fits) : Running.Fits (values positional named) := by
  refine (inOrder ?_).bind fun _ => (namedInOrder ?_).bind fun _ => pure
  · exact List.forall_mem_map.mpr fun operand hoperand => (hpositional operand hoperand).render
  · exact List.forall_mem_map.mpr fun argument hargument => (hnamed argument hargument).render

variable {setting : Setting} {activation : Activation}

theorem dotted_fits (hpositional : ∀ operand ∈ positional, operand.Fits)
    (hnamed : ∀ argument ∈ named, argument.2.Fits) (object method : String) :
    Running.Fits (dotted setting activation object method positional named) := by
  unfold dotted
  split
  · exact (values_fits hpositional hnamed).bind fun _ => drawCall
  · refine registry.bind fun known => ?_
    split
    · exact fault
    · split
      · exact pure
      · exact fault

theorem plain_fits (hpositional : ∀ operand ∈ positional, operand.Fits)
    (hnamed : ∀ argument ∈ named, argument.2.Fits) (function : String) :
    Running.Fits (plain setting activation function positional named) := by
  unfold plain
  split
  · exact randomChoice_fits hpositional hnamed
  · exact conditional_fits hpositional
  · exact fault
  · split
    · exact (values_fits hpositional hnamed).bind fun _ => registry.bind fun _ => drawCall
    · exact fault

/-- A call with arguments that fail fittingly does so itself. -/
theorem run_fits (hpositional : ∀ operand ∈ positional, operand.Fits)
    (hnamed : ∀ argument ∈ named, argument.2.Fits) (function : String) :
    Running.Fits (run setting activation function positional named) := by
  unfold run
  split
  · exact plain_fits hpositional hnamed function
  · split
    · exact fault
    · exact dotted_fits hpositional hnamed _ _

end Call

end RecordRecipe
