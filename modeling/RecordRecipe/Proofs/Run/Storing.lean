import RecordRecipe.Proofs.Run.Account

/-!
# What is stored of a run

Every row that a sink is given to store comes from a template of the recipe, and holds what the
fields of this template have been rendered to: `Recipe.account_halted`.
-/

namespace RecordRecipe

variable {σ α : Type} {recipe : Recipe} {sink : Sink σ} {holds : List Storing → σ → Prop}
  {uses : List Making} {kept : List (RowRef × Assoc FieldValue)} {machine : Machine (Accounted σ)}

/-! ## States -/

namespace Machine.Stands

/-- A moment is noted. -/
theorem note (h : machine.Stands recipe sink holds uses kept) (moment : Moment) :
    ({ machine with out := machine.out.note moment } : Machine (Accounted σ)).Stands recipe sink
      holds (Accounted.follow uses moment) kept :=
  ⟨⟨h.balanced.declared, h.balanced.stored, h.balanced.holds⟩,
    congrArg (Accounted.follow · moment) h.uses, h.kept⟩

/-- A new row has no fields, and the others keep theirs. -/
theorem startRow (h : machine.Stands recipe sink holds uses kept) (table : String)
    (nickname : Option String) :
    (machine.startRow table nickname).Stands recipe sink holds uses
      (((machine.registry.startRow table nickname).1, []) :: kept) := by
  refine ⟨⟨h.balanced.declared, h.balanced.stored, h.balanced.holds⟩, h.uses, fun entry hentry => ?_⟩
  have hrows : (machine.startRow table nickname).registry.rows = machine.registry.rows.push [] :=
    Registry.startRow_rows
  obtain rfl | hentry := List.mem_cons.mp hentry
  · refine ⟨⟨machine.registry.rows.size, ?_, rfl⟩, Registry.fieldsOf_startRow_self⟩
    rw [hrows, Array.size_push]
    omega
  · obtain ⟨hmade, hfields⟩ := h.kept entry hentry
    refine ⟨?_, (Registry.fieldsOf_startRow hmade).trans hfields⟩
    obtain ⟨index, hindex, horigin⟩ := hmade
    refine ⟨index, ?_, horigin⟩
    rw [hrows, Array.size_push]
    omega

/-- A row that is started is none of those whose fields are kept. -/
theorem startRow_fresh (h : machine.Stands recipe sink holds uses kept) {table : String}
    {nickname : Option String} : ∀ entry ∈ kept,
      (machine.registry.startRow table nickname).1.origin ≠ entry.1.origin := by
  intro entry hentry heq
  obtain ⟨⟨index, hindex, horigin⟩, -⟩ := h.kept entry hentry
  rw [Registry.startRow_origin, horigin] at heq
  obtain rfl := Origin.made.inj heq
  exact Nat.lt_irrefl _ hindex

variable {row : RowRef} {fields : Assoc FieldValue}

/-- The row that is being built gets a field, and the others keep theirs. -/
theorem setField (h : machine.Stands recipe sink holds uses ((row, fields) :: kept))
    (hfresh : ∀ entry ∈ kept, row.origin ≠ entry.1.origin) (name : String) (value : FieldValue) :
    (machine.setField row name value).Stands recipe sink holds uses
      ((row, fields.put name value) :: kept) := by
  have hmade {other : RowRef} (hother : machine.registry.Made other) :
      (machine.setField row name value).registry.Made other := by
    obtain ⟨index, hindex, horigin⟩ := hother
    exact ⟨index, Nat.lt_of_lt_of_eq hindex Registry.setField_size.symm, horigin⟩
  refine ⟨⟨h.balanced.declared, h.balanced.stored, h.balanced.holds⟩, h.uses, fun entry hentry => ?_⟩
  obtain rfl | hentry := List.mem_cons.mp hentry
  · obtain ⟨hrow, hfields⟩ := h.kept (row, fields) List.mem_cons_self
    refine ⟨hmade hrow, (Registry.fieldsOf_setField_self hrow).trans ?_⟩
    rw [hfields]
  · obtain ⟨hother, hfields⟩ := h.kept entry (List.mem_cons_of_mem _ hentry)
    exact ⟨hmade hother, (Registry.fieldsOf_setField_ne (hfresh entry hentry)).trans hfields⟩

/-- A row is no longer looked after. -/
theorem forget (h : machine.Stands recipe sink holds uses ((row, fields) :: kept)) :
    machine.Stands recipe sink holds uses kept :=
  ⟨h.balanced, h.uses, fun entry hentry => h.kept entry (List.mem_cons_of_mem _ hentry)⟩

end Machine.Stands

/-! ## Parts of runs -/

/-- What is rendered is rendered as it is without an account. -/
theorem Sink.accountingDesk_attend (sink : Sink σ) (activation : Activation)
    (part : Running (Accounted σ) α) : sink.accountingDesk.attend activation part = part := by
  funext machine
  change (do
    let result ← part.onError fun error => sink.accountingDesk.note (.failed activation error)
    sink.accountingDesk.note (.rendered activation)
    return result) machine = part machine
  rw [Action.bind_apply]
  unfold Action.onError
  generalize part machine = run
  obtain ⟨result, last⟩ := run
  cases result with
  | ok a => rfl
  | error error => rfl

namespace Simulation

variable {setting : Setting} {frame : Frame} {frames : List Frame}

/-- A run of which account is kept, beside itself. -/
def accounting (setting : Setting) (recipe : Recipe) (sink : Sink σ)
    (holds : List Storing → σ → Prop) (uses : List Making)
    (kept : List (RowRef × Assoc FieldValue)) : Simulation (Accounted σ) (Accounted σ) where
  rules := Rules.all
  setting := setting
  left := sink.accountingDesk
  right := sink.accountingDesk
  rel := fun _ machine other => machine = other ∧ machine.Stands recipe sink holds uses kept
  known := fun _ _ => True
  broken := fun machine other => machine = other ∧ machine.out.Halted recipe sink holds

theorem accounting_observant :
    (accounting setting recipe sink holds uses kept).Observant where
  registry_eq := fun hrel => congrArg Machine.registry hrel.1
  registry_within := fun _ =>
    ⟨fun _ _ => trivial, fun _ _ => trivial, fun _ _ _ _ => within_true _⟩
  surrounded := fun _ => surrounded_true _ _
  draw := by
    rintro frames machine _ generator ⟨rfl, hstands⟩
    exact ⟨⟨rfl, hstands.balanced, hstands.uses, hstands.kept⟩, fun _ h => h⟩

/-- What agrees with itself keeps the account. -/
theorem accounts_of_agree {R : (RowRef → Prop) → α → α → Prop} {part : Running (Accounted σ) α}
    (h : (accounting setting recipe sink holds uses kept).Agree frames R part part) :
    part.Accounts recipe sink holds (Machine.Stands recipe sink holds uses kept)
      (fun _ => Machine.Stands recipe sink holds uses kept) := by
  intro machine hstands
  have houtcome := h.outcome machine machine ⟨rfl, hstands⟩ nofun
  generalize part machine = run at houtcome
  cases houtcome with
  | ok a _ machine _ hrel _ _ => exact .ok a machine hrel.2
  | error error machine _ hfailed =>
      obtain ⟨_, _, hstands⟩ | ⟨_, hhalted⟩ := hfailed
      · exact .error error machine hstands.balanced.halted
      · exact .error error machine hhalted
  | behind _ _ _ _ hahead => exact hahead.elim

/-- What keeps the account agrees with itself. -/
theorem renders_of_accounts {part : Running (Accounted σ) FieldValue}
    (h : part.Accounts recipe sink holds (Machine.Stands recipe sink holds uses kept)
      (fun _ => Machine.Stands recipe sink holds uses kept)) :
    (accounting setting recipe sink holds uses kept).Renders frames part part where
  outcome := by
    rintro machine _ ⟨rfl, hstands⟩ _
    have hends := h machine hstands
    generalize part machine = run at hends
    cases hends with
    | ok value machine hafter =>
        exact .ok value value _ _ ⟨rfl, hafter⟩ (fun _ h => h) ⟨rfl, within_true _⟩
    | error error machine hhalted => exact .error error _ _ (.inr ⟨rfl, hhalted⟩)
  goesOn := fun _ _ hahead => hahead.elim

end Simulation

namespace Running

open Simulation (accounting accounting_observant accounts_of_agree renders_of_accounts)

/-- A moment is noted. -/
theorem accounts_note (moment : Moment) :
    Accounts recipe sink holds (Machine.Stands recipe sink holds uses kept)
      (sink.accountingDesk.note moment)
      (fun _ => Machine.Stands recipe sink holds (Accounted.follow uses moment) kept) :=
  Accounts.quiet fun _ hstands => ⟨(), _, rfl, hstands.note moment⟩

variable {template : Template} {rendered : List (String × FieldValue)} {activation : Activation}
  {row : RowRef}

/-- A field that has been rendered is one more of the row that is being made. -/
theorem accounts_renderField {part : Running (Accounted σ) FieldValue}
    (h : part.Accounts recipe sink holds
      (Machine.Stands recipe sink holds (⟨template, rendered⟩ :: uses) kept)
      (fun _ => Machine.Stands recipe sink holds (⟨template, rendered⟩ :: uses) kept))
    (name : String) :
    (sink.accountingDesk.renderField activation name part).Accounts recipe sink holds
      (Machine.Stands recipe sink holds (⟨template, rendered⟩ :: uses) kept)
      (fun value => Machine.Stands recipe sink holds
        (⟨template, rendered ++ [(name, value)]⟩ :: uses) kept) := by
  refine (accounts_note (.opened activation name)).bind fun _ => h.bind fun value => ?_
  exact (accounts_note (.closed activation name value)).bind fun _ => .pure fun _ hstands => hstands

/-- A field of the row that is being built is set. -/
theorem accounts_setField {fields : Assoc FieldValue}
    (hfresh : ∀ entry ∈ kept, row.origin ≠ entry.1.origin) (name : String) (value : FieldValue) :
    (Running.setField row name value).Accounts recipe sink holds
      (Machine.Stands recipe sink holds uses ((row, fields) :: kept))
      (fun _ => Machine.Stands recipe sink holds uses ((row, fields.put name value) :: kept)) :=
  Accounts.quiet fun machine hstands =>
    ⟨(), machine.setField row name value, rfl, hstands.setField hfresh name value⟩

/-- The row of a template all of whose fields have been rendered is handed over and stored. -/
theorem accounts_hand (hsink : sink.Upholds recipe holds) (hpart : recipe.Has template)
    (hnames : rendered.map Prod.fst = template.fields.map Field.name)
    (htable : row.table = template.table) (activation : Activation) :
    (sink.accountingDesk.hand activation row).Accounts recipe sink holds
      (Machine.Stands recipe sink holds (⟨template, rendered⟩ :: uses)
        ((row, Assoc.ofList rendered) :: kept))
      (fun _ => Machine.Stands recipe sink holds (⟨template, rendered⟩ :: uses)
        ((row, Assoc.ofList rendered) :: kept)) := by
  intro machine hstands
  have hfields : machine.registry.fieldsOf row = Assoc.ofList rendered :=
    (hstands.kept (row, Assoc.ofList rendered) List.mem_cons_self).2
  have hhanded : machine.out.noteHanded.handed = machine.out.handed ++ [⟨template, rendered⟩] := by
    rw [Accounted.noteHanded, hstands.uses]
    rfl
  have hdeclared : machine.out.noteHanded.declared = [recipe.tables] := hstands.balanced.declared
  have hwritten := Accounted.write_ends hsink hdeclared hhanded hstands.balanced.stored
    hstands.balanced.holds hstands.uses hpart hnames row.id
  -- The references of a row are noted before it is written, which changes no fields.
  change Accounted.Ends recipe sink holds _
    ((sink.accounted.write ⟨row.table, row.id, machine.registry.fieldsOf row⟩
        machine.out.noteHanded).1,
      { machine.noteReferences row with
        out := (sink.accounted.write ⟨row.table, row.id, machine.registry.fieldsOf row⟩
          machine.out.noteHanded).2 })
  rw [hfields, htable]
  generalize sink.accounted.write ⟨template.table, row.id, Assoc.ofList rendered⟩
    machine.out.noteHanded = run at hwritten ⊢
  cases hwritten with
  | ok account h => exact .ok () _ ⟨h.1, h.2, hstands.kept⟩
  | error error account h => exact .error error _ h

/-- A row of a template is started, filled, handed over and left to its friends. -/
theorem accounts_row (hsink : sink.Upholds recipe holds) (hpart : recipe.Has template)
    {fill friends : RowRef → Running (Accounted σ) Unit}
    (hfill : ∀ row, (∀ entry ∈ kept, row.origin ≠ entry.1.origin) →
      (fill row).Accounts recipe sink holds
        (Machine.Stands recipe sink holds (⟨template, []⟩ :: uses) ((row, []) :: kept))
        (fun _ machine => ∃ rendered, rendered.map Prod.fst = template.fields.map Field.name ∧
          machine.Stands recipe sink holds (⟨template, rendered⟩ :: uses)
            ((row, Assoc.ofList rendered) :: kept)))
    (hfriends : ∀ row rendered, (friends row).Accounts recipe sink holds
      (Machine.Stands recipe sink holds (⟨template, rendered⟩ :: uses) kept)
      (fun _ => Machine.Stands recipe sink holds (⟨template, rendered⟩ :: uses) kept))
    (nickname : Option String) (activation : RowRef → Activation) (frame : Error → Error) :
    Running.Accounts recipe sink holds
      (fun machine => ∃ rendered,
        machine.Stands recipe sink holds (⟨template, rendered⟩ :: uses) kept)
      (do
        let row ← Running.onRegistry (Registry.startRow template.table nickname)
        sink.accountingDesk.note (.started (activation row))
        (fill row).mapError frame
        (sink.accountingDesk.hand (activation row) row).mapError frame
        friends row
        return row)
      (fun _ machine => ∃ rendered,
        machine.Stands recipe sink holds (⟨template, rendered⟩ :: uses) kept) := by
  rintro machine ⟨rendered, hstands⟩
  have hfresh : ∀ entry ∈ kept,
      (machine.registry.startRow template.table nickname).1.origin ≠ entry.1.origin :=
    hstands.startRow_fresh
  have hstarted := hstands.startRow template.table nickname
  have htable : (machine.registry.startRow template.table nickname).1.table = template.table :=
    Registry.startRow_table
  rw [Action.bind_apply]
  change Accounted.Ends recipe sink holds _ ((do
    sink.accountingDesk.note
      (.started (activation (machine.registry.startRow template.table nickname).1))
    (fill (machine.registry.startRow template.table nickname).1).mapError frame
    (sink.accountingDesk.hand (activation (machine.registry.startRow template.table nickname).1)
      (machine.registry.startRow template.table nickname).1).mapError frame
    friends (machine.registry.startRow template.table nickname).1
    return (machine.registry.startRow template.table nickname).1)
    (machine.startRow template.table nickname))
  generalize (machine.registry.startRow template.table nickname).1 = row at *
  refine ((accounts_note (.started (activation row))).bind fun _ => ?_) _ hstarted
  refine ((hfill row hfresh).mapError frame).bind fun _ => ?_
  rintro filled ⟨more, hnames, hfilled⟩
  refine (((accounts_hand hsink hpart hnames htable (activation row)).mapError frame).bind
    fun _ => ?_) filled hfilled
  exact ((hfriends row more).above fun _ hhanded => hhanded.forget).bind fun _ =>
    .pure fun _ hleft => ⟨more, hleft⟩

/-- Rows are made one after the other. -/
theorem accounts_repeatRows {before : Machine (Accounted σ) → Prop}
    {make : Nat → Running (Accounted σ) RowRef}
    (h : ∀ number, (make number).Accounts recipe sink holds before fun _ => before)
    (left number : Nat) (last : Option RowRef) :
    (repeatRows make left number last).Accounts recipe sink holds before fun _ => before := by
  induction left generalizing number last with
  | zero => exact .pure fun _ hbefore => hbefore
  | succ left ih => exact (h number).bind fun row => ih (number + 1) (some row)

end Running

open Simulation (accounting accounting_observant accounts_of_agree renders_of_accounts)

mutual

/-- Definitions are rendered with a balanced account. -/
theorem operand_accounts (hsink : sink.Upholds recipe holds) (setting : Setting)
    (activation : Activation) (uses : List Making)
    (kept : List (RowRef × Assoc FieldValue)) : (definition : Definition) →
      (∀ record, definition.Holds record → recipe.Has record) →
        (accounting setting recipe sink holds uses kept).SameOperand [⟨activation, false⟩]
          (definition.operand setting sink.accountingDesk activation)
          (definition.operand setting sink.accountingDesk activation)
  | .value written, _ => by
      have hS : (accounting setting recipe sink holds uses kept).Observant := accounting_observant
      have hwritten : (accounting setting recipe sink holds uses kept).Renders
          [⟨activation, false⟩] (written.render setting activation)
          (written.render setting activation) := Simulation.written_agrees hS trivial
      refine ⟨?_, .none⟩
      dsimp only [Definition.operand]
      rwa [sink.accountingDesk_attend]
  | .call function positional named file line, h => by
      have hS : (accounting setting recipe sink holds uses kept).Observant := accounting_observant
      have hfirst := operands_account hsink setting activation uses kept positional
        fun definition hmem record hholds => h record (.positional hmem hholds)
      have hsecond := namedOperands_account hsink setting activation uses kept named
        fun entry hmem record hholds => h record (.named hmem hholds)
      have hrun := (Simulation.call_agrees hS hfirst hsecond function).mapError
        (Error.orAtLine file line)
      refine ⟨?_, ?_⟩
      · dsimp only [Definition.operand]
        rwa [sink.accountingDesk_attend]
      · dsimp only [Definition.operand]
        split
        · refine .some ⟨Simulation.renders_of_operands hfirst, ?_, rfl, rfl⟩
          rw [List.forall₂_map_left_iff, List.forall₂_map_right_iff]
          exact hsecond.imp fun _ _ hsame => ⟨hsame.1, hsame.2.render⟩
        · exact .none
  | .child record file line, h => by
      have hrecord := makeRows_accounts hsink setting activation.rows uses kept record
        (h record (.child file line))
      refine ⟨?_, .none⟩
      dsimp only [Definition.operand]
      rw [sink.accountingDesk_attend]
      exact renders_of_accounts (hrecord.bind fun _ => .pure fun _ hstands => hstands)

/-- Definitions are rendered with a balanced account as operands by position. -/
theorem operands_account (hsink : sink.Upholds recipe holds) (setting : Setting)
    (activation : Activation) (uses : List Making)
    (kept : List (RowRef × Assoc FieldValue)) : (definitions : List Definition) →
      (∀ definition ∈ definitions, ∀ record, definition.Holds record → recipe.Has record) →
        List.Forall₂ ((accounting setting recipe sink holds uses kept).SameOperand
            [⟨activation, false⟩])
          (operands setting sink.accountingDesk activation definitions)
          (operands setting sink.accountingDesk activation definitions)
  | [], _ => .nil
  | first :: rest, h =>
      .cons (operand_accounts hsink setting activation uses kept first (h first List.mem_cons_self))
        (operands_account hsink setting activation uses kept rest fun other hother =>
          h other (List.mem_cons_of_mem _ hother))

/-- Definitions are rendered with a balanced account as operands by name. -/
theorem namedOperands_account (hsink : sink.Upholds recipe holds) (setting : Setting)
    (activation : Activation) (uses : List Making)
    (kept : List (RowRef × Assoc FieldValue)) : (definitions : List (String × Definition)) →
      (∀ entry ∈ definitions, ∀ record, entry.2.Holds record → recipe.Has record) →
        List.Forall₂ ((accounting setting recipe sink holds uses kept).SameNamed
            [⟨activation, false⟩])
          (namedOperands setting sink.accountingDesk activation definitions)
          (namedOperands setting sink.accountingDesk activation definitions)
  | [], _ => .nil
  | (name, first) :: rest, h =>
      .cons ⟨rfl, operand_accounts hsink setting activation uses kept first
          (h (name, first) List.mem_cons_self)⟩
        (namedOperands_account hsink setting activation uses kept rest fun other hother =>
          h other (List.mem_cons_of_mem _ hother))

/-- Fields are rendered one after the other into the row that is being made. -/
theorem renderFields_accounts (hsink : sink.Upholds recipe holds) (setting : Setting)
    (activation : Activation) (template : Template)
    (uses : List Making) (kept : List (RowRef × Assoc FieldValue)) (row : RowRef)
    (hfresh : ∀ entry ∈ kept, row.origin ≠ entry.1.origin) : (fields : List Field) →
      (∀ field ∈ fields, ∀ record, field.definition.Holds record → recipe.Has record) →
        (rendered : List (String × FieldValue)) →
          (renderFields setting sink.accountingDesk activation row fields).Accounts recipe sink holds
            (Machine.Stands recipe sink holds (⟨template, rendered⟩ :: uses)
              ((row, Assoc.ofList rendered) :: kept))
            (fun _ machine => ∃ more, more.map Prod.fst = fields.map Field.name ∧
              machine.Stands recipe sink holds (⟨template, rendered ++ more⟩ :: uses)
                ((row, Assoc.ofList (rendered ++ more)) :: kept))
  | [], _, rendered => .pure fun _ hstands => ⟨[], rfl, by simpa using hstands⟩
  | .mk name definition file line :: rest, h, rendered => by
      have hfirst := accounts_of_agree (operand_accounts hsink setting activation
        (⟨template, rendered⟩ :: uses) ((row, Assoc.ofList rendered) :: kept) definition
        (h _ List.mem_cons_self)).render
      refine ((Running.accounts_renderField hfirst name).mapError _).bind fun value => ?_
      refine (Running.accounts_setField hfresh name value).bind fun _ => ?_
      have hput : (Assoc.ofList rendered).put name value =
          Assoc.ofList (rendered ++ [(name, value)]) := by
        simp [Assoc.ofList, Assoc.putAll]
      rw [hput]
      refine (renderFields_accounts hsink setting activation template uses kept row hfresh rest
        (fun field hmem => h field (List.mem_cons_of_mem _ hmem))
        (rendered ++ [(name, value)])).imp ?_
      rintro _ machine ⟨more, hnames, hstands⟩
      refine ⟨(name, value) :: more, ?_, ?_⟩
      · rw [List.map_cons, List.map_cons, hnames]
        rfl
      · rwa [List.append_assoc, List.singleton_append] at hstands

/-- Templates make rows that are stored as they have been made. -/
theorem makeRows_accounts (hsink : sink.Upholds recipe holds) (setting : Setting)
    (enclosing : List RowRef) (uses : List Making)
    (kept : List (RowRef × Assoc FieldValue)) : (template : Template) → recipe.Has template →
      (template.makeRows setting sink.accountingDesk enclosing).Accounts recipe sink holds
        (Machine.Stands recipe sink holds uses kept)
        (fun _ => Machine.Stands recipe sink holds uses kept)
  | .mk table nickname count fields friends file line, hpart => by
      have hS : (accounting setting recipe sink holds
        (⟨.mk table nickname count fields friends file line, []⟩ :: uses) kept).Observant :=
          accounting_observant
      have hcount := accounts_of_agree (@Simulation.count_agrees _ _ _ hS
        ⟨{ table, enclosing }, false⟩ [] count fun _ _ => trivial)
      have hrow (number : Nat) := Running.accounts_row hsink hpart
        (fun row hfresh => renderFields_accounts hsink setting (.ofRow table enclosing number row)
          _ uses kept row hfresh fields (fun field hmem record hholds => hpart.child hmem hholds) [])
        (fun row rendered => makeAll_accounts hsink setting
          (Activation.ofRow table enclosing number row).rows
          (⟨.mk table nickname count fields friends file line, rendered⟩ :: uses) kept friends
          fun friend hmem => hpart.friend hmem)
        nickname (fun row => .ofRow table enclosing number row) (Error.orAtLine file line)
      unfold Template.makeRows
      dsimp only
      rw [sink.accountingDesk_attend]
      refine (Running.accounts_note _).bind fun _ => hcount.bind fun rows => ?_
      refine ((Running.accounts_repeatRows hrow rows 1 none).above fun _ hstands =>
        ⟨[], hstands⟩).bind fun last => ?_
      refine Running.Accounts.bind ?_ fun _ => .pure fun _ hstands => hstands
      exact .exists_before fun rendered => Running.accounts_note .left

/-- Lists of templates make rows that are stored as they have been made. -/
theorem makeAll_accounts (hsink : sink.Upholds recipe holds) (setting : Setting)
    (enclosing : List RowRef) (uses : List Making)
    (kept : List (RowRef × Assoc FieldValue)) : (templates : List Template) →
      (∀ template ∈ templates, recipe.Has template) →
        (makeAll setting sink.accountingDesk enclosing templates).Accounts recipe sink holds
          (Machine.Stands recipe sink holds uses kept)
          (fun _ => Machine.Stands recipe sink holds uses kept)
  | [], _ => .pure fun _ hstands => hstands
  | first :: rest, h =>
      (makeRows_accounts hsink setting enclosing uses kept first (h first List.mem_cons_self)).bind
        fun _ => makeAll_accounts hsink setting enclosing uses kept rest fun other hother =>
          h other (List.mem_cons_of_mem _ hother)

end

/-- Batches of rows are stored as they have been made. -/
theorem makeBatches_accounts (hsink : sink.Upholds recipe holds) (setting : Setting)
    (uses : List Making) (kept : List (RowRef × Assoc FieldValue)) (batches : Nat) :
    (makeBatches setting sink.accountingDesk recipe.templates batches).Accounts recipe sink holds
      (Machine.Stands recipe sink holds uses kept)
      (fun _ => Machine.Stands recipe sink holds uses kept) := by
  induction batches with
  | zero => exact .pure fun _ hstands => hstands
  | succ batches ih =>
      exact (makeAll_accounts hsink setting [] uses kept recipe.templates fun _ hmem =>
        .top hmem).bind fun _ => ih

namespace Recipe

/-- A sink that is told something else than a row stands by what is known of it. -/
theorem accounts_besides {action : Action σ Unit}
    (h : ∀ {stored out}, holds stored out → holds stored (action out).2) :
    (Running.onOut (Accounted.besides action)).Accounts recipe sink holds
      (Machine.Stands recipe sink holds uses kept)
      (fun _ => Machine.Stands recipe sink holds uses kept) := by
  intro machine hstands
  have hlast := h hstands.balanced.holds
  change Accounted.Ends recipe sink holds _ ((action machine.out.out).1,
    { machine with out := { machine.out with out := (action machine.out.out).2 } })
  generalize action machine.out.out = run at hlast ⊢
  obtain ⟨answer, out⟩ := run
  have hafter : ({ machine with out := { machine.out with out } } :
      Machine (Accounted σ)).Stands recipe sink holds uses kept :=
    ⟨⟨hstands.balanced.declared, hstands.balanced.stored, hlast⟩, hstands.uses, hstands.kept⟩
  cases answer with
  | ok done => exact .ok done _ hafter
  | error error => exact .error error _ hafter.balanced.halted

/-- A run whose options settle tells the sink the tables of the recipe first, and then gives it the
rows that it makes. -/
theorem account_ends {request : Request} {merged : MergedOptions} (out : σ)
    (hsink : sink.Upholds recipe holds)
    (hmerged : mergeOptions recipe.options request.options = .ok merged)
    (hdeclare : holds [] (sink.declare recipe.tables out).2) :
    Accounted.Ends recipe sink holds
      (fun _ machine => machine.Stands recipe sink holds [] [])
      (recipe.account request sink out) := by
  let told : Accounted σ :=
    { out := (sink.declare recipe.tables out).2, declared := [recipe.tables] }
  have hbalanced : told.Balanced recipe sink holds := ⟨rfl, .nil, hdeclare⟩
  have hstands : (request.start told).Stands recipe sink holds [] [] := ⟨hbalanced, rfl, nofun⟩
  have hrest : Running.Accounts recipe sink holds (Machine.Stands recipe sink holds [] [])
      (do
        makeBatches (request.setting merged) sink.accountingDesk recipe.templates request.batches
        recipe.conclude merged sink.accounted)
      (fun _ => Machine.Stands recipe sink holds [] []) := by
    refine (makeBatches_accounts hsink _ [] [] _).bind fun _ => ?_
    refine (accounts_besides hsink.flush).bind fun _ => ?_
    exact .quiet fun machine hstands => ⟨_, machine, rfl, hstands⟩
  have htold : Running.onOut (sink.accounted.declare recipe.tables) (request.start { out }) =
      ((sink.declare recipe.tables out).1, request.start told) := rfl
  rw [account, carryOut_eq hmerged, carryOutWith_eq, beforeFlush, Action.bind_assoc,
    Action.bind_apply, htold]
  cases (sink.declare recipe.tables out).1 with
  | ok done => exact hrest _ hstands
  | error error => exact .error error _ hbalanced.halted

/-- However a run whose options settle ends, its account has halted. -/
theorem account_halted {request : Request} {merged : MergedOptions} (out : σ)
    (hsink : sink.Upholds recipe holds)
    (hmerged : mergeOptions recipe.options request.options = .ok merged)
    (hdeclare : holds [] (sink.declare recipe.tables out).2) :
    (recipe.account request sink out).2.out.Halted recipe sink holds := by
  have hends := account_ends out hsink hmerged hdeclare
  generalize recipe.account request sink out = run at hends
  cases hends with
  | ok summary machine hstands => exact hstands.balanced.halted
  | error error machine hhalted => exact hhalted

/-- A run that succeeds ends with a balanced account. -/
theorem account_balanced {request : Request} {summary : Summary} (out : σ)
    (hsink : sink.Upholds recipe holds) (hdeclare : holds [] (sink.declare recipe.tables out).2)
    (hdone : (recipe.account request sink out).1 = .ok summary) :
    (recipe.account request sink out).2.out.Balanced recipe sink holds := by
  cases hmerged : mergeOptions recipe.options request.options with
  | error error =>
      rw [account, carryOut_eq_fail hmerged] at hdone
      cases hdone
  | ok merged =>
      have hends := account_ends out hsink hmerged hdeclare
      generalize recipe.account request sink out = run at hends hdone
      cases hends with
      | ok summary machine hstands => exact hstands.balanced
      | error error machine _ => cases hdone

end Recipe

end RecordRecipe
