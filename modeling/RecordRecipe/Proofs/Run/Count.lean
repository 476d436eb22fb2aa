import RecordRecipe.Proofs.Expr.Lookup
import RecordRecipe.Proofs.Run.Hosts
import RecordRecipe.Proofs.Run.Ledger

/-!
# How many rows a run makes

Where no count has to be worked out and no function chooses between its arguments, a template makes
the same number of rows whenever it is used. `Template.rowsIn` counts them along the tree of the
recipe. `Running.Adds` says of a part of a run how many rows of a table it hands over if it
succeeds; its rules follow the ways in which parts are put together, and `makeRows_adds` goes
through the tree. `Recipe.rows_counted` is what follows for whole runs.
-/

namespace RecordRecipe

variable {σ α β : Type}

/-! ## Counting along the tree -/

/-- A function that renders every argument once: one that receives values, or a fake value. -/
def RendersAll (function : String) : Prop :=
  (EagerFunction.ofName? function).isSome = true ∨ ∃ method, function = "fake." ++ method

mutual

/-- All functions in a definition render every argument, and the counts of child records are
given. -/
inductive Definition.Unconditional : Definition → Prop where
  | value (written : Written) : Definition.Unconditional (.value written)
  | call (function : String) (positional : List Definition) (named : List (String × Definition))
      (file : String) (line : Nat) (hfunction : RendersAll function)
      (hpositional : ∀ definition ∈ positional, Definition.Unconditional definition)
      (hnamed : ∀ entry ∈ named, Definition.Unconditional entry.2) :
      Definition.Unconditional (.call function positional named file line)
  | child (record : Template) (file : String) (line : Nat) (h : Template.Unconditional record) :
      Definition.Unconditional (.child record file line)

/-- The count of a template is given or left out, and so it is for all templates in its fields and
for its friends; all functions in its fields render every argument. -/
inductive Template.Unconditional : Template → Prop where
  | mk (table : String) (nickname : Option String) (count : Option Count) (fields : List Field)
      (friends : List Template) (file : String) (line : Nat)
      (hcount : ∀ definition, count ≠ some (.deferred definition))
      (hfields : ∀ field ∈ fields, Definition.Unconditional field.definition)
      (hfriends : ∀ friend ∈ friends, Template.Unconditional friend) :
      Template.Unconditional (.mk table nickname count fields friends file line)

end

/-- The rows that a count stands for: one if nothing is said. Nothing is known of a count that has
to be worked out. -/
def Count.given : Option Count → Nat
  | none => 1
  | some (.fixed rows) => rows
  | some (.deferred _) => 0

mutual

/-- The rows of a table that a template makes whenever it is used. -/
def Template.rowsIn (table : String) : Template → Nat
  | .mk own _ count fields friends _ _ =>
      Count.given count *
        ((if own = table then 1 else 0) + fieldsRowsIn table fields + templatesRowsIn table friends)

/-- The rows of a table that some templates make. -/
def templatesRowsIn (table : String) : List Template → Nat
  | [] => 0
  | first :: rest => first.rowsIn table + templatesRowsIn table rest

/-- The rows of a table that child records in some fields make. -/
def fieldsRowsIn (table : String) : List Field → Nat
  | [] => 0
  | .mk _ definition _ _ :: rest => definition.rowsIn table + fieldsRowsIn table rest

/-- The rows of a table that child records in a definition make. -/
def Definition.rowsIn (table : String) : Definition → Nat
  | .value _ => 0
  | .call _ positional named _ _ => argumentsRowsIn table positional + namedRowsIn table named
  | .child record _ _ => record.rowsIn table

/-- The rows of a table that child records in arguments by position make. -/
def argumentsRowsIn (table : String) : List Definition → Nat
  | [] => 0
  | first :: rest => first.rowsIn table + argumentsRowsIn table rest

/-- The rows of a table that child records in arguments by name make. -/
def namedRowsIn (table : String) : List (String × Definition) → Nat
  | [] => 0
  | (_, first) :: rest => first.rowsIn table + namedRowsIn table rest

end

/-! ## Counting along a run -/

/-- How many rows of a table have been handed over. -/
def Logged.rowsIn (table : String) (log : Logged σ) : Nat :=
  (log.handed.map Handing.written).countP fun row => row.table = table

/-- A part of a run that succeeds hands over a number of rows of a table. -/
def Running.Adds (table : String) (rows : Nat) (part : Running (Logged σ) α) : Prop :=
  ∀ machine a last, part machine = (.ok a, last) →
    last.out.rowsIn table = machine.out.rowsIn table + rows

namespace Running.Adds

variable {table : String} {rows more : Nat} {part : Running (Logged σ) α}

/-- What leaves the log alone adds nothing. -/
theorem of_handed (h : ∀ machine, (part machine).2.out.handed = machine.out.handed) :
    Adds table 0 part := by
  intro machine a last hpart
  have hhanded : last.out.handed = machine.out.handed := by simpa only [hpart] using h machine
  rw [Logged.rowsIn, hhanded, Logged.rowsIn, Nat.add_zero]

theorem pure {a : α} : Adds table 0 (Pure.pure a : Running (Logged σ) α) := of_handed fun _ => rfl

/-- What always fails adds whatever is said. -/
theorem fail {error : Error} : Adds table rows (Action.fail error : Running (Logged σ) α) := by
  intro machine a last hpart
  cases hpart

theorem registry : Adds table 0 (Running.registry : Running (Logged σ) Registry) :=
  of_handed fun _ => rfl

theorem draw {drawing : Random.Generator → Except Error α × Random.Generator} :
    Adds table 0 (Running.draw drawing : Running (Logged σ) α) :=
  of_handed fun _ => rfl

theorem onRegistry {change : Registry → α × Registry} :
    Adds table 0 (Running.onRegistry change : Running (Logged σ) α) :=
  of_handed fun _ => rfl

/-- What is done with the sink's own state adds nothing. -/
theorem onOut {action : Action σ α} : Adds table 0 (Running.onOut (Logged.onOut action)) :=
  of_handed fun _ => rfl

/-- A sequence adds what its parts add. -/
theorem bind {next : α → Running (Logged σ) β} (hpart : Adds table rows part)
    (hnext : ∀ a, Adds table more (next a)) : Adds table (rows + more) (part >>= next) := by
  intro machine b last hrun
  obtain ⟨a, middle, hfirst, hlast⟩ := Action.bind_eq_ok hrun
  rw [hnext a middle b last hlast, hpart machine a middle hfirst, Nat.add_assoc]

/-- A sequence whose first part adds nothing adds what the second does. -/
theorem after {next : α → Running (Logged σ) β} (hpart : Adds table 0 part)
    (hnext : ∀ a, Adds table rows (next a)) : Adds table rows (part >>= next) := by
  simpa only [Nat.zero_add] using hpart.bind hnext

/-- A sequence whose second part adds nothing adds what the first does. -/
theorem before {next : α → Running (Logged σ) β} (hpart : Adds table rows part)
    (hnext : ∀ a, Adds table 0 (next a)) : Adds table rows (part >>= next) :=
  hpart.bind hnext

/-- What succeeds only where a part of a run does, and then ends as it does, adds as much. -/
theorem of_gives {other : Running (Logged σ) α} (h : Adds table rows part)
    (hgives : ∀ {machine a last}, other machine = (.ok a, last) → part machine = (.ok a, last)) :
    Adds table rows other :=
  fun machine a last hother => h machine a last (hgives hother)

theorem mapError (h : Adds table rows part) (frame : Error → Error) :
    Adds table rows (part.mapError frame) := by
  refine h.of_gives fun {machine a last} hother => ?_
  unfold Action.mapError at hother
  split at hother
  next b middle hpart => rw [hpart, hother]
  next => cases hother

theorem onError (h : Adds table rows part) (handle : Error → Running (Logged σ) Unit) :
    Adds table rows (part.onError handle) := by
  refine h.of_gives fun {machine a last} hother => ?_
  unfold Action.onError at hother
  split at hother
  next b middle hpart => rw [hpart, hother]
  next => cases hother

/-- Things that are made one after the other, each adding as much as the others. -/
theorem repeatRows {make : Nat → Running (Logged σ) RowRef}
    (hmake : ∀ number, Adds table rows (make number)) (left number : Nat)
    (last : Option RowRef) :
    Adds table (left * rows) (RecordRecipe.repeatRows make left number last) := by
  induction left generalizing number last with
  | zero =>
      rw [Nat.zero_mul]
      exact pure
  | succ left ih =>
      rw [Nat.succ_mul, Nat.add_comm]
      exact (hmake number).bind fun row => ih (number + 1) (some row)

/-- A row that is started belongs to the table that is asked for. -/
theorem startRow {own : String} {nickname : Option String} {next : RowRef → Running (Logged σ) α}
    (hnext : ∀ row, row.table = own → Adds table rows (next row)) :
    Adds table rows (Running.onRegistry (Registry.startRow own nickname) >>= next) := by
  intro machine a last hrun
  have htable : (machine.registry.startRow own nickname).1.table = own := Registry.startRow_table
  exact hnext _ htable { machine with registry := (machine.registry.startRow own nickname).2 } a last
    hrun

section

variable {sink : Sink σ}

/-- The log of rows that are handed over does not change at the moments of a run. -/
theorem note (moment : Moment) : Adds table 0 (sink.loggingDesk.note moment) := by
  refine of_handed fun machine => ?_
  cases moment <;> rfl

theorem attend (h : Adds table rows part) (activation : Activation) :
    Adds table rows (sink.loggingDesk.attend activation part) :=
  (note _).after fun _ => (h.onError _).before fun _ => (note _).before fun _ => pure

theorem renderField {part : Running (Logged σ) FieldValue} (h : Adds table rows part)
    (activation : Activation) (name : String) :
    Adds table rows (sink.loggingDesk.renderField activation name part) :=
  (note _).after fun _ => h.before fun _ => (note _).before fun _ => pure

/-- A row that is handed over is one more row of its table. -/
theorem hand (activation : Activation) (row : RowRef) :
    Adds table (if row.table = table then 1 else 0) (sink.loggingDesk.hand activation row) := by
  intro machine a last hhand
  have hlast : last.out.handed =
      machine.out.handed ++ [⟨activation, row, machine.registry.fieldsOf row⟩] := by
    have hmachine : last = (sink.loggingDesk.hand activation row machine).2 := by rw [hhand]
    rw [hmachine]
    rfl
  rw [Logged.rowsIn, hlast, List.map_append, List.countP_append, Logged.rowsIn]
  simp [Handing.written, List.countP_singleton]

/-- A row that is started, rendered and handed over, and has friends. -/
theorem row {fields : Activation → RowRef → Running (Logged σ) Unit}
    {friends : Activation → Running (Logged σ) Unit}
    (hfields : ∀ activation row, Adds table rows (fields activation row))
    (hfriends : ∀ activation, Adds table more (friends activation)) (own : String)
    (nickname : Option String) (activationOf : RowRef → Activation) (frame : Error → Error) :
    Adds table ((if own = table then 1 else 0) + rows + more) (do
      let row ← Running.onRegistry (Registry.startRow own nickname)
      sink.loggingDesk.note (.started (activationOf row))
      (fields (activationOf row) row).mapError frame
      (sink.loggingDesk.hand (activationOf row) row).mapError frame
      friends (activationOf row)
      return row) := by
  refine startRow fun row hrow => ?_
  have hhand : Adds table (if own = table then 1 else 0)
      (sink.loggingDesk.hand (activationOf row) row) := by
    rw [← hrow]
    exact hand (activationOf row) row
  rw [Nat.add_assoc, Nat.add_left_comm]
  exact (note _).after fun _ => ((hfields _ row).mapError frame).bind fun _ =>
    (hhand.mapError frame).bind fun _ => (hfriends _).before fun _ => pure

end

/-! ### Calls -/

section

variable {setting : Setting} {activation : Activation} {positional : List (Operand (Logged σ))}
  {named : Assoc (Operand (Logged σ))}

theorem values
    (hpositional : Adds table rows (Running.inOrder (positional.map Operand.render)))
    (hnamed : Adds table more
      (Running.namedInOrder (named.map fun entry => (entry.1, entry.2.render)))) :
    Adds table (rows + more) (Call.values positional named) :=
  hpositional.bind fun _ => hnamed.before fun _ => pure

theorem eager (h : Adds table rows (Call.values positional named)) (function : EagerFunction) :
    Adds table rows (Call.eager setting activation function positional named) :=
  h.before fun _ => registry.after fun _ => draw

/-- A fake value renders all arguments, or else fails. -/
theorem fakeValue (h : Adds table rows (Call.values positional named)) (method : String) :
    Adds table rows (Call.run setting activation ("fake." ++ method) positional named) := by
  have hsplit : Text.splitOnce '.' ("fake." ++ method).toList =
      some ("fake".toList, method.toList) := by
    have hobject : '.' ∉ "fake".toList := by decide
    rw [String.toList_append]
    exact Text.splitOnce_append hobject
  unfold Call.run
  rw [hsplit]
  by_cases hpath : method.toList.contains '.'
  · simp only [if_pos hpath]
    exact fail
  · simp only [if_neg hpath]
    exact h.before fun _ => draw

/-- A function that renders every argument adds what its arguments add. -/
theorem call {function : String} (hfunction : RendersAll function)
    (h : Adds table rows (Call.values positional named)) :
    Adds table rows (Call.run setting activation function positional named) := by
  rcases hfunction with heager | ⟨method, rfl⟩
  · obtain ⟨eager, hname⟩ := Option.isSome_iff_exists.mp heager
    rw [Call.run_eq_eager hname]
    exact h.eager eager
  · exact h.fakeValue method

end

end Running.Adds

/-! ## Counting through the tree -/

section

variable {table : String} {setting : Setting} {sink : Sink σ}

/-- A count that is given is not worked out, and as many rows are made. -/
theorem counted_adds {count : Option Count} {rows : Nat} {moment : Moment}
    {activation : Activation} {make : Nat → Running (Logged σ) RowRef}
    (hcount : ∀ definition, count ≠ some (.deferred definition))
    (hmake : ∀ number, Running.Adds table rows (make number)) :
    Running.Adds table (Count.given count * rows) (do
      sink.loggingDesk.note moment
      let rows ← sink.loggingDesk.attend activation (Count.render setting activation count)
      let last ← repeatRows make rows 1 none
      sink.loggingDesk.note .left
      return last) := by
  have hgiven : sink.loggingDesk.attend activation (Count.render setting activation count) =
      pure (Count.given count) := by
    rcases count with _ | (rows | definition)
    · rfl
    · rfl
    · exact absurd rfl (hcount definition)
  rw [hgiven]
  exact (Running.Adds.note _).after fun _ =>
    (Running.Adds.repeatRows hmake (Count.given count) 1 none).before fun last =>
      (Running.Adds.note .left).before fun _ => .pure

/-- A value that is written down makes no rows. -/
theorem Written.render_adds (activation : Activation) (written : Written) :
    Running.Adds table 0 (written.render setting activation : Running (Logged σ) FieldValue) := by
  unfold Written.render
  split
  · split
    · exact .fail
    · exact .mapError (.after .registry fun _ => .draw) _
  · exact .pure

mutual

theorem operand_adds (activation : Activation) {definition : Definition}
    (h : definition.Unconditional) : Running.Adds table (definition.rowsIn table)
      (definition.operand setting sink.loggingDesk activation).render := by
  cases h with
  | value written => exact (written.render_adds activation).attend activation
  | call function positional named file line hfunction hpositional hnamed =>
      have hvalues := (operands_add activation hpositional).values
        (namedOperands_add activation hnamed)
      exact ((Running.Adds.call hfunction hvalues).mapError _).attend activation
  | child record file line hrecord =>
      have hrows := makeRows_adds activation.rows hrecord
      exact (hrows.before fun _ => .pure).attend activation

theorem operands_add (activation : Activation) {definitions : List Definition}
    (h : ∀ definition ∈ definitions, definition.Unconditional) :
    Running.Adds table (argumentsRowsIn table definitions)
      (Running.inOrder ((operands setting sink.loggingDesk activation definitions).map
        Operand.render)) := by
  cases definitions with
  | nil => exact .pure
  | cons first rest =>
      obtain ⟨hfirst, hrest⟩ := List.forall_mem_cons.mp h
      exact (operand_adds activation hfirst).bind fun _ =>
        (operands_add activation hrest).before fun _ => .pure

theorem namedOperands_add (activation : Activation) {definitions : List (String × Definition)}
    (h : ∀ entry ∈ definitions, entry.2.Unconditional) :
    Running.Adds table (namedRowsIn table definitions)
      (Running.namedInOrder ((namedOperands setting sink.loggingDesk activation definitions).map
        fun entry => (entry.1, entry.2.render))) := by
  rcases definitions with _ | ⟨⟨name, first⟩, rest⟩
  · exact .pure
  · obtain ⟨hfirst, hrest⟩ := List.forall_mem_cons.mp h
    exact (operand_adds activation hfirst).bind fun _ =>
      (namedOperands_add activation hrest).before fun _ => .pure

theorem renderFields_adds (activation : Activation) (row : RowRef) {fields : List Field}
    (h : ∀ field ∈ fields, field.definition.Unconditional) :
    Running.Adds table (fieldsRowsIn table fields)
      (renderFields setting sink.loggingDesk activation row fields) := by
  rcases fields with _ | ⟨⟨name, definition, file, line⟩, rest⟩
  · exact .pure
  · obtain ⟨hfirst, hrest⟩ := List.forall_mem_cons.mp h
    exact (((operand_adds activation hfirst).renderField activation name).mapError _).bind
      fun value => .after .onRegistry fun _ => renderFields_adds activation row hrest

/-- Every row of a template renders each field once, is handed over once and makes the friends
once; and so do as many rows as the count says. -/
theorem makeRows_adds (enclosing : List RowRef) {template : Template}
    (h : template.Unconditional) :
    Running.Adds table (template.rowsIn table)
      (template.makeRows setting sink.loggingDesk enclosing) := by
  cases h with
  | mk own nickname count fields friends file line hcount hfields hfriends =>
      exact counted_adds hcount fun number => Running.Adds.row
        (fun activation row => renderFields_adds activation row hfields)
        (fun activation => makeAll_adds activation.rows hfriends) own nickname
        (Activation.ofRow own enclosing number) (Error.orAtLine file line)

theorem makeAll_adds (enclosing : List RowRef) {templates : List Template}
    (h : ∀ template ∈ templates, template.Unconditional) :
    Running.Adds table (templatesRowsIn table templates)
      (makeAll setting sink.loggingDesk enclosing templates) := by
  cases templates with
  | nil => exact .pure
  | cons first rest =>
      obtain ⟨hfirst, hrest⟩ := List.forall_mem_cons.mp h
      exact (makeRows_adds enclosing hfirst).bind fun _ => makeAll_adds enclosing hrest

end

theorem makeBatches_adds {templates : List Template}
    (h : ∀ template ∈ templates, template.Unconditional) (batches : Nat) :
    Running.Adds table (batches * templatesRowsIn table templates)
      (makeBatches setting sink.loggingDesk templates batches) := by
  induction batches with
  | zero =>
      rw [Nat.zero_mul]
      exact .pure
  | succ batches ih =>
      rw [Nat.succ_mul, Nat.add_comm]
      exact (makeAll_adds [] h).bind fun _ => ih

end

namespace Recipe

/-- A recipe whose counts are given and whose functions all render every argument hands over a number
of rows of each table that can be told from the recipe: that of its templates, once for every batch.
These rows are all that the sink takes. -/
theorem rows_counted {recipe : Recipe} {request : Request} {sink : Sink σ} {out : σ}
    {summary : Summary} (hrecipe : ∀ template ∈ recipe.templates, template.Unconditional)
    (hdone : (recipe.generate request sink out).1 = .ok summary) :
    (∃ declared, sink.declare recipe.tables out = (.ok (), declared) ∧
      sink.Takes ((recipe.observe request sink out).2.out.handed.map Handing.written) declared
        (recipe.generate request sink out).2) ∧
    ∀ table, (recipe.observe request sink out).2.out.rowsIn table =
      request.batches * templatesRowsIn table recipe.templates := by
  refine ⟨generate_takes hdone, fun table => ?_⟩
  have hadds : Running.Adds table (request.batches * templatesRowsIn table recipe.templates)
      (recipe.carryOut request sink.overLog sink.loggingDesk) :=
    .after (.of_handed fun _ => rfl) fun merged => .after .onOut fun _ =>
      (makeBatches_adds hrecipe request.batches).before fun _ =>
        .after .onOut fun _ => .after .registry fun _ => .pure
  rw [generate_eq_observe] at hdone
  have hobserved : recipe.observe request sink out =
      (.ok summary, (recipe.observe request sink out).2) := by rw [← hdone]
  have hfirst : (request.start { out } : Machine (Logged σ)).out.rowsIn table = 0 := rfl
  rw [hadds _ summary _ hobserved, hfirst, Nat.zero_add]

/-- Teams with members beneath arguments by position and by name, and with a friend each. -/
def teams : Recipe where
  file := "recipe.yml"
  options := []
  groups := []
  templates :=
    [.mk "Team" none (some (.fixed 2))
      [.mk "active" (.call "fake.boolean" [] [] "recipe.yml" 4) "recipe.yml" 4,
        .mk "lead" (.call "reference" [.child (.mk "Person" none none
          [.mk "deputy" (.call "reference" []
            [("x", .child (.mk "Person" none (some (.fixed 3)) [] [] "recipe.yml" 9)
              "recipe.yml" 9)] "recipe.yml" 8) "recipe.yml" 8]
          [] "recipe.yml" 6) "recipe.yml" 6] [] "recipe.yml" 5) "recipe.yml" 5]
      [.mk "Person" none (some (.fixed 1)) [] [] "recipe.yml" 12] "recipe.yml" 1]

theorem teams_unconditional : ∀ template ∈ teams.templates, template.Unconditional := by
  have hreference : RendersAll "reference" := .inl rfl
  have hactive : Definition.Unconditional (.call "fake.boolean" [] [] "recipe.yml" 4) :=
    .call _ _ _ _ _ (.inr ⟨"boolean", rfl⟩) nofun nofun
  have hpersons (rows line : Nat) :
      Template.Unconditional (.mk "Person" none (some (.fixed rows)) [] [] "recipe.yml" line) :=
    .mk _ _ _ _ _ _ _ (by simp) nofun nofun
  have hdeputy : Definition.Unconditional (.call "reference" [] [("x", .child _ "recipe.yml" 9)]
      "recipe.yml" 8) :=
    .call _ _ _ _ _ hreference nofun (List.forall_mem_singleton.mpr (.child _ _ _ (hpersons 3 9)))
  have hperson := Template.Unconditional.mk "Person" none none
    [.mk "deputy" _ "recipe.yml" 8] [] "recipe.yml" 6 (by simp)
    (List.forall_mem_singleton.mpr hdeputy) nofun
  have hlead : Definition.Unconditional (.call "reference" [.child _ "recipe.yml" 6] []
      "recipe.yml" 5) :=
    .call _ _ _ _ _ hreference (List.forall_mem_singleton.mpr (.child _ _ _ hperson)) nofun
  refine List.forall_mem_singleton.mpr (.mk _ _ _ _ _ _ _ (by simp) ?_
    (List.forall_mem_singleton.mpr (hpersons 1 12)))
  exact List.forall_mem_cons.mpr ⟨hactive, List.forall_mem_singleton.mpr hlead⟩

/-- Two batches make four teams. Each of them has a lead with three deputies, and a friend. -/
theorem rows_counted_teams :
    (teams.observe { once with batches := 2 } Sink.memory {}).2.out.rowsIn "Team" = 4 ∧
    (teams.observe { once with batches := 2 } Sink.memory {}).2.out.rowsIn "Person" = 20 := by
  have hsucceeds : (teams.generate { once with batches := 2 } Sink.memory {}).1.isOk = true := by
    decide +kernel
  obtain ⟨summary, hdone⟩ := Gives.exists_of_isOk hsucceeds
  obtain ⟨_, hrows⟩ := rows_counted teams_unconditional hdone
  have hteams : 2 * templatesRowsIn "Team" teams.templates = 4 := by decide
  have hpersons : 2 * templatesRowsIn "Person" teams.templates = 20 := by decide
  exact ⟨(hrows "Team").trans hteams, (hrows "Person").trans hpersons⟩

end Recipe

end RecordRecipe
