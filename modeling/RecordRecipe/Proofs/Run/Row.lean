import RecordRecipe.Proofs.Run.Call
import RecordRecipe.Run.Generate

/-!
# Rows side by side

Templates that obey the rules of a simulation are used alike on both sides, whatever child records
stand in their fields and whatever friends come after their rows. `Simulation.makeAll_agrees` is the
result for lists of templates, and `Simulation.carryOutWith_agrees` for whole runs. A template is
used in a frame of its own, which holds its row from the start of the row until its friends have
been made.
-/

namespace RecordRecipe

mutual

/-- A definition keeps to rules. -/
inductive Definition.Obeys (rules : Rules) : Definition → Prop where
  | value (written : Written) (h : rules.literal written.value) :
      Definition.Obeys rules (.value written)
  | call (function : String) (positional : List Definition) (named : List (String × Definition))
      (file : String) (line : Nat)
      (hpositional : ∀ definition ∈ positional, Definition.Obeys rules definition)
      (hnamed : ∀ entry ∈ named, Definition.Obeys rules entry.2) :
      Definition.Obeys rules (.call function positional named file line)
  | child (record : Template) (file : String) (line : Nat) (h : Template.Obeys rules record) :
      Definition.Obeys rules (.child record file line)

/-- A template keeps to rules. -/
inductive Template.Obeys (rules : Rules) : Template → Prop where
  | mk (table : String) (nickname : Option String) (count : Option Count) (fields : List Field)
      (friends : List Template) (file : String) (line : Nat) (htable : rules.table table)
      (hcount : ∀ written, count = some (.deferred written) → rules.literal written.value)
      (hnames : ∀ field ∈ fields, rules.field table field.name)
      (hdefinitions : ∀ field ∈ fields, Definition.Obeys rules field.definition)
      (hfriends : ∀ friend ∈ friends, Template.Obeys rules friend) :
      Template.Obeys rules (.mk table nickname count fields friends file line)

end

mutual

/-- A template keeps to rules that allow everything. -/
theorem Template.obeys_all : (template : Template) → template.Obeys Rules.all
  | .mk table nickname count fields friends file line =>
      .mk table nickname count fields friends file line trivial (fun _ _ => trivial)
        (fun _ _ => trivial) (fieldsObey_all fields) (templatesObey_all friends)

theorem templatesObey_all :
    (templates : List Template) → ∀ template ∈ templates, template.Obeys Rules.all
  | [] => by simp
  | first :: rest => List.forall_mem_cons.mpr ⟨first.obeys_all, templatesObey_all rest⟩

theorem fieldsObey_all :
    (fields : List Field) → ∀ field ∈ fields, field.definition.Obeys Rules.all
  | [] => by simp
  | .mk _ definition _ _ :: rest =>
      List.forall_mem_cons.mpr ⟨definition.obeys_all, fieldsObey_all rest⟩

/-- A definition keeps to rules that allow everything. -/
theorem Definition.obeys_all : (definition : Definition) → definition.Obeys Rules.all
  | .value written => .value written trivial
  | .call function positional named file line =>
      .call function positional named file line (definitionsObey_all positional)
        (namedObey_all named)
  | .child record file line => .child record file line record.obeys_all

theorem definitionsObey_all :
    (definitions : List Definition) → ∀ definition ∈ definitions, definition.Obeys Rules.all
  | [] => by simp
  | first :: rest => List.forall_mem_cons.mpr ⟨first.obeys_all, definitionsObey_all rest⟩

theorem namedObey_all :
    (named : List (String × Definition)) → ∀ entry ∈ named, entry.2.Obeys Rules.all
  | [] => by simp
  | (_, first) :: rest => List.forall_mem_cons.mpr ⟨first.obeys_all, namedObey_all rest⟩

end

namespace Simulation

variable {σ τ : Type} {S : Simulation σ τ}

/-- The same row, if any, and a known one. -/
def SameLast (known : RowRef → Prop) (last other : Option RowRef) : Prop :=
  last = other ∧ ∀ row ∈ last, known row

/-- Rows that are made alike one by one are made alike in any number. -/
theorem repeatRows_agrees {known : RowRef → Prop} {table : String} {enclosing : List RowRef}
    {frames : List Frame} {make : Nat → Running σ RowRef} {follow : Nat → Running τ RowRef}
    (h : ∀ started, S.Leads (fun _ => False) (.between table enclosing started :: frames)
      (.between table enclosing (started + 1) :: frames) SameRow (make (started + 1))
      (follow (started + 1)))
    (left started : Nat) {last : Option RowRef} (hlast : ∀ row ∈ last, known row) :
    S.Leads known (.between table enclosing started :: frames)
      (.between table enclosing (started + left) :: frames) SameLast
      (repeatRows make left (started + 1) last) (repeatRows follow left (started + 1) last) := by
  induction left generalizing known started last with
  | zero => exact .pure fun _ hlater => ⟨rfl, fun row hrow => hlater row (hlast row hrow)⟩
  | succ left ih =>
      refine (h started).anywhere.bindKnowing ?_
      rintro later _ row _ ⟨rfl, hrow⟩
      have hlast : ∀ given ∈ some row, later given := by simpa using hrow
      rw [Nat.add_comm left 1, ← Nat.add_assoc]
      exact ih (started + 1) hlast

/-- Values are rendered alike. -/
theorem written_agrees (hS : S.Observant) {frame : Frame} {frames : List Frame} {written : Written}
    (hliteral : S.rules.literal written.value) :
    S.Renders (frame :: frames) (written.render S.setting frame.activation)
      (written.render S.setting frame.activation) := by
  unfold Written.render
  split
  next definition _ =>
    split
    · exact .fail
    next program _ =>
      refine Leads.mapError ?_ _
      refine Leads.withRegistry hS fun known registry _ hregistry hsurrounded => ?_
      refine Leads.drawValue hS fun generator => ?_
      have hscope := Activation.scope_within hsurrounded.setting hregistry hsurrounded.rows
      exact Expr.Program.evaluate_within hscope definition generator program
  next =>
    refine Leads.within hS fun known _ hsurrounded => .pure fun _ hlater => ⟨rfl, ?_⟩
    exact (hsurrounded.literal _ hliteral).mono hlater

/-- Counts are rendered alike. -/
theorem count_agrees (hS : S.Observant) {frame : Frame} {frames : List Frame} {count : Option Count}
    (hcount : ∀ written, count = some (.deferred written) → S.rules.literal written.value) :
    S.Agree (frame :: frames) SamePlain (Count.render S.setting frame.activation count)
      (Count.render S.setting frame.activation count) := by
  unfold Count.render
  split
  · exact .pure fun _ _ => rfl
  · exact .pure fun _ _ => rfl
  next definition =>
    refine (written_agrees hS (hcount definition rfl)).bind ?_
    rintro _ value _ ⟨rfl, _⟩
    cases Count.rows? value with
    | none => exact .fail
    | some rows => exact .pure fun _ _ => rfl

mutual

/-- Definitions that obey the rules agree as operands. -/
theorem operand_agrees (hS : S.Lawful) (frame : Frame) (frames : List Frame) :
    (definition : Definition) → definition.Obeys S.rules →
      S.SameOperand (frame :: frames) (definition.operand S.setting S.left frame.activation)
        (definition.operand S.setting S.right frame.activation)
  | .value written, h => by
      cases h with
      | value _ hliteral => exact ⟨Leads.attend hS .value (written_agrees hS.toObservant hliteral), .none⟩
  | .call function positional named file line, h => by
      cases h with
      | call _ _ _ _ _ hpositional hnamed =>
          have hfirst := operands_agree hS frame frames positional hpositional
          have hsecond := namedOperands_agree hS frame frames named hnamed
          have hrun := call_agrees hS.toObservant hfirst hsecond function
          refine ⟨Leads.attend hS .value (hrun.mapError _), ?_⟩
          dsimp only [Definition.operand]
          split
          · refine .some ⟨renders_of_operands hfirst, ?_, rfl, rfl⟩
            rw [List.forall₂_map_left_iff, List.forall₂_map_right_iff]
            exact hsecond.imp fun _ _ hsame => ⟨hsame.1, hsame.2.render⟩
          · exact .none
  | .child record _ _, h => by
      cases h with
      | child _ _ _ hrecord =>
          have hmade := makeRows_agrees hS (frame :: frames) record hrecord
          refine ⟨Leads.attend hS .value (hmade.bindKnowing ?_), .none⟩
          rintro known _ last _ ⟨rfl, hlast⟩
          refine .pure fun _ hlater => ⟨rfl, ?_⟩
          cases last with
          | none => trivial
          | some row => exact hlater row (hlast row rfl)

/-- Definitions that obey the rules agree as operands by position. -/
theorem operands_agree (hS : S.Lawful) (frame : Frame) (frames : List Frame) :
    (definitions : List Definition) → (∀ definition ∈ definitions, definition.Obeys S.rules) →
      List.Forall₂ (S.SameOperand (frame :: frames))
        (operands S.setting S.left frame.activation definitions)
        (operands S.setting S.right frame.activation definitions)
  | [], _ => .nil
  | first :: rest, h =>
      .cons (operand_agrees hS frame frames first (h first List.mem_cons_self))
        (operands_agree hS frame frames rest fun other hother =>
          h other (List.mem_cons_of_mem _ hother))

/-- Definitions that obey the rules agree as operands by name. -/
theorem namedOperands_agree (hS : S.Lawful) (frame : Frame) (frames : List Frame) :
    (definitions : List (String × Definition)) →
      (∀ entry ∈ definitions, entry.2.Obeys S.rules) →
        List.Forall₂ (S.SameNamed (frame :: frames))
          (namedOperands S.setting S.left frame.activation definitions)
          (namedOperands S.setting S.right frame.activation definitions)
  | [], _ => .nil
  | (name, first) :: rest, h =>
      .cons ⟨rfl, operand_agrees hS frame frames first (h (name, first) List.mem_cons_self)⟩
        (namedOperands_agree hS frame frames rest fun other hother =>
          h other (List.mem_cons_of_mem _ hother))

/-- Fields that obey the rules are rendered alike into the row that is being built. -/
theorem renderFields_agrees (hS : S.Lawful) {table : String} {enclosing : List RowRef}
    {number : Nat} {row : RowRef} {frames : List Frame} :
    (fields : List Field) → (∀ field ∈ fields, S.rules.field row.table field.name) →
      (∀ field ∈ fields, field.definition.Obeys S.rules) →
        S.Agree (.ofRow table enclosing number row false :: frames) SamePlain
          (renderFields S.setting S.left (.ofRow table enclosing number row) row fields)
          (renderFields S.setting S.right (.ofRow table enclosing number row) row fields)
  | [], _, _ => .pure fun _ _ => rfl
  | .mk name definition file line :: rest, hnames, hdefinitions => by
      have hfirst := operand_agrees hS (.ofRow table enclosing number row false) frames definition
        (hdefinitions _ List.mem_cons_self)
      have hrest : S.Agree (.ofRow table enclosing number row false :: frames) SamePlain _ _ :=
        renderFields_agrees hS rest
          (fun field hfield => hnames field (List.mem_cons_of_mem _ hfield))
          (fun field hfield => hdefinitions field (List.mem_cons_of_mem _ hfield))
      refine ((Leads.renderField hS hfirst.render name).mapError _).bindKnowing ?_
      rintro known _ value _ ⟨rfl, hvalue⟩
      have hname := hnames (.mk name definition file line) List.mem_cons_self
      exact (Leads.setField hS hname hvalue).bind fun _ _ _ _ => hrest.anywhere

/-- Templates that obey the rules make rows alike. -/
theorem makeRows_agrees (hS : S.Lawful) (frames : List Frame) : (template : Template) →
    template.Obeys S.rules → S.Agree frames SameLast
      (template.makeRows S.setting S.left (rowsOf frames))
      (template.makeRows S.setting S.right (rowsOf frames))
  | .mk table nickname count fields friends file line, h => by
      cases h with
      | mk _ _ _ _ _ _ _ htable hcount hnames hdefinitions hfriends =>
          refine (Leads.enter hS (.mk table nickname count fields friends file line)).bind
            fun _ _ _ _ => ?_
          refine (Leads.attend hS .plain (count_agrees hS.toObservant hcount)).bind ?_
          rintro _ rows _ rfl
          -- One row is made as the others are, in the frame that the activation has for it.
          refine (repeatRows_agrees (fun started => ?_) rows 0 (by simp)).bindKnowing ?_
          · refine Leads.start hS htable nickname fun row hbelongs => ?_
            subst hbelongs
            refine ((renderFields_agrees hS fields hnames hdefinitions).mapError _).bind
              fun _ _ _ _ => ?_
            refine ((Leads.hand hS).mapError _).bind fun _ _ _ _ => ?_
            exact (makeAll_agrees hS _ friends hfriends).bind fun _ _ _ _ => Leads.leave hS
          · rintro known _ last _ ⟨rfl, hlast⟩
            refine (Leads.exit hS).bindKnowing fun later hlater _ _ _ => ?_
            exact .pure fun _ hmore =>
              ⟨rfl, fun row hrow => hmore row (hlater row (hlast row hrow))⟩

/-- Lists of templates that obey the rules make rows alike. -/
theorem makeAll_agrees (hS : S.Lawful) (frames : List Frame) : (templates : List Template) →
    (∀ template ∈ templates, template.Obeys S.rules) →
      S.Agree frames SamePlain (makeAll S.setting S.left (rowsOf frames) templates)
        (makeAll S.setting S.right (rowsOf frames) templates)
  | [], _ => .pure fun _ _ => rfl
  | first :: rest, h => by
      have hfirst := makeRows_agrees hS frames first (h first List.mem_cons_self)
      exact hfirst.bind fun _ _ _ _ => makeAll_agrees hS frames rest fun other hother =>
        h other (List.mem_cons_of_mem _ hother)

end

/-- Batches of rows are made alike. -/
theorem makeBatches_agrees (hS : S.Lawful) {templates : List Template}
    (h : ∀ template ∈ templates, template.Obeys S.rules) (batches : Nat) :
    S.Agree [] SamePlain (makeBatches S.setting S.left templates batches)
      (makeBatches S.setting S.right templates batches) := by
  induction batches with
  | zero => exact .pure fun _ _ => rfl
  | succ batches ih => exact (makeAll_agrees hS [] templates h).bind fun _ _ _ _ => ih

end Simulation

variable {σ τ : Type}

/-- A run is a run with settled options, unless the options do not settle. -/
theorem Recipe.carryOut_eq {recipe : Recipe} {request : Request} {merged : MergedOptions}
    (hmerged : mergeOptions recipe.options request.options = .ok merged) (sink : Sink σ)
    (desk : Desk σ) :
    recipe.carryOut request sink desk = recipe.carryOutWith request merged sink desk := by
  unfold carryOut
  rw [hmerged]
  rfl

/-- A run whose options do not settle does nothing. -/
theorem Recipe.carryOut_eq_fail {recipe : Recipe} {request : Request} {error : Error}
    (hmerged : mergeOptions recipe.options request.options = .error error) (sink : Sink σ)
    (desk : Desk σ) : recipe.carryOut request sink desk = Action.fail error := by
  unfold carryOut
  rw [hmerged]
  rfl

/-- The part of a run in which its sink is told the tables and the rows are made. -/
def Recipe.beforeFlush (recipe : Recipe) (request : Request) (merged : MergedOptions)
    (sink : Sink σ) (desk : Desk σ) : Running σ Unit := do
  Running.onOut (sink.declare recipe.tables)
  makeBatches (request.setting merged) desk recipe.templates request.batches

/-- The end of a run, in which its sink is flushed and the run is summed up. -/
def Recipe.conclude (recipe : Recipe) (merged : MergedOptions) (sink : Sink σ) :
    Running σ Summary := do
  Running.onOut sink.flush
  let registry ← Running.registry
  return {
    tables := recipe.tables
    dependencies := registry.dependencies
    extraOptions := merged.extra }

/-- A run comes to its end once the rows have been made. -/
theorem Recipe.carryOutWith_eq (recipe : Recipe) (request : Request) (merged : MergedOptions)
    (sink : Sink σ) (desk : Desk σ) :
    recipe.carryOutWith request merged sink desk =
      recipe.beforeFlush request merged sink desk >>= fun _ => recipe.conclude merged sink := by
  rw [beforeFlush, Action.bind_assoc]
  rfl

namespace Simulation

variable {S : Simulation σ τ} {recipe : Recipe} {request : Request} {merged : MergedOptions}
  {sink : Sink σ} {second : Sink τ} {known : RowRef → Prop} {machine : Machine σ}
  {other : Machine τ}

/-- Rows are made alike if the sinks of both sides take the tables alike. -/
theorem beforeFlush_agrees (hS : S.Lawful) (hsetting : S.setting = request.setting merged)
    (h : ∀ template ∈ recipe.templates, template.Obeys S.rules)
    (hdeclare : S.Outcome known [] SamePlain (Running.onOut (sink.declare recipe.tables) machine)
      (Running.onOut (second.declare recipe.tables) other)) :
    S.Outcome known [] SamePlain (recipe.beforeFlush request merged sink S.left machine)
      (recipe.beforeFlush request merged second S.right other) := by
  unfold Recipe.beforeFlush
  rw [← hsetting]
  exact hdeclare.bind fun _ _ _ _ _ => (makeBatches_agrees hS h request.batches).anywhere

/-- Runs agree if the sinks of both sides take the tables and are flushed alike. -/
theorem carryOutWith_agrees (hS : S.Lawful) (hsetting : S.setting = request.setting merged)
    (h : ∀ template ∈ recipe.templates, template.Obeys S.rules)
    (hdeclare : S.Outcome known [] SamePlain (Running.onOut (sink.declare recipe.tables) machine)
      (Running.onOut (second.declare recipe.tables) other))
    (hflush : S.Agree [] SamePlain (Running.onOut sink.flush) (Running.onOut second.flush)) :
    S.Outcome known [] SamePlain (recipe.carryOutWith request merged sink S.left machine)
      (recipe.carryOutWith request merged second S.right other) := by
  rw [Recipe.carryOutWith_eq, Recipe.carryOutWith_eq]
  refine (beforeFlush_agrees hS hsetting h hdeclare).bind fun _ _ _ _ _ => Leads.anywhere ?_
  exact hflush.bind fun _ _ _ _ =>
    Leads.withRegistry hS.toObservant fun _ _ _ _ _ => .pure fun _ _ => rfl

end Simulation

end RecordRecipe
