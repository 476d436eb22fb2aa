import RecordRecipe.Expr.Program
import RecordRecipe.Proofs.Containment.Eval

/-!
# Definitions within rows

`Program.evaluate_within` is the result about expressions: the value of a definition holds no
references but those to the rows of its scope, whatever macros, blocks, included texts and loops
that call themselves take part.
-/

namespace RecordRecipe.Expr

open RecordRecipe.Random (Generator)

namespace Evaluation

variable {rows : RowRef → Prop} {scope : Scope} {handler : Handler}

/-- The rounds of a loop keep the store within rows if every round does, and what is done in their
place if there are none. -/
theorem roundsOrElse_keeps {round : Value → Evaluation Unit} {otherwise : Evaluation Unit}
    (hround : ∀ item : Value, item.Within rows → Keeps rows (fun _ => True) (round item))
    (hotherwise : Keeps rows (fun _ => True) otherwise)
    (recursion : Option (Target × List Statement)) (length : Option Nat) {chosen : List Value}
    (hchosen : ∀ item ∈ chosen, item.Within rows) :
    Keeps rows (fun _ => True) (do
      runRounds recursion length chosen round
      if chosen.isEmpty then otherwise) := by
  refine (runRounds_keeps hchosen hround).bind fun _ _ => ?_
  split
  · exact hotherwise
  · exact .pure trivial

mutual

/-- A statement keeps the store within the rows of its scope. -/
theorem statement_keeps (hscope : scope.Within rows) (hhandler : handler.Within rows) :
    (s : Statement) → Keeps rows (fun _ => True) (statement scope handler s)
  | .text content => by
      rw [statement]
      exact write_keeps content
  | .value value => by
      rw [statement]
      exact (term_keeps hscope hhandler value).bind fun value hvalue => print_keeps hvalue
  | .branch test yes otherwise => by
      rw [statement]
      refine (term_keeps hscope hhandler test).bind fun value hvalue => ?_
      refine (holds_keeps hvalue).bind fun found _ => ?_
      split
      · exact statements_keeps hscope hhandler yes
      · exact statements_keeps hscope hhandler otherwise
  | .loop target items condition recursive body otherwise => by
      have hround (item : Value) (hitem : item.Within rows) :
          Keeps rows (fun _ => True)
            (do assign scope handler item target; statements scope handler body) :=
        (assign_keeps hscope hhandler hitem target).bind fun _ _ =>
          statements_keeps hscope hhandler body
      have hotherwise := statements_keeps hscope hhandler otherwise
      rw [statement.eq_def]
      dsimp only
      refine (term_keeps hscope hhandler items).bind fun value hvalue => ?_
      refine (resolve_keeps hvalue).bind fun value hvalue => ?_
      refine (lift_keeps (Value.items_within hvalue)).bind fun all hall => ?_
      cases condition with
      | none =>
          dsimp only
          refine (Keeps.pure (P := fun found => ∀ item ∈ found.1, item.Within rows) hall).bind
            fun found hfound => ?_
          exact roundsOrElse_keeps hround hotherwise _ found.2 hfound
      | some condition =>
          dsimp only
          -- The condition is tried on every item before the first round, in a frame of its own.
          have hcondition (item : Value) (hitem : item.Within rows) :
              Keeps rows (fun _ => True) (do
                assign scope handler item target
                holds (← term scope handler condition)) := by
            refine (assign_keeps hscope hhandler hitem target).bind fun _ _ => ?_
            exact (term_keeps hscope hhandler condition).bind fun value hvalue =>
              holds_keeps hvalue
          refine (inFrame_keeps Frame.within_empty (select_keeps hcondition hall)).bind
            fun chosen hchosen => ?_
          refine (Keeps.pure (P := fun found => ∀ item ∈ found.1, item.Within rows) hchosen).bind
            fun found hfound => ?_
          exact roundsOrElse_keeps hround hotherwise _ found.2 hfound
  | .set target value => by
      rw [statement]
      exact (term_keeps hscope hhandler value).bind fun value hvalue =>
        assign_keeps hscope hhandler hvalue target
  | .setBlock target filters body => by
      rw [statement]
      refine (capture_keeps (statements_keeps hscope hhandler body)).bind fun written _ => ?_
      exact (filterAll_keeps hscope hhandler (.text written)).bind fun value hvalue =>
        assign_keeps hscope hhandler hvalue target
  | .bind bindings body => by
      rw [statement]
      refine inFrame_keeps Frame.within_empty ?_
      refine (Keeps.forM fun binding _ => ?_).bind fun _ _ => statements_keeps hscope hhandler body
      exact (term_keeps hscope hhandler binding.2).bind fun value hvalue =>
        assign_keeps hscope hhandler hvalue binding.1
  | .filtered filters body => by
      rw [statement]
      refine (capture_keeps (statements_keeps hscope hhandler body)).bind fun written _ => ?_
      exact (filterAll_keeps hscope hhandler (.text written)).bind fun value hvalue =>
        print_keeps hvalue
  | .define name parameters body => by
      rw [statement]
      exact (makeRoutine_keeps hscope name parameters body).bind fun value hvalue =>
        store_keeps name hvalue
  | .call callee arguments parameters body => by
      rw [statement]
      refine (calleeTerm_keeps hscope hhandler callee).bind fun callee hcallee => ?_
      refine (evaluateArguments_keeps (argumentActions_keep hscope hhandler arguments)).bind
        fun arguments harguments => ?_
      refine (makeRoutine_keeps hscope callerName parameters body).bind fun caller hcaller => ?_
      refine (callTo_keeps hscope hhandler callee hcallee (harguments.withNamed hcaller)).bind ?_
      exact fun value hvalue => print_keeps hvalue
  | .block _ body => by
      rw [statement]
      exact runBlock_keeps (statements_keeps hscope hhandler body)
  | .insert source => by
      rw [statement]
      exact insert_keeps hscope hhandler source
  | .fetch source target => by
      rw [statement]
      exact (fetched_keeps hscope hhandler source ownVariables_keeps).bind fun value hvalue =>
        assign_keeps hscope hhandler hvalue target
  | .fetchNames source names => by
      rw [statement]
      have hfound : Keeps rows (fun values => ∀ value ∈ values, value.Within rows)
          (names.mapM fun entry => do return (← lookup? scope entry.1).getD .missing) :=
        .mapM fun entry _ => (lookup?_keeps hscope entry.1).bind fun found hfound =>
          .pure (Value.within_getD hfound Value.within_missing)
      refine (fetched_keeps hscope hhandler source hfound).bind fun values hvalues => ?_
      refine .forM fun entry hentry => store_keeps _ (hvalues entry.2 ?_)
      exact (List.of_mem_zip (List.mem_reverse.mp hentry)).2
  | .perform action => by
      rw [statement]
      exact (term_keeps hscope hhandler action).bind fun _ _ => .pure trivial
termination_by structural s => s

theorem statements_keeps (hscope : scope.Within rows) (hhandler : handler.Within rows) :
    (body : List Statement) → Keeps rows (fun _ => True) (statements scope handler body)
  | [] => by
      rw [statements]
      exact .pure trivial
  | first :: rest => by
      rw [statements]
      exact (statement_keeps hscope hhandler first).bind fun _ _ =>
        statements_keeps hscope hhandler rest
termination_by structural body => body

end

theorem setParameters_keeps (hscope : scope.Within rows) (hhandler : handler.Within rows)
    {parameters : List Parameter} {values : List Value}
    (hvalues : ∀ value ∈ values, value.Within rows) :
    Keeps rows (fun _ => True) (setParameters scope handler parameters values) := by
  induction parameters generalizing values with
  | nil => exact .pure trivial
  | cons parameter rest ih =>
      have hgiven : (values.headD .missing).Within rows := by
        cases values with
        | nil => exact Value.within_missing
        | cons value more => exact hvalues value (by simp)
      refine (ih fun value hvalue => hvalues value (List.mem_of_mem_tail hvalue)).bind
        fun _ _ => ?_
      dsimp only
      split
      · exact (term_keeps hscope hhandler _).bind fun value hvalue => store_keeps _ hvalue
      · exact (Keeps.pure hgiven).bind fun value hvalue => store_keeps _ hvalue

theorem runMacro_keeps (hscope : scope.Within rows) (hhandler : handler.Within rows)
    (parameters : List Parameter) (body : List Statement) (closure : Nat) {values : List Value}
    (hvalues : ∀ value ∈ values, value.Within rows) {caller : Option Value}
    (hcaller : ∀ value ∈ caller, value.Within rows) :
    Keeps rows (fun value => value.Within rows)
      (runMacro scope handler parameters body closure values caller) := by
  unfold runMacro
  refine (checkDepth_keeps 6).bind fun _ _ => Keeps.get.bind fun before hbefore => ?_
  refine (Keeps.change fun store hstore => ?_).bind fun _ _ => ?_
  · exact ⟨by simp, hstore.closures, hstore.spaces⟩
  · refine (capture_keeps ?_).bind fun written _ => ?_
    · refine (Keeps.optionForM fun value hvalue => store_keeps _ (hcaller value hvalue)).bind
        fun _ _ => ?_
      exact (setParameters_keeps hscope hhandler hvalues).bind fun _ _ =>
        statements_keeps hscope hhandler body
    · refine (Keeps.change fun store hstore => ?_).bind fun _ _ => .pure (.text written)
      exact ⟨hbefore.frames, hstore.closures, hstore.spaces⟩

theorem setClosure_keeps (closure : Option Nat) :
    Keeps rows (fun _ => True) (setClosure closure) := by
  refine .change fun store hstore => ?_
  split
  · exact hstore
  next frame rest hframes =>
    refine ⟨?_, hstore.closures, hstore.spaces⟩
    exact modifyFrame_within hstore hframes fun hframe => ⟨hframe.locals, hframe.loop⟩

theorem includeText_keeps (hscope : scope.Within rows) (hhandler : handler.Within rows)
    (text : String) : Keeps rows (fun _ => True) (includeText scope handler text) := by
  unfold includeText
  refine (lift_keeps (P := fun _ => True) (Gives.of_forall fun _ => trivial)).bind fun body _ => ?_
  refine (checkDepth_keeps 10).bind fun _ _ => Keeps.get.bind fun before _ => ?_
  refine (setClosure_keeps none).bind fun _ _ => ?_
  refine (Keeps.change fun store hstore => ?_).bind fun _ _ => ?_
  · exact ⟨hstore.frames, hstore.closures, hstore.spaces⟩
  · refine (Keeps.tryCatch (statements_keeps hscope hhandler body) fun _ => .throw).bind
      fun _ _ => ?_
    refine (setClosure_keeps _).bind fun _ _ => .change fun store hstore => ?_
    exact ⟨hstore.frames, hstore.closures, hstore.spaces⟩

theorem runLoop_keeps (hscope : scope.Within rows) (hhandler : handler.Within rows)
    (target : Target) (body : List Statement) {value : Value} (hvalue : value.Within rows) :
    Keeps rows (fun _ => True) (runLoop scope handler target body value) := by
  refine (resolve_keeps hvalue).bind fun value hvalue => ?_
  refine (lift_keeps (Value.items_within hvalue)).bind fun items hitems => ?_
  refine runRounds_keeps hitems fun item hitem => ?_
  exact (assign_keeps hscope hhandler hitem target).bind fun _ _ =>
    statements_keeps hscope hhandler body

/-- Handlers keep to the rows of their scope, however many calls they allow. -/
theorem handler_within (hscope : scope.Within rows) (levels : Nat) :
    (Evaluation.handler scope levels).Within rows := by
  induction levels with
  | zero => exact ⟨fun _ _ _ _ _ _ _ => .throw, fun _ => .throw, fun _ => .throw,
      fun _ _ _ _ => .throw⟩
  | succ levels ih =>
      exact {
        runMacro := fun parameters body closure values caller hvalues hcaller =>
          runMacro_keeps hscope ih parameters body closure hvalues hcaller
        runBlock := fun body => runBlock_keeps (statements_keeps hscope ih body)
        runSource := includeText_keeps hscope ih
        runLoop := fun target body value hvalue => runLoop_keeps hscope ih target body hvalue }

theorem template_keeps (hscope : scope.Within rows) (body : List Statement) :
    Keeps rows (fun _ => True) (template scope body) := by
  refine (Keeps.change fun store hstore => ?_).bind fun _ _ => ?_
  · exact ⟨hstore.frames, hstore.closures, hstore.spaces⟩
  · exact statements_keeps hscope (handler_within hscope depthLimit) body

end Evaluation

variable {rows : RowRef → Prop} {scope : Scope}

/-- A text that became a number is no reference. -/
theorem settle_within {value : FieldValue} (h : value.Within rows) :
    (settle value).Within rows := by
  unfold settle
  split
  · exact FieldValue.within_ofText
  · exact h

/-- The value of an expression as a field's value is within its rows. -/
theorem resultValue_within {definition : String} {value : Value} (h : value.Within rows) :
    Gives (fun field => field.Within rows) (resultValue scope definition value) := by
  unfold resultValue
  split
  · trivial
  · rw [Gives.except_map_iff]
    exact (Value.toField_within h).imp fun field hfield => settle_within hfield

/-- What statements set the result to is within the rows of their scope. -/
theorem runBody_within (hscope : scope.Within rows) (definition : String) (body : List Statement)
    (generator : Generator) :
    Gives (fun found => found.1.Within rows) (runBody scope definition body generator).1 := by
  have hkeeps : Keeps rows (fun found : Value × String => found.1.Within rows) (do
      Evaluation.template scope body
      let found := (← Evaluation.lookup? scope resultName).getD .missing
      let value ← Evaluation.resolve found
      return (value, (← get).out)) := by
    refine (Evaluation.template_keeps hscope body).bind fun _ _ => ?_
    refine (Evaluation.lookup?_keeps hscope resultName).bind fun found hfound => ?_
    refine (Evaluation.resolve_keeps (Value.within_getD hfound Value.within_missing)).bind
      fun value hvalue => ?_
    exact Keeps.get.bind fun store _ => .pure hvalue
  have hresult := hkeeps { generator } Store.within_start
  unfold runBody
  dsimp only [EStateM.run]
  split at hresult
  next found store hok => rw [hok]; exact hresult.1
  next fault store herror => rw [herror]; trivial

/-- The value of a definition is within the rows of its scope. -/
theorem Program.evaluate_within (hscope : scope.Within rows) (definition : String)
    (generator : Generator) (program : Program) :
    Gives (fun value => value.Within rows)
      (program.evaluate scope definition generator).1 := by
  cases program with
  | literal => exact FieldValue.within_ofText
  | expression body =>
      have hbody := runBody_within hscope definition body generator
      unfold Program.evaluate
      dsimp only
      rw [Gives.except_bind_iff]
      exact hbody.imp fun found hfound => resultValue_within hfound
  | template body =>
      unfold Program.evaluate
      dsimp only
      rw [Gives.except_map_iff]
      exact Gives.of_forall fun _ => FieldValue.within_ofText

end RecordRecipe.Expr
