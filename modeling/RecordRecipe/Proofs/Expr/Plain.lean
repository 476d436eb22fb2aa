import RecordRecipe.Proofs.Expr.Linking

/-!
# Plain templates

A plain template consists of texts, value tags, branches, assignments, filtered texts and loops that
do not call themselves, and sets no variable of the name of the run. `Evaluation.template_linked` says
that it is evaluated as if its template functions did not look for the run. The macros that a value
tag may call are run by the handler of the scope in either case.
-/

namespace RecordRecipe.Expr

/-- An assignment that sets no variable of the name of the run. -/
inductive Target.Plain : Target → Prop where
  | name (name : String) (h : name ≠ runName) : Plain (.name name)
  | field (base : Term) (name : String) : Plain (.field base name)
  | tuple (targets : List Target) (h : ∀ target ∈ targets, Plain target) : Plain (.tuple targets)

/-- A statement that sets no variable of the name of the run, and runs no code that lies elsewhere
but macros. -/
inductive Statement.Plain : Statement → Prop where
  | text (content : String) : Plain (.text content)
  | value (term : Term) : Plain (.value term)
  | branch (test : Term) (yes otherwise : List Statement) (hyes : ∀ s ∈ yes, Plain s)
      (hotherwise : ∀ s ∈ otherwise, Plain s) : Plain (.branch test yes otherwise)
  | loop (target : Target) (items : Term) (condition : Option Term)
      (body otherwise : List Statement) (htarget : target.Plain) (hbody : ∀ s ∈ body, Plain s)
      (hotherwise : ∀ s ∈ otherwise, Plain s) :
      Plain (.loop target items condition false body otherwise)
  | set (target : Target) (term : Term) (htarget : target.Plain) : Plain (.set target term)
  | setBlock (target : Target) (filters : List FilterStep) (body : List Statement)
      (htarget : target.Plain) (hbody : ∀ s ∈ body, Plain s) : Plain (.setBlock target filters body)
  | bind (bindings : List (Target × Term)) (body : List Statement)
      (hbindings : ∀ binding ∈ bindings, binding.1.Plain) (hbody : ∀ s ∈ body, Plain s) :
      Plain (.bind bindings body)
  | filtered (filters : List FilterStep) (body : List Statement) (hbody : ∀ s ∈ body, Plain s) :
      Plain (.filtered filters body)
  | perform (action : Term) : Plain (.perform action)

/-- A plain template has no blocks. -/
theorem Statement.listBlocks_plain {body : List Statement} (h : ∀ s ∈ body, s.Plain) :
    Statement.listBlocks body = [] := by
  have hlist (ss : List Statement) (hss : ∀ s ∈ ss, s.blocks = []) : Statement.listBlocks ss = [] := by
    induction ss with
    | nil => rfl
    | cons first rest ih =>
        obtain ⟨hfirst, hrest⟩ := List.forall_mem_cons.mp hss
        rw [Statement.listBlocks, hfirst, ih hrest, List.append_nil]
  refine hlist body fun s hs => ?_
  have hplain := h s hs
  clear hs h
  induction hplain with
  | branch _ yes otherwise _ _ ihyes ihotherwise | loop _ _ _ yes otherwise _ _ _ ihyes ihotherwise =>
      rw [Statement.blocks, hlist yes ihyes, hlist otherwise ihotherwise, List.append_nil]
  | setBlock _ _ body _ _ ih | bind _ body _ _ ih | filtered _ body _ ih =>
      rw [Statement.blocks, hlist body ih]
  | _ => rfl

namespace Evaluation

variable {scope : Scope} {handler : Handler} {α : Type}

/-! ## Terms -/

mutual

/-- A term is evaluated as if its template functions did not look for the run. -/
theorem term_alike (hhandler : handler.Steady) :
    (t : Term) → Alike (term scope handler t) (term scope.linked handler t)
  | .literal value => by
      rw [term, term]
      exact .pure _
  | .name name => by
      rw [term, term, lookup?_linked]
      exact (lookup?_steady name).bind fun _ => .pure _
  | .list items => by
      rw [term, term]
      exact (terms_alike hhandler items).bind fun _ => .pure _
  | .map entries => by
      rw [term, term]
      exact (termPairs_alike hhandler entries).bind fun _ => .pure _
  | .field base name => by
      rw [term, term]
      refine (term_alike hhandler base).bind fun value => ?_
      exact (attribute?_steady value name).bind fun found => orMissing_steady value found
  | .item base subscript => by
      rw [term, term]
      refine (term_alike hhandler base).bind fun value => ?_
      refine (term_alike hhandler subscript).bind fun index => ?_
      exact (subscript?_steady value index).bind fun found => orMissing_steady value found
  | .slice base start stop step => by
      rw [term, term]
      refine (term_alike hhandler base).bind fun value => ?_
      refine (optionalTerm_alike hhandler start).bind fun start => ?_
      refine (optionalTerm_alike hhandler stop).bind fun stop => ?_
      exact (optionalTerm_alike hhandler step).bind fun step => lift_steady _
  | .call callee arguments => by
      have harguments : Alike (evaluateArguments (argumentActions scope handler arguments))
          (evaluateArguments (argumentActions scope.linked handler arguments)) :=
        evaluateArguments_alike (argumentActions_alike hhandler arguments)
      -- A name and a method are called as such; anything else is evaluated and called as a value.
      cases callee with
      | name name =>
          rw [term, term]
          exact harguments.bind fun arguments => callTo_alike hhandler (.named name) arguments
      | field base name =>
          rw [term, term]
          split
          · exact callBlock_steady name
          · refine (term_alike hhandler base).bind fun value => ?_
            exact harguments.bind fun arguments =>
              callTo_alike hhandler (.method value name) arguments
      | _ =>
          rw [term.eq_def scope, term.eq_def scope.linked]
          refine (term_alike hhandler _).bind fun value => ?_
          exact harguments.bind fun arguments => callTo_alike hhandler (.value value) arguments
  | .not operand => by
      rw [term, term]
      refine (term_alike hhandler operand).bind fun value => ?_
      exact (holds_steady value).bind fun _ => .pure _
  | .negate operand => by
      rw [term, term]
      exact (term_alike hhandler operand).bind fun _ => lift_steady _
  | .both left right => by
      rw [term, term]
      refine (term_alike hhandler left).bind fun value => ?_
      refine (holds_steady value).bind fun found => ?_
      split
      · exact term_alike hhandler right
      · exact .pure value
  | .either left right => by
      rw [term, term]
      refine (term_alike hhandler left).bind fun value => ?_
      refine (holds_steady value).bind fun found => ?_
      split
      · exact .pure value
      · exact term_alike hhandler right
  | .operation operator left right => by
      rw [term, term]
      refine (term_alike hhandler left).bind fun a => ?_
      refine (term_alike hhandler right).bind fun b => ?_
      refine (resolve_steady a).bind fun a => ?_
      exact (resolve_steady b).bind fun b => lift_steady _
  | .compare first links => by
      rw [term, term]
      refine (term_alike hhandler first).bind fun value => ?_
      exact (compareLinks_alike hhandler value links).bind fun _ => .pure _
  | .conditional test yes otherwise => by
      rw [term.eq_def, term.eq_def]
      dsimp only
      refine (term_alike hhandler test).bind fun value => ?_
      refine (holds_steady value).bind fun found => ?_
      split
      · exact term_alike hhandler yes
      · cases otherwise with
        | none => exact .pure _
        | some other => exact term_alike hhandler other
  | .filter name operand arguments => by
      have harguments : Alike (evaluateArguments (argumentActions scope handler arguments))
          (evaluateArguments (argumentActions scope.linked handler arguments)) :=
        evaluateArguments_alike (argumentActions_alike hhandler arguments)
      rw [term, term]
      refine (term_alike hhandler operand).bind fun value => ?_
      exact harguments.bind fun arguments => applyFilter_steady name value arguments
  | .test name operand arguments => by
      have harguments : Alike (evaluateArguments (argumentActions scope handler arguments))
          (evaluateArguments (argumentActions scope.linked handler arguments)) :=
        evaluateArguments_alike (argumentActions_alike hhandler arguments)
      rw [term, term]
      refine (term_alike hhandler operand).bind fun value => ?_
      refine harguments.bind fun arguments => ?_
      refine (resolve_steady value).bind fun value => ?_
      refine (resolveAll_steady arguments).bind fun arguments => ?_
      exact (lift_steady _).bind fun _ => .pure _
termination_by structural t => t

theorem compareLinks_alike (hhandler : handler.Steady) (left : Value) :
    (links : List (Comparison × Term)) →
      Alike (compareLinks scope handler left links) (compareLinks scope.linked handler left links)
  | [] => by
      rw [compareLinks, compareLinks]
      exact .pure true
  | (comparison, operand) :: rest => by
      rw [compareLinks, compareLinks]
      refine (term_alike hhandler operand).bind fun right => ?_
      refine (compare_steady comparison left right).bind fun found => ?_
      split
      · exact compareLinks_alike hhandler right rest
      · exact .pure false
termination_by structural links => links

theorem terms_alike (hhandler : handler.Steady) :
    (ts : List Term) → Alike (terms scope handler ts) (terms scope.linked handler ts)
  | [] => by
      rw [terms, terms]
      exact .pure []
  | first :: rest => by
      rw [terms, terms]
      refine (term_alike hhandler first).bind fun value => ?_
      exact (terms_alike hhandler rest).bind fun values => .pure (value :: values)
termination_by structural ts => ts

theorem termPairs_alike (hhandler : handler.Steady) :
    (pairs : List (Term × Term)) →
      Alike (termPairs scope handler pairs) (termPairs scope.linked handler pairs)
  | [] => by
      rw [termPairs, termPairs]
      exact .pure []
  | (key, value) :: rest => by
      rw [termPairs, termPairs]
      refine (term_alike hhandler key).bind fun key => ?_
      refine (term_alike hhandler value).bind fun value => ?_
      exact (termPairs_alike hhandler rest).bind fun entries => .pure ((key, value) :: entries)
termination_by structural pairs => pairs

theorem optionalTerm_alike (hhandler : handler.Steady) :
    (t : Option Term) → Alike (optionalTerm scope handler t) (optionalTerm scope.linked handler t)
  | none => by
      rw [optionalTerm, optionalTerm]
      exact .pure Value.null
  | some present => by
      rw [optionalTerm, optionalTerm]
      exact term_alike hhandler present
termination_by structural t => t

theorem argumentActions_alike (hhandler : handler.Steady) :
    (arguments : List (Passing × Term)) →
      ActionsAlike (argumentActions scope handler arguments)
        (argumentActions scope.linked handler arguments)
  | [] => by
      rw [argumentActions, argumentActions]
      exact .nil
  | (passing, argument) :: rest => by
      rw [argumentActions, argumentActions]
      exact .cons ⟨rfl, term_alike hhandler argument⟩ (argumentActions_alike hhandler rest)
termination_by structural arguments => arguments

end

/-! ## Variables and frames -/

theorem store_steady {name : String} (hname : name ≠ runName) (value : Value) :
    Steady (store name value) := by
  refine .change fun store hstore => ?_
  dsimp only
  split
  · exact hstore
  next frame rest hframes =>
    obtain ⟨hframe, hrest⟩ := hstore.innermost hframes
    refine ⟨List.forall_mem_cons.mpr ⟨⟨?_, hframe.loop⟩, hrest⟩, hstore.within, hstore.blocks⟩
    rw [Assoc.find?_put, if_neg hname]
    exact hframe.locals

mutual

theorem assign_alike (hhandler : handler.Steady) (value : Value) :
    (target : Target) → target.Plain →
      Alike (assign scope handler value target) (assign scope.linked handler value target)
  | .name name, hplain => by
      cases hplain with
      | name _ hname =>
          rw [assign, assign]
          exact store_steady hname value
  | .field base name, _ => by
      rw [assign, assign]
      refine (term_alike hhandler base).bind fun owner => ?_
      split
      · exact .change fun store hstore => ⟨hstore.frames, hstore.within, hstore.blocks⟩
      · exact .throw _
  | .tuple targets, hplain => by
      cases hplain with
      | tuple _ htargets =>
          rw [assign, assign]
          have hassigned (items : List Value) (fault : Fault) :
              Alike
                (if items.length ≠ targets.length then do
                  throw fault
                  assignAll scope handler items targets
                else assignAll scope handler items targets)
                (if items.length ≠ targets.length then do
                  throw fault
                  assignAll scope.linked handler items targets
                else assignAll scope.linked handler items targets) := by
            split
            · exact (Alike.throw _).bind fun _ => assignAll_alike hhandler items targets htargets
            · exact assignAll_alike hhandler items targets htargets
          refine (resolve_steady value).bind fun value => ?_
          dsimp only
          split
          · exact (Alike.pure _).bind fun items => hassigned items _
          · exact (Alike.throw _).bind fun items => hassigned items _

theorem assignAll_alike (hhandler : handler.Steady) (values : List Value) :
    (targets : List Target) → (∀ target ∈ targets, target.Plain) →
      Alike (assignAll scope handler values targets) (assignAll scope.linked handler values targets)
  | [], _ => by
      rw [assignAll, assignAll]
      exact .pure ()
  | target :: rest, hplain => by
      obtain ⟨htarget, hrest⟩ := List.forall_mem_cons.mp hplain
      rw [assignAll.eq_def, assignAll.eq_def]
      dsimp only
      split
      · exact .pure ()
      next value more =>
        exact (assign_alike hhandler value target htarget).bind fun _ =>
          assignAll_alike hhandler more rest hrest

end

theorem write_steady (content : String) : Steady (write content) :=
  .change fun _ hstore => ⟨hstore.frames, hstore.within, hstore.blocks⟩

theorem print_steady (value : Value) : Steady (print value) := by
  refine (resolve_steady value).bind fun found => ?_
  split
  · exact .throw _
  · exact write_steady _

theorem capture_alike {body other : Evaluation Unit} (h : Alike body other) :
    Alike (capture body) (capture other) := by
  have hout (out : String) : Steady (modify ({ · with out := out }) : Evaluation PUnit) :=
    .change fun _ hstore => ⟨hstore.frames, hstore.within, hstore.blocks⟩
  unfold capture
  refine .getBind fun before _ => (hout _).bind fun _ => h.bind fun _ => ?_
  exact .getBind fun after _ => (hout _).bind fun _ => .pure _

theorem checkDepth_steady (levels : Nat) : Steady (checkDepth levels) := by
  refine .getBind fun store _ => ?_
  split
  · exact .throw _
  · exact .pure _

theorem inFrame_alike {frame : Frame} (hframe : frame.Plain) {body other : Evaluation α}
    (h : Alike body other) : Alike (inFrame frame body) (inFrame frame other) := by
  refine (checkDepth_steady 0).bind fun _ => ?_
  refine (Alike.change fun store hstore => ?_).bind fun _ => h.bind fun result => ?_
  · exact ⟨List.forall_mem_cons.mpr ⟨hframe, hstore.frames⟩, hstore.within, hstore.blocks⟩
  · refine (Alike.change fun store hstore => ?_).bind fun _ => .pure result
    exact ⟨fun frame hmem => hstore.frames frame (List.mem_of_mem_tail hmem), hstore.within,
      hstore.blocks⟩

/-- A frame without variables is plain. -/
theorem frame_plain : Frame.Plain {} := ⟨rfl, nofun⟩

/-! ## Loops -/

theorem nextRound_steady (state : Value) : Steady (nextRound state) := by
  refine .change fun store hstore => ?_
  dsimp only
  split
  · exact hstore
  next frame rest hframes =>
    obtain ⟨hframe, hrest⟩ := hstore.innermost hframes
    refine ⟨List.forall_mem_cons.mpr ⟨⟨rfl, ?_⟩, hrest⟩, hstore.within, hstore.blocks⟩
    intro loop hloop
    obtain ⟨running, hrunning, rfl⟩ := Option.map_eq_some_iff.mp hloop
    exact hframe.loop running hrunning

theorem iterate_alike {body other : Value → Evaluation Unit}
    (h : ∀ item, Alike (body item) (other item)) (state : Nat → Value → Value → Value)
    (index : Nat) (previous : Value) (items : List Value) :
    Alike (iterate body state index previous items) (iterate other state index previous items) := by
  induction items generalizing index previous with
  | nil => exact .pure ()
  | cons item rest ih =>
      exact (nextRound_steady _).bind fun _ => (h item).bind fun _ => ih (index + 1) item

/-- The rounds of a loop that does not call itself. -/
theorem runRounds_alike {body other : Value → Evaluation Unit}
    (h : ∀ item, Alike (body item) (other item)) (length : Option Nat) (items : List Value) :
    Alike (runRounds none length items body) (runRounds none length items other) := by
  unfold runRounds runningLoop?
  simp only [bind_assoc, pure_bind]
  refine .getBind fun before _ => .getBind fun store _ => ?_
  refine (Alike.change fun store hstore => ?_).bind fun _ => ?_
  · exact ⟨hstore.frames, hstore.within, hstore.blocks⟩
  · refine inFrame_alike ⟨rfl, ?_⟩ (iterate_alike h _ 0 .missing items)
    rintro loop ⟨⟩
    rfl

theorem select_alike {condition other : Value → Evaluation Bool}
    (h : ∀ item, Alike (condition item) (other item)) (items : List Value) :
    Alike (select condition items) (select other items) := by
  induction items with
  | nil => exact .pure []
  | cons item rest ih =>
      exact (h item).bind fun kept => ih.bind fun others => .pure _

theorem filterAll_alike (hhandler : handler.Steady) (filters : List FilterStep) (value : Value) :
    Alike (filterAll scope handler filters value) (filterAll scope.linked handler filters value) := by
  induction filters generalizing value with
  | nil => exact .pure value
  | cons filter rest ih =>
      refine (evaluateArguments_alike (argumentActions_alike hhandler filter.arguments)).bind
        fun arguments => ?_
      exact (applyFilter_steady filter.name value arguments).bind fun value => ih value

/-- The rounds of a loop are run alike, and what is done in their place if there are none. -/
theorem roundsOrElse_alike {round other : Value → Evaluation Unit}
    {otherwise another : Evaluation Unit} (hround : ∀ item, Alike (round item) (other item))
    (hotherwise : Alike otherwise another) (length : Option Nat) (chosen : List Value) :
    Alike
      (do
        runRounds none length chosen round
        if chosen.isEmpty then otherwise)
      (do
        runRounds none length chosen other
        if chosen.isEmpty then another) := by
  refine (runRounds_alike hround length chosen).bind fun _ => ?_
  split
  · exact hotherwise
  · exact .pure _

/-! ## Statements -/

/-- Statements are run alike if each of them is. -/
theorem statements_alike_of {body : List Statement}
    (h : ∀ s ∈ body, Alike (statement scope handler s) (statement scope.linked handler s)) :
    Alike (statements scope handler body) (statements scope.linked handler body) := by
  induction body with
  | nil =>
      rw [statements, statements]
      exact .pure ()
  | cons first rest ih =>
      obtain ⟨hfirst, hrest⟩ := List.forall_mem_cons.mp h
      rw [statements, statements]
      exact hfirst.bind fun _ => ih hrest

/-- A plain statement is run as if its template functions did not look for the run. -/
theorem statement_alike (hhandler : handler.Steady) {s : Statement} (hplain : s.Plain) :
    Alike (statement scope handler s) (statement scope.linked handler s) := by
  induction hplain with
  | text content =>
      rw [statement, statement]
      exact write_steady content
  | value value =>
      rw [statement, statement]
      exact (term_alike hhandler value).bind fun value => print_steady value
  | branch test yes otherwise _ _ ihyes ihotherwise =>
      rw [statement, statement]
      refine (term_alike hhandler test).bind fun value => ?_
      refine (holds_steady value).bind fun found => ?_
      split
      · exact statements_alike_of ihyes
      · exact statements_alike_of ihotherwise
  | loop target items condition body otherwise htarget _ _ ihbody ihotherwise =>
      have hassign (item : Value) : Alike (assign scope handler item target)
          (assign scope.linked handler item target) := assign_alike hhandler item target htarget
      have hround (item : Value) := (hassign item).bind fun _ => statements_alike_of ihbody
      have hrounds := roundsOrElse_alike hround (statements_alike_of ihotherwise)
      rw [statement.eq_def, statement.eq_def]
      dsimp only
      refine (term_alike hhandler items).bind fun value => ?_
      refine (resolve_steady value).bind fun value => (lift_steady _).bind fun all => ?_
      cases condition with
      | none => exact (Alike.pure _).bind fun found => hrounds found.2 found.1
      | some condition =>
          -- The condition is tried on every item before the first round, in a frame of its own.
          have hterm : Alike (term scope handler condition) (term scope.linked handler condition) :=
            term_alike hhandler condition
          have hcondition (item : Value) :=
            (hassign item).bind fun _ => hterm.bind holds_steady
          refine (inFrame_alike frame_plain (select_alike hcondition all)).bind fun chosen => ?_
          exact (Alike.pure _).bind fun found => hrounds found.2 found.1
  | set target value htarget =>
      rw [statement, statement]
      exact (term_alike hhandler value).bind fun value => assign_alike hhandler value target htarget
  | setBlock target filters body htarget _ ih =>
      rw [statement, statement]
      refine (capture_alike (statements_alike_of ih)).bind fun written => ?_
      exact (filterAll_alike hhandler filters _).bind fun value =>
        assign_alike hhandler value target htarget
  | bind bindings body hbindings _ ih =>
      rw [statement, statement]
      refine inFrame_alike frame_plain (Alike.bind ?_ fun _ => statements_alike_of ih)
      refine .forM fun binding hbinding => ?_
      exact (term_alike hhandler binding.2).bind fun value =>
        assign_alike hhandler value binding.1 (hbindings binding hbinding)
  | filtered filters body _ ih =>
      rw [statement, statement]
      refine (capture_alike (statements_alike_of ih)).bind fun written => ?_
      exact (filterAll_alike hhandler filters _).bind fun value => print_steady value
  | perform action =>
      rw [statement, statement]
      exact (term_alike hhandler action).bind fun _ => .pure _

/-! ## Templates -/

/-- A macro returns to the store that it has been called in. -/
theorem handler_steady (scope : Scope) (levels : Nat) : (Evaluation.handler scope levels).Steady := by
  intro parameters body closure values caller
  cases levels with
  | zero => exact .throw _
  | succ levels =>
      show Steady (runMacro scope (Evaluation.handler scope levels) parameters body closure values
        caller)
      refine (checkDepth_steady 6).bind fun _ => .getBind fun before hbefore => ?_
      rw [← bind_assoc]
      refine .restoring ?_ Value.text
      exact fun _ => ⟨hbefore.frames, hbefore.within, hbefore.blocks⟩

/-- A plain template is run as if its template functions did not look for the run, which they then
have if and only if the scope supplies it. -/
theorem template_linked {body : List Statement} (hplain : ∀ s ∈ body, s.Plain) {store : Store}
    (hstore : store.Plain) :
    template scope body store =
      statements scope.linked (Evaluation.handler scope depthLimit) body store := by
  have halike : Alike (statements scope (Evaluation.handler scope depthLimit) body)
      (statements scope.linked (Evaluation.handler scope depthLimit) body) :=
    statements_alike_of fun s hs =>
      statement_alike (handler_steady scope depthLimit) (hplain s hs)
  have hblocks : { store with blocks := Statement.listBlocks body } = store := by
    rw [Statement.listBlocks_plain hplain, ← hstore.blocks]
  show statements scope _ body { store with blocks := Statement.listBlocks body } = _
  rw [hblocks]
  exact (halike store hstore).1

end Evaluation

end RecordRecipe.Expr
