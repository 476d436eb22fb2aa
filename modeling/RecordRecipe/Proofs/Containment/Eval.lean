import RecordRecipe.Proofs.Containment.Call

/-!
# Templates within rows

Terms give values within the rows of their scope, and statements keep the store within them. The
proofs follow the structure of the syntax; handlers are gone through by the number of calls that
they allow.
-/

namespace RecordRecipe.Expr.Evaluation

variable {rows : RowRef → Prop} {scope : Scope} {handler : Handler}

theorem applyFilter_keeps (hscope : scope.Within rows) {name : String} {value : Value}
    (hvalue : value.Within rows) {arguments : Arguments} (harguments : arguments.Within rows) :
    Keeps rows (fun value => value.Within rows) (applyFilter scope name value arguments) := by
  unfold applyFilter
  refine (resolve_keeps hvalue).bind fun value hvalue => ?_
  refine (resolveAll_keeps harguments).bind fun arguments harguments => ?_
  exact lift_keeps (Value.applyFilter_within hscope.fields hvalue harguments)

/-- A literal holds no references. -/
theorem literal_within {value : Literal} : (literal value).Within rows := by
  cases value <;> simp [literal]

mutual

/-- What a term gives is within the rows of its scope. -/
theorem term_keeps (hscope : scope.Within rows) (hhandler : handler.Within rows) :
    (t : Term) → Keeps rows (fun value => value.Within rows) (term scope handler t)
  | .literal value => by
      rw [term]
      exact .pure literal_within
  | .name name => by
      rw [term]
      exact (lookup?_keeps hscope name).bind fun found hfound =>
        .pure (Value.within_getD hfound Value.within_missing)
  | .list items => by
      rw [term]
      exact (terms_keeps hscope hhandler items).bind fun items hitems => .pure (.list items hitems)
  | .map entries => by
      rw [term]
      exact (termPairs_keeps hscope hhandler entries).bind fun entries hentries =>
        .pure (Value.mapOf_within hentries)
  | .field base name => by
      rw [term]
      refine (term_keeps hscope hhandler base).bind fun value hvalue => ?_
      exact (attribute?_keeps hscope hvalue name).bind fun found hfound => orMissing_keeps hfound
  | .item base subscript => by
      rw [term]
      refine (term_keeps hscope hhandler base).bind fun value hvalue => ?_
      refine (term_keeps hscope hhandler subscript).bind fun index _ => ?_
      exact (subscript?_keeps hscope hvalue index).bind fun found hfound => orMissing_keeps hfound
  | .slice base start stop step => by
      rw [term]
      refine (term_keeps hscope hhandler base).bind fun value hvalue => ?_
      refine (optionalTerm_keeps hscope hhandler start).bind fun start _ => ?_
      refine (optionalTerm_keeps hscope hhandler stop).bind fun stop _ => ?_
      refine (optionalTerm_keeps hscope hhandler step).bind fun step _ => ?_
      exact lift_keeps (sliceValue_within hvalue)
  | .call callee arguments => by
      have harguments := evaluateArguments_keeps (argumentActions_keep hscope hhandler arguments)
      -- A name and a method are called as such; anything else is evaluated and called as a value.
      cases callee with
      | name name =>
          rw [term]
          exact harguments.bind fun arguments harguments =>
            callTo_keeps hscope hhandler (.named name) trivial harguments
      | field base name =>
          rw [term]
          split
          · exact callBlock_keeps hhandler name
          · refine (term_keeps hscope hhandler base).bind fun value hvalue => ?_
            exact harguments.bind fun arguments harguments =>
              callTo_keeps hscope hhandler (.method value name) hvalue harguments
      | _ =>
          rw [term]
          refine (term_keeps hscope hhandler _).bind fun value hvalue => ?_
          exact harguments.bind fun arguments harguments =>
            callTo_keeps hscope hhandler (.value value) hvalue harguments
          all_goals simp
  | .not operand => by
      rw [term]
      refine (term_keeps hscope hhandler operand).bind fun value hvalue => ?_
      exact (holds_keeps hvalue).bind fun found _ => .pure (.bool _)
  | .negate operand => by
      rw [term]
      exact (term_keeps hscope hhandler operand).bind fun value _ =>
        lift_keeps Value.negate_within
  | .both left right => by
      rw [term]
      refine (term_keeps hscope hhandler left).bind fun value hvalue => ?_
      refine (holds_keeps hvalue).bind fun found _ => ?_
      split
      · exact term_keeps hscope hhandler right
      · exact .pure hvalue
  | .either left right => by
      rw [term]
      refine (term_keeps hscope hhandler left).bind fun value hvalue => ?_
      refine (holds_keeps hvalue).bind fun found _ => ?_
      split
      · exact .pure hvalue
      · exact term_keeps hscope hhandler right
  | .operation operator left right => by
      rw [term]
      refine (term_keeps hscope hhandler left).bind fun a ha => ?_
      refine (term_keeps hscope hhandler right).bind fun b hb => ?_
      refine (resolve_keeps ha).bind fun a ha => (resolve_keeps hb).bind fun b hb => ?_
      exact lift_keeps (Value.operate_within ha hb)
  | .compare first links => by
      rw [term]
      refine (term_keeps hscope hhandler first).bind fun value hvalue => ?_
      exact (compareLinks_keeps hscope hhandler hvalue links).bind
        fun found _ => .pure (.bool found)
  | .conditional test yes otherwise => by
      rw [term.eq_def]
      dsimp only
      refine (term_keeps hscope hhandler test).bind fun value hvalue => ?_
      refine (holds_keeps hvalue).bind fun found _ => ?_
      split
      · exact term_keeps hscope hhandler yes
      · cases otherwise with
        | none => exact .pure (.undefined true)
        | some other => exact term_keeps hscope hhandler other
  | .filter name operand arguments => by
      have harguments := evaluateArguments_keeps (argumentActions_keep hscope hhandler arguments)
      rw [term]
      refine (term_keeps hscope hhandler operand).bind fun value hvalue => ?_
      exact harguments.bind fun arguments harguments =>
        applyFilter_keeps hscope hvalue harguments
  | .test name operand arguments => by
      have harguments := evaluateArguments_keeps (argumentActions_keep hscope hhandler arguments)
      rw [term]
      refine (term_keeps hscope hhandler operand).bind fun value hvalue => ?_
      refine harguments.bind fun arguments harguments => ?_
      refine (resolve_keeps hvalue).bind fun value _ => ?_
      refine (resolveAll_keeps harguments).bind fun arguments _ => ?_
      refine (lift_keeps (P := fun _ => True) (Gives.of_forall fun _ => trivial)).bind ?_
      exact fun found _ => .pure (.bool found)
termination_by structural t => t

theorem compareLinks_keeps (hscope : scope.Within rows) (hhandler : handler.Within rows)
    {left : Value} (hleft : left.Within rows) :
    (links : List (Comparison × Term)) →
      Keeps rows (fun _ => True) (compareLinks scope handler left links)
  | [] => by
      rw [compareLinks]
      exact .pure trivial
  | (comparison, operand) :: rest => by
      rw [compareLinks]
      refine (term_keeps hscope hhandler operand).bind fun right hright => ?_
      refine (compare_keeps hscope hleft hright comparison).bind fun found _ => ?_
      split
      · exact compareLinks_keeps hscope hhandler hright rest
      · exact .pure trivial
termination_by structural links => links

theorem terms_keeps (hscope : scope.Within rows) (hhandler : handler.Within rows) :
    (ts : List Term) →
      Keeps rows (fun values => ∀ value ∈ values, value.Within rows) (terms scope handler ts)
  | [] => by
      rw [terms]
      exact .pure (by simp)
  | first :: rest => by
      rw [terms]
      refine (term_keeps hscope hhandler first).bind fun value hvalue => ?_
      refine (terms_keeps hscope hhandler rest).bind fun values hvalues => ?_
      exact .pure (List.forall_mem_cons.mpr ⟨hvalue, hvalues⟩)
termination_by structural ts => ts

theorem termPairs_keeps (hscope : scope.Within rows) (hhandler : handler.Within rows) :
    (pairs : List (Term × Term)) → Keeps rows (EntriesWithin rows) (termPairs scope handler pairs)
  | [] => by
      rw [termPairs]
      exact .pure (by simp [EntriesWithin])
  | (key, value) :: rest => by
      rw [termPairs]
      refine (term_keeps hscope hhandler key).bind fun key hkey => ?_
      refine (term_keeps hscope hhandler value).bind fun value hvalue => ?_
      refine (termPairs_keeps hscope hhandler rest).bind fun entries hentries => ?_
      exact .pure (List.forall_mem_cons.mpr ⟨⟨hkey, hvalue⟩, hentries⟩)
termination_by structural pairs => pairs

theorem optionalTerm_keeps (hscope : scope.Within rows) (hhandler : handler.Within rows) :
    (t : Option Term) → Keeps rows (fun value => value.Within rows) (optionalTerm scope handler t)
  | none => by
      rw [optionalTerm]
      exact .pure .null
  | some present => by
      rw [optionalTerm]
      exact term_keeps hscope hhandler present
termination_by structural t => t

theorem argumentActions_keep (hscope : scope.Within rows) (hhandler : handler.Within rows) :
    (arguments : List (Passing × Term)) →
      ∀ action ∈ argumentActions scope handler arguments,
        Keeps rows (fun value => value.Within rows) action.2
  | [] => by simp [argumentActions]
  | (passing, argument) :: rest => by
      rw [argumentActions]
      exact List.forall_mem_cons.mpr
        ⟨term_keeps hscope hhandler argument, argumentActions_keep hscope hhandler rest⟩
termination_by structural arguments => arguments

end

theorem calleeTerm_keeps (hscope : scope.Within rows) (hhandler : handler.Within rows)
    (callee : Term) :
    Keeps rows (fun callee => callee.Within rows) (calleeTerm scope handler callee) := by
  unfold calleeTerm
  split
  next name => exact .pure trivial
  next base name =>
    exact (term_keeps hscope hhandler base).bind fun value hvalue => .pure hvalue
  next => exact (term_keeps hscope hhandler callee).bind fun value hvalue => .pure hvalue

/-- A change of the innermost frame keeps the store within rows if it keeps the frame so. -/
theorem modifyFrame_within {store : Store} (hstore : store.Within rows) {frame changed : Frame}
    {rest : List Frame} (hframes : store.frames = frame :: rest)
    (hchanged : frame.Within rows → changed.Within rows) :
    ∀ other ∈ changed :: rest, other.Within rows := by
  have hall := hstore.frames
  rw [hframes] at hall
  obtain ⟨hframe, hrest⟩ := List.forall_mem_cons.mp hall
  exact List.forall_mem_cons.mpr ⟨hchanged hframe, hrest⟩

theorem store_keeps (name : String) {value : Value} (hvalue : value.Within rows) :
    Keeps rows (fun _ => True) (store name value) := by
  refine .change fun store hstore => ?_
  dsimp only
  split
  · exact hstore
  next frame rest hframes =>
    refine ⟨?_, ?_, hstore.spaces⟩
    · exact modifyFrame_within hstore hframes fun hframe =>
        ⟨hframe.locals.put hvalue, hframe.loop⟩
    · dsimp only
      split
      · exact modify_within hstore.closures _ _ hvalue
      · exact hstore.closures

mutual

theorem assign_keeps (hscope : scope.Within rows) (hhandler : handler.Within rows)
    {value : Value} (hvalue : value.Within rows) :
    (target : Target) → Keeps rows (fun _ => True) (assign scope handler value target)
  | .name name => by
      rw [assign]
      exact store_keeps name hvalue
  | .field base name => by
      rw [assign]
      refine (term_keeps hscope hhandler base).bind fun owner _ => ?_
      split
      · refine .change fun store hstore => ?_
        exact ⟨hstore.frames, hstore.closures, modify_within hstore.spaces _ name hvalue⟩
      · exact .throw
  | .tuple targets => by
      rw [assign]
      refine (resolve_keeps hvalue).bind fun value hvalue => ?_
      split
      next items hitems =>
        have hwithin := Value.members?_within hvalue items hitems
        refine (Keeps.pure (P := fun items => ∀ item ∈ items, item.Within rows) hwithin).bind
          fun items hitems => ?_
        dsimp only
        split
        · exact .throwBind
        · exact assignAll_keeps hscope hhandler hitems targets
      · exact .throwBind

theorem assignAll_keeps (hscope : scope.Within rows) (hhandler : handler.Within rows)
    {values : List Value} (hvalues : ∀ value ∈ values, value.Within rows) :
    (targets : List Target) → Keeps rows (fun _ => True) (assignAll scope handler values targets)
  | [] => by
      rw [assignAll]
      exact .pure trivial
  | target :: rest => by
      rw [assignAll.eq_def]
      dsimp only
      split
      · exact .pure trivial
      next value more =>
        obtain ⟨hvalue, hmore⟩ := List.forall_mem_cons.mp hvalues
        exact (assign_keeps hscope hhandler hvalue target).bind fun _ _ =>
          assignAll_keeps hscope hhandler hmore rest

end

theorem write_keeps (content : String) : Keeps rows (fun _ => True) (write content) :=
  .change fun _ hstore => ⟨hstore.frames, hstore.closures, hstore.spaces⟩

theorem print_keeps {value : Value} (hvalue : value.Within rows) :
    Keeps rows (fun _ => True) (print value) := by
  refine (resolve_keeps hvalue).bind fun found _ => ?_
  split
  · exact .throw
  · exact write_keeps _

theorem checkDepth_keeps (levels : Nat) : Keeps rows (fun _ => True) (checkDepth levels) := by
  refine Keeps.get.bind fun store _ => ?_
  split
  · exact .throw
  · exact .pure trivial

theorem inFrame_keeps {α : Type} {P : α → Prop} {frame : Frame} (hframe : frame.Within rows)
    {body : Evaluation α} (hbody : Keeps rows P body) : Keeps rows P (inFrame frame body) := by
  refine (checkDepth_keeps 0).bind fun _ _ => ?_
  refine (Keeps.change fun store hstore => ?_).bind fun _ _ => hbody.bind fun result hresult => ?_
  · exact ⟨List.forall_mem_cons.mpr ⟨hframe, hstore.frames⟩, hstore.closures, hstore.spaces⟩
  · refine (Keeps.change fun store hstore => ?_).bind fun _ _ => .pure hresult
    exact ⟨fun other hother => hstore.frames other (List.mem_of_mem_tail hother), hstore.closures,
      hstore.spaces⟩

theorem nextRound_keeps {state : Value} (hstate : state.Within rows) :
    Keeps rows (fun _ => True) (nextRound state) := by
  refine .change fun store hstore => ?_
  dsimp only
  split
  · exact hstore
  next frame rest hframes =>
    refine ⟨?_, hstore.closures, hstore.spaces⟩
    refine modifyFrame_within hstore hframes fun _ => ⟨by simp [NamesWithin], ?_⟩
    intro loop hloop
    obtain ⟨running, _, rfl⟩ := Option.map_eq_some_iff.mp hloop
    exact hstate

theorem filterAll_keeps (hscope : scope.Within rows) (hhandler : handler.Within rows)
    {filters : List FilterStep} {value : Value} (hvalue : value.Within rows) :
    Keeps rows (fun value => value.Within rows) (filterAll scope handler filters value) := by
  induction filters generalizing value with
  | nil => exact .pure hvalue
  | cons filter rest ih =>
      refine (evaluateArguments_keeps (argumentActions_keep hscope hhandler _)).bind
        fun arguments harguments => ?_
      exact (applyFilter_keeps hscope hvalue harguments).bind fun value hvalue => ih hvalue

theorem iterate_keeps {body : Value → Evaluation Unit} {state : Nat → Value → Value → Value}
    (hbody : ∀ item, item.Within rows → Keeps rows (fun _ => True) (body item))
    (hstate : ∀ index previous next, previous.Within rows → next.Within rows →
      (state index previous next).Within rows)
    {index : Nat} {previous : Value} (hprevious : previous.Within rows) {items : List Value}
    (hitems : ∀ item ∈ items, item.Within rows) :
    Keeps rows (fun _ => True) (iterate body state index previous items) := by
  induction items generalizing index previous with
  | nil => exact .pure trivial
  | cons item rest ih =>
      obtain ⟨hitem, hrest⟩ := List.forall_mem_cons.mp hitems
      have hnext : (rest.headD .missing).Within rows := by
        cases rest with
        | nil => exact Value.within_missing
        | cons next others => exact hrest next (by simp)
      refine (nextRound_keeps (hstate _ _ _ hprevious hnext)).bind fun _ _ => ?_
      exact (hbody item hitem).bind fun _ _ => ih hitem hrest

theorem runRounds_keeps {recursion : Option (Target × List Statement)} {length : Option Nat}
    {items : List Value} (hitems : ∀ item ∈ items, item.Within rows)
    {body : Value → Evaluation Unit}
    (hbody : ∀ item, item.Within rows → Keeps rows (fun _ => True) (body item)) :
    Keeps rows (fun _ => True) (runRounds recursion length items body) := by
  unfold runRounds
  refine runningLoop?_keeps.bind fun outer _ => ?_
  dsimp only
  refine Keeps.get.bind fun before _ => ?_
  refine (Keeps.change fun store hstore => ?_).bind fun _ _ => ?_
  · exact ⟨hstore.frames, hstore.closures, hstore.spaces⟩
  · refine inFrame_keeps ⟨by simp [NamesWithin], ?_⟩ (iterate_keeps hbody ?_ ?_ hitems)
    · rintro loop ⟨⟩
      exact Value.within_missing
    · exact fun index previous next hprevious hnext => .loop _ _ _ _ _ _ hprevious hnext
    · exact Value.within_missing

theorem runBlock_keeps {body : Evaluation Unit} (hbody : Keeps rows (fun _ => True) body) :
    Keeps rows (fun _ => True) (runBlock body) := by
  have hblock (inBlock : Bool) :
      Keeps rows (fun _ => True) (modify ({ · with inBlock := inBlock }) : Evaluation PUnit) :=
    .change fun store hstore => ⟨hstore.frames, hstore.closures, hstore.spaces⟩
  refine Keeps.get.bind fun before _ => (hblock _).bind fun _ _ => ?_
  exact (inFrame_keeps Frame.within_empty hbody).bind fun _ _ => hblock _

theorem select_keeps {condition : Value → Evaluation Bool}
    (hcondition : ∀ item, item.Within rows → Keeps rows (fun _ => True) (condition item))
    {items : List Value} (hitems : ∀ item ∈ items, item.Within rows) :
    Keeps rows (fun chosen => ∀ item ∈ chosen, item.Within rows) (select condition items) := by
  induction items with
  | nil => exact .pure (by simp)
  | cons item rest ih =>
      obtain ⟨hitem, hrest⟩ := List.forall_mem_cons.mp hitems
      refine (hcondition item hitem).bind fun kept _ => (ih hrest).bind fun others hothers => ?_
      refine .pure ?_
      split
      · exact List.forall_mem_cons.mpr ⟨hitem, hothers⟩
      · exact hothers

theorem ownClosure_keeps : Keeps rows (fun _ => True) ownClosure := by
  refine Keeps.get.bind fun store hstore => ?_
  split
  next frame rest hframes =>
    split
    · exact .pure trivial
    · refine (Keeps.set ?_).bind fun _ _ => Keeps.pure trivial
      refine ⟨?_, ?_, hstore.spaces⟩
      · exact modifyFrame_within hstore hframes fun hframe => ⟨hframe.locals, hframe.loop⟩
      · intro names hnames
        obtain hnames | hnames := List.mem_append.mp hnames
        · exact hstore.closures names hnames
        · obtain rfl : names = [] := by simpa using hnames
          simp [NamesWithin]
  · exact .pure trivial

theorem enclose_keeps (hscope : scope.Within rows) (number : Nat) (names : List String) :
    Keeps rows (fun _ => True) (enclose scope number names) := by
  induction names with
  | nil => exact .pure trivial
  | cons name rest ih =>
      unfold enclose
      refine Keeps.get.bind fun before _ => ?_
      dsimp only
      split
      · refine (lookup?_keeps hscope name).bind fun found hfound => ?_
        refine (Keeps.change fun store hstore => ?_).bind fun _ _ => ih
        refine ⟨hstore.frames, ?_, hstore.spaces⟩
        exact modify_within hstore.closures _ name (Value.within_getD hfound Value.within_missing)
      · exact ih

theorem makeRoutine_keeps (hscope : scope.Within rows) (name : String)
    (parameters : List Parameter) (body : List Statement) :
    Keeps rows (fun value => value.Within rows) (makeRoutine scope name parameters body) := by
  refine ownClosure_keeps.bind fun number _ => (enclose_keeps hscope number _).bind fun _ _ => ?_
  exact .pure (.routine name parameters body number)

theorem ownVariables_keeps : Keeps rows (fun value => value.Within rows) ownVariables := by
  refine Keeps.get.bind fun store hstore => .pure ?_
  refine Value.mapOf_within (Value.entries_within_of_names ?_)
  cases hframes : store.frames with
  | nil => simp [NamesWithin]
  | cons frame rest => exact (hstore.frames frame (by simp [hframes])).locals

theorem insert_keeps (hscope : scope.Within rows) (hhandler : handler.Within rows)
    (source : Term) : Keeps rows (fun _ => True) (insert scope handler source) := by
  refine (term_keeps hscope hhandler source).bind fun value hvalue => ?_
  refine (resolve_keeps hvalue).bind fun value _ => ?_
  refine (lift_keeps (P := fun _ => True) (Gives.of_forall fun _ => trivial)).bind fun found _ => ?_
  split
  next text => exact hhandler.runSource text
  · exact .pure trivial

theorem fetched_keeps {α : Type} {P : α → Prop} (hscope : scope.Within rows)
    (hhandler : handler.Within rows) (source : Term) {found : Evaluation α}
    (hfound : Keeps rows P found) : Keeps rows P (fetched scope handler source found) := by
  refine Keeps.get.bind fun before _ => ?_
  have hbody : Keeps rows P (do insert scope handler source; found) :=
    (insert_keeps hscope hhandler source).bind fun _ _ => hfound
  refine (inFrame_keeps Frame.within_empty hbody).bind fun result hresult => ?_
  refine (Keeps.change fun store hstore => ?_).bind fun _ _ => .pure hresult
  exact ⟨hstore.frames, hstore.closures, hstore.spaces⟩

end RecordRecipe.Expr.Evaluation
