import RecordRecipe.Proofs.Containment.Evaluation

/-!
# Calls within rows

What is called with values within some rows gives such a value, provided that the handler of code
that lies elsewhere keeps to the rows. `Evaluation.callTo_keeps` is the result for all that an
expression can call, and `Evaluation.evaluateArguments_keeps` for the arguments.
-/

namespace RecordRecipe.Expr

variable {rows : RowRef → Prop}

/-- A handler runs code within some rows. -/
structure Handler.Within (rows : RowRef → Prop) (handler : Handler) : Prop where
  runMacro : ∀ parameters body closure values caller, (∀ value ∈ values, value.Within rows) →
    (∀ value ∈ caller, value.Within rows) →
      Keeps rows (fun value => value.Within rows)
        (handler.runMacro parameters body closure values caller)
  runBlock : ∀ body, Keeps rows (fun _ => True) (handler.runBlock body)
  runSource : ∀ text, Keeps rows (fun _ => True) (handler.runSource text)
  runLoop : ∀ target body value, value.Within rows →
    Keeps rows (fun _ => True) (handler.runLoop target body value)

/-- The value that a callee rests on lies within some rows. -/
def Callee.Within (rows : RowRef → Prop) : Callee → Prop
  | .named _ => True
  | .method base _ => base.Within rows
  | .value callee => callee.Within rows

/-- A range holds integers. -/
theorem rangeValue_within {arguments : Arguments} :
    Gives (fun value => value.Within rows) (rangeValue arguments) := by
  unfold rangeValue
  dsimp only
  simp only [Gives.bind_iff]
  refine Gives.of_forall fun _ => Gives.of_forall fun _ => Gives.of_forall fun _ =>
    Gives.of_forall fun _ => Gives.of_forall fun _ => ?_
  repeat' split
  all_goals simp

/-- The entries of two lists are within the rows of both. -/
theorem EntriesWithin.append {entries more : List (Value × Value)} (h : EntriesWithin rows entries)
    (hmore : EntriesWithin rows more) : EntriesWithin rows (entries ++ more) := by
  intro entry hentry
  obtain hentry | hentry := List.mem_append.mp hentry
  · exact h entry hentry
  · exact hmore entry hentry

/-- A map made of arguments is within their rows. -/
theorem dictValue_within {arguments : Arguments} (h : arguments.Within rows) :
    Gives (fun value => value.Within rows) (dictValue arguments) := by
  have hmap (base : List (Value × Value)) (hbase : EntriesWithin rows base) :
      (Value.mapOf (base ++ arguments.named.map fun entry => (.text entry.1, entry.2))).Within
        rows :=
    Value.mapOf_within (hbase.append (Value.entries_within_of_names h.named))
  unfold dictValue
  dsimp only
  split
  · simp
  · split
    · exact hmap [] (by simp [EntriesWithin])
    · exact hmap [] (by simp [EntriesWithin])
    · exact hmap [] (by simp [EntriesWithin])
    next value _ _ hvalue =>
      have hwithin := h.positional value (List.mem_of_mem_head? hvalue)
      split
      · exact hmap _ (Value.mapEntries_within hwithin)
      · simp

/-- The entries of a map that have a text as their key are within its rows. -/
theorem textEntries_within {value : Value} (h : value.Within rows) :
    NamesWithin rows
      (value.mapEntries.filterMap fun entry => entry.1.text?.map fun name => (name, entry.2)) := by
  intro named hnamed
  obtain ⟨entry, hentry, hsome⟩ := List.mem_filterMap.mp hnamed
  obtain ⟨name, _, rfl⟩ := Option.map_eq_some_iff.mp hsome
  exact (Value.mapEntries_within h entry hentry).2

/-- The variables that a new space starts with are within the rows of the arguments. -/
theorem spaceVariables_within {arguments : Arguments} (h : arguments.Within rows) :
    Gives (NamesWithin rows) (spaceVariables arguments) := by
  unfold spaceVariables
  rw [Gives.bind_iff]
  refine Gives.of_forall fun _ => ?_
  split
  · simp [NamesWithin]
  next value hvalue =>
    split
    · exact textEntries_within (h.at? 0 value hvalue)
    · simp

namespace Evaluation

theorem makeSpace_keeps {entries : Assoc Value} (h : NamesWithin rows entries) :
    Keeps rows (fun value => value.Within rows) (makeSpace entries) := by
  refine Keeps.get.bind fun before _ => ?_
  refine (Keeps.change fun store hstore => ?_).bind fun _ _ => .pure (.space _)
  refine ⟨hstore.frames, hstore.closures, fun names hnames => ?_⟩
  obtain hnames | hnames := List.mem_append.mp hnames
  · exact hstore.spaces names hnames
  · obtain rfl : names = entries := by simpa using hnames
    exact h

theorem callLanguage_keeps {name : String} {arguments : Arguments} (h : arguments.Within rows) :
    Keeps rows (fun value => value.Within rows) (callLanguage name arguments) := by
  unfold callLanguage
  split
  · exact lift_keeps (dictValue_within h)
  · exact (lift_keeps (spaceVariables_within h)).bind fun entries hentries =>
      makeSpace_keeps hentries
  · exact lift_keeps rangeValue_within

/-- The values of parameters are within the rows of the arguments. -/
theorem fillParameters_within {named : Assoc Value} (hnamed : NamesWithin rows named)
    {parameters : List Parameter} {given : List Value}
    (hgiven : ∀ value ∈ given, value.Within rows) :
    Gives (fun values => ∀ value ∈ values, value.Within rows)
      (fillParameters named parameters given) := by
  induction parameters generalizing given with
  | nil => simp [fillParameters]
  | cons parameter rest ih =>
      unfold fillParameters
      split
      · trivial
      next value more _ =>
        obtain ⟨hvalue, hmore⟩ := List.forall_mem_cons.mp hgiven
        simp only [Gives.bind_iff, Gives.pure_iff]
        exact (ih hmore).imp fun values hvalues => List.forall_mem_cons.mpr ⟨hvalue, hvalues⟩
      next =>
        simp only [Gives.bind_iff, Gives.pure_iff]
        refine (ih (by simp)).imp fun values hvalues => List.forall_mem_cons.mpr ⟨?_, hvalues⟩
        exact Value.within_getD hnamed.find? Value.within_missing

/-- The arguments of a macro are within the rows of the arguments of the call. -/
theorem macroArguments_within {parameters : List Parameter} {withCaller : Bool}
    {arguments : Arguments} (h : arguments.Within rows) :
    Gives (fun values => ∀ value ∈ values, value.Within rows)
      (macroArguments parameters withCaller arguments) := by
  unfold macroArguments
  dsimp only
  split
  · simp
  · rw [Gives.bind_iff]
    refine (fillParameters_within h.named h.positional).imp fun values hvalues => ?_
    split
    · trivial
    · exact hvalues

theorem call_keeps {scope : Scope} {handler : Handler} (hscope : scope.Within rows)
    (hhandler : handler.Within rows) {callee : Value} {arguments : Arguments}
    (harguments : arguments.Within rows) :
    Keeps rows (fun value => value.Within rows) (call scope handler callee arguments) := by
  unfold call
  split
  next name =>
    refine (resolveAll_keeps harguments).bind fun arguments harguments => ?_
    split
    next function hfunction =>
      refine (lookup?_keeps hscope runName).bind fun run _ => draw_keeps fun generator => ?_
      exact hscope.functions name function hfunction _ arguments generator harguments
    · exact callLanguage_keeps harguments
  next parameters body closure =>
    dsimp only
    refine (lift_keeps (macroArguments_within harguments)).bind fun values hvalues => ?_
    refine hhandler.runMacro parameters body closure values _ hvalues fun caller hcaller => ?_
    split at hcaller
    · obtain rfl : _ = caller := by simpa using hcaller
      exact Value.within_getD harguments.named.find? Value.within_missing
    · simp at hcaller
  all_goals exact .throw

theorem callBlock_keeps {handler : Handler} (hhandler : handler.Within rows) (name : String) :
    Keeps rows (fun value => value.Within rows) (callBlock handler name) := by
  refine Keeps.get.bind fun store _ => ?_
  split
  next body _ =>
    exact (capture_keeps (hhandler.runBlock body)).bind fun written _ => .pure (.text written)
  · exact .throw

theorem hasChanged_keeps {loop : Nat} {values : List Value} :
    Keeps rows (fun _ => True) (hasChanged loop values) := by
  unfold hasChanged
  refine Keeps.get.bind fun before _ => ?_
  dsimp only
  split
  · refine (Keeps.change fun store hstore => ?_).bind fun _ _ => .pure trivial
    exact ⟨hstore.frames, hstore.closures, hstore.spaces⟩
  · exact .pure trivial

theorem callLoopMethod_keeps {loop index : Nat} {name : String} {values : List Value}
    (h : ∀ value ∈ values, value.Within rows) :
    Keeps rows (fun value => value.Within rows) (callLoopMethod loop index name values) := by
  unfold callLoopMethod
  split
  · exact hasChanged_keeps.bind fun changed _ => .pure (.bool changed)
  · exact .pure (Value.within_list_getD h Value.within_missing _)
  · exact .throw

theorem callLoop_keeps {handler : Handler} (hhandler : handler.Within rows)
    {arguments : Arguments} (harguments : arguments.Within rows) :
    Keeps rows (fun value => value.Within rows) (callLoop handler arguments) := by
  unfold callLoop
  split
  next items hitems =>
    have hwithin : items.Within rows := harguments.values items (by simp [hitems])
    refine runningLoop?_keeps.bind fun running _ => ?_
    split
    · exact .throw
    · split
      · exact .throw
      next target body _ =>
        exact (capture_keeps (hhandler.runLoop target body items hwithin)).bind
          fun written _ => .pure (.text written)
  · exact .throw

theorem callMethod_keeps {scope : Scope} {handler : Handler} (hscope : scope.Within rows)
    (hhandler : handler.Within rows) {base : Value} (hbase : base.Within rows) (name : String)
    {arguments : Arguments} (harguments : arguments.Within rows) :
    Keeps rows (fun value => value.Within rows)
      (callMethod scope handler base name arguments) := by
  unfold callMethod
  split
  next locale =>
    refine (fakeValue?_keeps hscope locale name).bind fun found hfound => ?_
    split
    next value => exact .pure (hfound value rfl)
    · exact .throw
  next identity index _ _ _ _ => exact callLoopMethod_keeps harguments.values
  · refine (attribute?_keeps hscope hbase name).bind fun found _ => ?_
    split
    · exact call_keeps hscope hhandler harguments
    · exact .throw

theorem callTo_keeps {scope : Scope} {handler : Handler} (hscope : scope.Within rows)
    (hhandler : handler.Within rows) (callee : Callee) (hcallee : callee.Within rows)
    {arguments : Arguments} (harguments : arguments.Within rows) :
    Keeps rows (fun value => value.Within rows) (callTo scope handler callee arguments) := by
  unfold callTo
  split
  next base name => exact callMethod_keeps hscope hhandler hcallee name harguments
  · exact call_keeps hscope hhandler harguments
  next name =>
    split
    · exact callLoop_keeps hhandler harguments
    · split
      · exact Keeps.get.bind fun _ _ => .throw
      · refine (lookup?_keeps hscope name).bind fun found _ => ?_
        split
        · exact call_keeps hscope hhandler harguments
        · exact .throw

theorem namedEntries_within {value : Value} (h : value.Within rows) :
    Gives (NamesWithin rows) (namedEntries value) := by
  unfold namedEntries
  split
  · trivial
  · split
    · exact textEntries_within h
    · trivial

theorem addNamed_within {given : List (Passing × Value)}
    (hgiven : ∀ argument ∈ given, argument.2.Within rows) {named : Assoc Value}
    (hnamed : NamesWithin rows named) : Gives (NamesWithin rows) (addNamed given named) := by
  induction given generalizing named with
  | nil => exact hnamed
  | cons argument rest ih =>
      obtain ⟨passing, value⟩ := argument
      obtain ⟨hvalue, hrest⟩ := List.forall_mem_cons.mp hgiven
      cases passing with
      | name name => exact ih hrest (hnamed.put hvalue)
      | position | spread | spreadNamed =>
          simp only [addNamed, Gives.bind_iff]
          exact (namedEntries_within hvalue).imp fun entries hentries =>
            ih hrest (hnamed.putAll hentries)

theorem placedItems_within {placed : List (Passing × Value)}
    (hplaced : ∀ argument ∈ placed, argument.2.Within rows) :
    Gives (fun items => ∀ item ∈ items, item.Within rows) (placedItems placed) := by
  induction placed with
  | nil => simp [placedItems]
  | cons argument rest ih =>
      obtain ⟨passing, value⟩ := argument
      obtain ⟨hvalue, hrest⟩ := List.forall_mem_cons.mp hplaced
      cases passing with
      | spread =>
          simp only [placedItems, Gives.bind_iff, Gives.pure_iff]
          refine (Value.items_within hvalue).imp fun items hitems => ?_
          refine (ih hrest).imp fun others hothers item hitem => ?_
          obtain hitem | hitem := List.mem_append.mp hitem
          · exact hitems item hitem
          · exact hothers item hitem
      | position | name | spreadNamed =>
          simp only [placedItems, Gives.bind_iff, Gives.pure_iff]
          exact (ih hrest).imp fun others hothers => List.forall_mem_cons.mpr ⟨hvalue, hothers⟩

theorem evaluateAll_keeps {actions : List (Passing × Evaluation Value)}
    (h : ∀ action ∈ actions, Keeps rows (fun value => value.Within rows) action.2) :
    Keeps rows (fun arguments => ∀ argument ∈ arguments, argument.2.Within rows)
      (evaluateAll actions) := by
  induction actions with
  | nil => exact .pure (by simp)
  | cons action rest ih =>
      obtain ⟨haction, hrest⟩ := List.forall_mem_cons.mp h
      refine haction.bind fun value hvalue => (ih hrest).bind fun others hothers => ?_
      exact .pure (List.forall_mem_cons.mpr ⟨hvalue, hothers⟩)

theorem resolveSpread_keeps {argument : Passing × Value} (h : argument.2.Within rows) :
    Keeps rows (fun argument => argument.2.Within rows) (resolveSpread argument) := by
  unfold resolveSpread
  split
  · exact (resolve_keeps h).bind fun value hvalue => .pure hvalue
  · exact (resolve_keeps h).bind fun value hvalue => .pure hvalue
  · exact .pure h

theorem evaluateArguments_keeps {actions : List (Passing × Evaluation Value)}
    (h : ∀ action ∈ actions, Keeps rows (fun value => value.Within rows) action.2) :
    Keeps rows (fun arguments => arguments.Within rows) (evaluateArguments actions) := by
  have hsome (kept : Passing × Evaluation Value → Bool) :
      Keeps rows (fun arguments => ∀ argument ∈ arguments, argument.2.Within rows)
        (evaluateAll (actions.filter kept)) :=
    evaluateAll_keeps fun action haction => h action (List.mem_of_mem_filter haction)
  have hresolved (arguments : List (Passing × Value))
      (harguments : ∀ argument ∈ arguments, argument.2.Within rows) :
      Keeps rows (fun arguments => ∀ argument ∈ arguments, argument.2.Within rows)
        (arguments.mapM resolveSpread) :=
    .mapM fun argument hargument => resolveSpread_keeps (harguments argument hargument)
  unfold evaluateArguments
  rw [List.partition_eq_filter_filter]
  dsimp only
  refine (hsome _).bind fun placed hplaced => ?_
  refine (hresolved placed hplaced).bind fun placed hplaced => ?_
  refine (hsome _).bind fun given hgiven => ?_
  refine (hresolved given hgiven).bind fun given hgiven => ?_
  refine (lift_keeps (addNamed_within hgiven (by simp [NamesWithin]))).bind fun named hnamed => ?_
  refine (lift_keeps (placedItems_within hplaced)).bind fun positional hpositional => ?_
  exact .pure ⟨hpositional, hnamed.mergeSort _⟩

end Evaluation

end RecordRecipe.Expr
