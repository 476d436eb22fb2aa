import Mathlib.Data.List.Forall2
import RecordRecipe.Proofs.Expr.Lookup

/-!
# Template functions and the run

A template function looks for the run under the name that the scope supplies it by, each time it is
called. As long as no variable of the store has that name, what it finds is settled by the scope:
`Scope.linked` is the scope in which the functions no longer look. `Evaluation.term_alike` says that
terms are evaluated alike in both. Terms are evaluated in plain stores, in which no variable has the
name of the run and from which no block and no loop can be called; macros are run by the handler.
-/

namespace RecordRecipe.Expr

open RecordRecipe.Random (Generator)

/-- Does a scope supply the run? -/
def Scope.suppliesRun (scope : Scope) : Bool := scope.valueOf? runName matches some .run

/-- The scope with template functions that do not look for the run. -/
def Scope.calling (functions : String → Option (Arguments → Drawing Value)) (scope : Scope) : Scope :=
  { scope with function? := fun name => (functions name).map fun function _ => function }

/-- The scope with template functions that have the run if the scope supplies it. -/
def Scope.linked (scope : Scope) : Scope :=
  scope.calling fun name => (scope.function? name).map fun function => function scope.suppliesRun

theorem Scope.function?_linked (scope : Scope) (name : String) :
    scope.linked.function? name =
      (scope.function? name).map fun function _ => function scope.suppliesRun :=
  Option.map_map ..

/-- No variable of a frame has the name of the run, and its loop does not call itself. -/
structure Frame.Plain (frame : Frame) : Prop where
  locals : frame.locals.find? runName = none
  loop : ∀ loop ∈ frame.loop, loop.recursion = none

/-- No variable of a store has the name of the run, and none of the code that lies elsewhere is
within reach: no macro is running, no loop calls itself and the template has no blocks. -/
structure Store.Plain (store : Store) : Prop where
  frames : ∀ frame ∈ store.frames, frame.Plain
  within : store.within = none
  blocks : store.blocks = []

theorem Store.Plain.innermost {store : Store} {frame : Frame} {rest : List Frame}
    (h : store.Plain) (hframes : store.frames = frame :: rest) :
    frame.Plain ∧ ∀ frame ∈ rest, frame.Plain :=
  List.forall_mem_cons.mp (hframes ▸ h.frames)

/-- The store in which an evaluation starts is plain. -/
theorem Store.plain_start {generator : Generator} : Store.Plain { generator } where
  frames := by
    intro frame hframe
    rw [List.mem_singleton.mp hframe]
    exact ⟨rfl, nofun⟩
  within := rfl
  blocks := rfl

variable {α β : Type}

/-- Two evaluations end alike wherever they start from a plain store, and leave a plain store behind
if they give something. -/
def Alike (first second : Evaluation α) : Prop :=
  ∀ store : Store, store.Plain →
    first store = second store ∧ ∀ a after, first store = .ok a after → after.Plain

/-- An evaluation leaves a plain store behind wherever it starts from one and gives something. -/
abbrev Steady (action : Evaluation α) : Prop := Alike action action

/-- A handler runs macros over a store to which it returns. -/
def Handler.Steady (handler : Handler) : Prop :=
  ∀ parameters body closure values caller,
    Expr.Steady (handler.runMacro parameters body closure values caller)

namespace Alike

theorem pure (a : α) : Steady (Pure.pure a : Evaluation α) := by
  intro store hstore
  refine ⟨rfl, fun b after hresult => ?_⟩
  cases hresult
  exact hstore

theorem throw (fault : Fault) : Steady (MonadExcept.throw fault : Evaluation α) := by
  intro store hstore
  exact ⟨rfl, fun a after hresult => nomatch hresult⟩

/-- What is done with a plain store that has been read. -/
theorem getBind {next other : Store → Evaluation β}
    (h : ∀ store, store.Plain → Alike (next store) (other store)) :
    Alike (MonadState.get >>= next) (MonadState.get >>= other) :=
  fun store hstore => h store hstore store hstore

theorem change {f : Store → Store} (h : ∀ store : Store, store.Plain → (f store).Plain) :
    Steady (modify f : Evaluation PUnit) := by
  intro store hstore
  refine ⟨rfl, fun done after hresult => ?_⟩
  cases hresult
  exact h store hstore

theorem bind {first second : Evaluation α} {next other : α → Evaluation β}
    (hfirst : Alike first second) (hnext : ∀ a, Alike (next a) (other a)) :
    Alike (first >>= next) (second >>= other) := by
  intro store hstore
  obtain ⟨hsame, hplain⟩ := hfirst store hstore
  change EStateM.bind first next store = EStateM.bind second other store ∧
    ∀ b after, EStateM.bind first next store = .ok b after → after.Plain
  unfold EStateM.bind
  rw [← hsame]
  cases hresult : first store with
  | ok a between => exact hnext a between (hplain a between hresult)
  | error fault after => exact ⟨rfl, fun b later hlater => nomatch hlater⟩

/-- Something done for every item is done alike if it is for each. -/
theorem mapM {items : List α} {f g : α → Evaluation β} (h : ∀ a, Alike (f a) (g a)) :
    Alike (items.mapM f) (items.mapM g) := by
  induction items with
  | nil =>
      rw [List.mapM_nil, List.mapM_nil]
      exact pure []
  | cons first rest ih =>
      rw [List.mapM_cons, List.mapM_cons]
      exact (h first).bind fun b => ih.bind fun others => pure (b :: others)

theorem forM {items : List α} {f g : α → Evaluation PUnit} (h : ∀ a ∈ items, Alike (f a) (g a)) :
    Alike (items.forM f) (items.forM g) := by
  induction items with
  | nil => exact pure PUnit.unit
  | cons first rest ih =>
      obtain ⟨hfirst, hrest⟩ := List.forall_mem_cons.mp h
      exact hfirst.bind fun _ => ih hrest

/-- What returns to a plain store does so whatever it has done before. -/
theorem restoring {action : Evaluation α} {restore : Store → Store}
    (h : ∀ store, (restore store).Plain) (give : α → β) :
    Steady (action >>= fun a => modify restore >>= fun _ => Pure.pure (give a)) := by
  intro store _
  refine ⟨rfl, fun b after hresult => ?_⟩
  change EStateM.bind action _ store = .ok b after at hresult
  unfold EStateM.bind at hresult
  cases haction : action store with
  | ok a between =>
      rw [haction] at hresult
      cases hresult
      exact h between
  | error fault later =>
      rw [haction] at hresult
      cases hresult

end Alike

namespace Evaluation

variable {scope : Scope} {handler : Handler}

/-! ## What looks at the store -/

theorem lift_steady (result : Except Fault α) : Steady (lift result) := by
  cases result with
  | ok a => exact .pure a
  | error fault => exact .throw fault

theorem draw_steady (drawing : Drawing α) : Steady (draw drawing) := by
  refine .getBind fun store hstore => ?_
  refine Alike.bind ?_ fun _ => lift_steady _
  intro other _
  refine ⟨rfl, fun done after hresult => ?_⟩
  cases hresult
  exact ⟨hstore.frames, hstore.within, hstore.blocks⟩

theorem lookup?_steady (name : String) : Steady (lookup? scope name) :=
  .getBind fun _ _ => .pure _

/-- The functions of a linked scope have the names that they had. -/
theorem lookup?_linked (name : String) : lookup? scope.linked name = lookup? scope name := by
  have hsome : (scope.linked.function? name).isSome = (scope.function? name).isSome := by
    rw [Scope.function?_linked, Option.isSome_map]
  unfold lookup?
  rw [hsome]
  rfl

/-- A variable that no frame has is not found in them, unless it is the state of a loop. -/
theorem inFrames?_run {frames : List Frame} (h : ∀ frame ∈ frames, frame.Plain) :
    inFrames? runName frames = none := by
  induction frames with
  | nil => rfl
  | cons frame rest ih =>
      obtain ⟨hframe, hrest⟩ := List.forall_mem_cons.mp h
      have hname : runName ≠ loopName := by decide
      unfold inFrames?
      rw [hframe.locals]
      cases frame.loop with
      | none => exact ih hrest
      | some loop =>
          dsimp only
          rw [if_neg hname]
          exact ih hrest

/-- In a plain store the run is found if the scope supplies it. -/
theorem lookup?_runName {store : Store} (hstore : store.Plain) :
    ∃ found, lookup? scope runName store = .ok found store ∧
      (found matches some .run) = scope.suppliesRun := by
  refine ⟨_, rfl, ?_⟩
  rw [inFrames?_run hstore.frames, hstore.within]
  unfold Scope.suppliesRun
  cases scope.valueOf? runName with
  | none =>
      -- Without the run, a function of its name is found at most.
      show ((if _ then some (Value.function runName) else none) matches some .run) = false
      generalize (languageFunctions.contains runName || _) = known
      cases known <;> rfl
  | some value => rfl

theorem resolve_steady (value : Value) : Steady (resolve value) := by
  unfold resolve
  split
  · exact .getBind fun _ _ => .pure _
  · exact .pure _

theorem resolveAll_steady (arguments : Arguments) : Steady (resolveAll arguments) := by
  unfold resolveAll
  refine (Alike.mapM resolve_steady).bind fun positional => ?_
  refine Alike.bind (.mapM fun entry => ?_) fun named => .pure _
  exact (resolve_steady entry.2).bind fun value => .pure (entry.1, value)

theorem holds_steady (value : Value) : Steady (holds value) := by
  refine (resolve_steady value).bind fun found => ?_
  split
  · exact .throw _
  · exact .pure _

theorem attribute?_steady (value : Value) (name : String) :
    Steady (attribute? scope value name) := by
  refine (resolve_steady value).bind fun found => ?_
  split
  · exact draw_steady _
  · exact .pure _

theorem subscript?_steady (value index : Value) : Steady (subscript? scope value index) := by
  refine (resolve_steady value).bind fun found => ?_
  split
  · exact draw_steady _
  · exact .pure _

theorem orMissing_steady (base : Value) (found : Option Value) :
    Steady (orMissing base found) := by
  unfold orMissing
  split
  · exact .pure _
  · split
    · exact .throw _
    · exact .pure _

theorem contains_steady (container item : Value) : Steady (contains scope container item) := by
  unfold contains
  split
  all_goals first
    | exact (attribute?_steady _ _).bind fun _ => .pure _
    | exact lift_steady _

theorem compare_steady (comparison : Comparison) (a b : Value) :
    Steady (compare scope comparison a b) := by
  unfold compare
  refine (lift_steady _).bind fun _ => ?_
  refine (resolve_steady a).bind fun a => (resolve_steady b).bind fun b => ?_
  split
  · exact contains_steady b a
  · exact (contains_steady b a).bind fun _ => .pure _
  · exact .pure _

theorem applyFilter_steady (name : String) (value : Value) (arguments : Arguments) :
    Steady (applyFilter scope name value arguments) := by
  refine (resolve_steady value).bind fun value => ?_
  exact (resolveAll_steady arguments).bind fun arguments => lift_steady _

/-! ## Calls -/

theorem callLanguage_steady (name : String) (arguments : Arguments) :
    Steady (callLanguage name arguments) := by
  unfold callLanguage
  split
  · exact lift_steady _
  · refine (lift_steady _).bind fun entries => .getBind fun before _ => ?_
    refine (Alike.change fun store hstore => ?_).bind fun _ => .pure _
    exact ⟨hstore.frames, hstore.within, hstore.blocks⟩
  · exact lift_steady _

/-- A template function that looks for the run finds it if and only if the scope supplies it. -/
theorem callFunction_alike (function : Bool → Arguments → Drawing Value) (arguments : Arguments) :
    Alike
      (do
        let run ← lookup? scope runName
        draw (function (run matches some .run) arguments))
      (do
        let _ ← lookup? scope runName
        draw (function scope.suppliesRun arguments)) := by
  intro store hstore
  have hlookup : ∃ found, lookup? scope runName store = .ok found store ∧
      (found matches some .run) = scope.suppliesRun := lookup?_runName hstore
  obtain ⟨found, hfound, hrun⟩ := hlookup
  have hdraw := draw_steady (function scope.suppliesRun arguments) store hstore
  rw [bind_of_eq_ok hfound, bind_of_eq_ok hfound, hrun]
  exact hdraw

theorem call_alike (hhandler : handler.Steady) (callee : Value) (arguments : Arguments) :
    Alike (call scope handler callee arguments) (call scope.linked handler callee arguments) := by
  unfold call
  split
  next name =>
    refine (resolveAll_steady arguments).bind fun arguments => ?_
    rw [Scope.function?_linked, lookup?_linked]
    cases scope.function? name with
    | none => exact callLanguage_steady name arguments
    | some function => exact callFunction_alike function arguments
  next parameters body closure =>
    exact (lift_steady _).bind fun values => hhandler parameters body closure values _
  all_goals exact .throw _

/-- A template without blocks has none to be called. -/
theorem callBlock_steady (name : String) : Steady (callBlock handler name) := by
  refine .getBind fun store hstore => ?_
  rw [hstore.blocks]
  exact .throw _

theorem hasChanged_steady (loop : Nat) (values : List Value) : Steady (hasChanged loop values) := by
  unfold hasChanged
  refine .getBind fun before _ => ?_
  dsimp only
  split
  · refine (Alike.change fun store hstore => ?_).bind fun _ => .pure _
    exact ⟨hstore.frames, hstore.within, hstore.blocks⟩
  · exact .pure _

theorem callLoopMethod_steady (loop index : Nat) (name : String) (values : List Value) :
    Steady (callLoopMethod loop index name values) := by
  unfold callLoopMethod
  split
  · exact (hasChanged_steady loop values).bind fun _ => .pure _
  · exact .pure _
  · exact .throw _

/-- No loop that runs can be called. -/
theorem callLoop_steady (arguments : Arguments) : Steady (callLoop handler arguments) := by
  unfold callLoop
  split
  next items =>
    unfold runningLoop?
    simp only [bind_assoc, pure_bind]
    refine .getBind fun store hstore => ?_
    split
    · exact .throw _
    next loop hloop =>
      obtain ⟨frame, hframe, hrunning⟩ := List.exists_of_findSome?_eq_some hloop
      rw [(hstore.frames frame hframe).loop loop hrunning]
      exact .throw _
  · exact .throw _

theorem callMethod_alike (hhandler : handler.Steady) (base : Value) (name : String)
    (arguments : Arguments) :
    Alike (callMethod scope handler base name arguments)
      (callMethod scope.linked handler base name arguments) := by
  unfold callMethod
  split
  next locale =>
    refine (draw_steady _).bind fun found => ?_
    split
    · exact .pure _
    · exact .throw _
  · exact callLoopMethod_steady _ _ _ _
  · refine (attribute?_steady base name).bind fun found => ?_
    split
    · exact call_alike hhandler _ arguments
    · exact .throw _

theorem callTo_alike (hhandler : handler.Steady) (callee : Callee) (arguments : Arguments) :
    Alike (callTo scope handler callee arguments) (callTo scope.linked handler callee arguments) := by
  cases callee with
  | method base name => exact callMethod_alike hhandler base name arguments
  | value value => exact call_alike hhandler value arguments
  | named name =>
      unfold callTo
      dsimp only
      split
      · exact callLoop_steady arguments
      · split
        · exact .getBind fun _ _ => .throw _
        · rw [lookup?_linked]
          refine (lookup?_steady name).bind fun found => ?_
          split
          · exact call_alike hhandler _ arguments
          · exact .throw _

/-! ## Arguments -/

/-- Arguments that are passed in the same way and evaluated alike. -/
abbrev ActionsAlike : List (Passing × Evaluation Value) → List (Passing × Evaluation Value) → Prop :=
  List.Forall₂ fun first second => first.1 = second.1 ∧ Alike first.2 second.2

theorem evaluateAll_alike {actions others : List (Passing × Evaluation Value)}
    (h : ActionsAlike actions others) : Alike (evaluateAll actions) (evaluateAll others) := by
  induction h with
  | nil => exact .pure []
  | cons haction _ ih =>
      rename_i first second _ _
      obtain ⟨passing, action⟩ := first
      obtain ⟨rfl, haction⟩ := haction
      exact haction.bind fun value => ih.bind fun values => .pure _

theorem resolveSpread_steady (argument : Passing × Value) : Steady (resolveSpread argument) := by
  unfold resolveSpread
  split
  · exact (resolve_steady _).bind fun _ => .pure _
  · exact (resolve_steady _).bind fun _ => .pure _
  · exact .pure _

theorem ActionsAlike.isEmpty_eq {actions others : List (Passing × Evaluation Value)}
    (h : ActionsAlike actions others) : actions.isEmpty = others.isEmpty := by
  cases h <;> rfl

theorem evaluateArguments_alike {actions others : List (Passing × Evaluation Value)}
    (h : ActionsAlike actions others) :
    Alike (evaluateArguments actions) (evaluateArguments others) := by
  have hsome (kept : Passing → Bool) :
      ActionsAlike (actions.filter fun action => kept action.1)
        (others.filter fun action => kept action.1) :=
    List.rel_filter (fun _ _ halike => by simp only [halike.1]) h
  have hnamed := hsome isNamed
  have hplaced := hsome fun passing => !isNamed passing
  unfold evaluateArguments
  simp only [List.partition_eq_filter_filter]
  refine (evaluateAll_alike hplaced).bind fun placed => ?_
  refine (Alike.mapM resolveSpread_steady).bind fun placed => ?_
  refine (evaluateAll_alike hnamed).bind fun given => ?_
  refine (Alike.mapM resolveSpread_steady).bind fun given => ?_
  refine (lift_steady _).bind fun named => (lift_steady _).bind fun positional => ?_
  rw [hnamed.isEmpty_eq]
  exact .pure _

end Evaluation

end RecordRecipe.Expr
