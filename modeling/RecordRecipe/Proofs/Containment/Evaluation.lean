import RecordRecipe.Expr.Eval
import RecordRecipe.Proofs.Containment.Filter

/-!
# Evaluations within rows

`Keeps rows P action` says that an evaluation that starts from a store within some rows ends in one,
also when it fails, and that what it gives satisfies `P`. The rules for sequences come first; the
operations on the store and the calls follow, each with the rule that its callers use.
-/

namespace RecordRecipe.Expr

open RecordRecipe.Random (Generator)

/-- The references in a frame lie within some rows. -/
structure Frame.Within (rows : RowRef → Prop) (frame : Frame) : Prop where
  locals : NamesWithin rows frame.locals
  loop : ∀ loop ∈ frame.loop, loop.state.Within rows

/-- The references that an evaluation can come to lie within some rows. -/
structure Store.Within (rows : RowRef → Prop) (store : Store) : Prop where
  frames : ∀ frame ∈ store.frames, frame.Within rows
  closures : ∀ names ∈ store.closures, NamesWithin rows names
  spaces : ∀ names ∈ store.spaces, NamesWithin rows names

/-- What an expression sees from outside lies within some rows. -/
structure Scope.Within (rows : RowRef → Prop) (scope : Scope) : Prop where
  values : ∀ name, ∀ value ∈ scope.valueOf? name, value.Within rows
  fields : scope.fieldOf.Within rows
  fake : scope.fake.Within rows
  functions : ∀ name, ∀ function ∈ scope.function? name, ∀ running arguments generator,
    arguments.Within rows →
      Gives (fun value => value.Within rows) (function running arguments generator).1

/-- A frame without variables is within any rows. -/
@[simp] theorem Frame.within_empty {rows : RowRef → Prop} {closure : Option Nat} :
    Frame.Within rows { closure } :=
  ⟨by simp [NamesWithin], by simp⟩

/-- The store in which an evaluation starts is within any rows. -/
theorem Store.within_start {rows : RowRef → Prop} {generator : Generator} :
    Store.Within rows { generator } :=
  ⟨by simp, by simp, by simp⟩

variable {rows : RowRef → Prop} {α β : Type}

/-- An evaluation stays within some rows, and what it gives satisfies a property. -/
def Keeps (rows : RowRef → Prop) (P : α → Prop) (action : Evaluation α) : Prop :=
  ∀ store : Store, store.Within rows →
    match action store with
    | .ok a store => P a ∧ store.Within rows
    | .error _ store => store.Within rows

namespace Keeps

variable {P : α → Prop} {Q : β → Prop}

theorem pure {a : α} (h : P a) : Keeps rows P (Pure.pure a) := fun _ hstore => ⟨h, hstore⟩

theorem throw {fault : Fault} : Keeps rows P (MonadExcept.throw fault : Evaluation α) :=
  fun _ hstore => hstore

theorem bind {action : Evaluation α} {next : α → Evaluation β} (haction : Keeps rows P action)
    (hnext : ∀ a, P a → Keeps rows Q (next a)) : Keeps rows Q (action >>= next) := by
  intro store hstore
  have h := haction store hstore
  change match EStateM.bind action next store with
    | .ok b store => Q b ∧ store.Within rows
    | .error _ store => store.Within rows
  unfold EStateM.bind
  cases hresult : action store with
  | ok a after =>
      simp only [hresult] at h
      exact hnext a h.1 after h.2
  | error fault after => simpa only [hresult] using h

theorem throwBind {fault : Fault} {next : α → Evaluation β} :
    Keeps rows Q (MonadExcept.throw fault >>= next) :=
  bind (P := fun _ => False) throw fun _ h => h.elim

theorem get : Keeps rows (fun store => store.Within rows) (MonadState.get : Evaluation Store) :=
  fun _ hstore => ⟨hstore, hstore⟩

theorem set {store : Store} (h : store.Within rows) :
    Keeps rows (fun _ => True) (MonadStateOf.set store : Evaluation PUnit) :=
  fun _ _ => ⟨trivial, h⟩

theorem change {f : Store → Store}
    (h : ∀ store : Store, store.Within rows → (f store).Within rows) :
    Keeps rows (fun _ => True) (modify f : Evaluation PUnit) :=
  fun store hstore => ⟨trivial, h store hstore⟩

/-- An evaluation whose fault is caught goes on within the rows. -/
theorem tryCatch {action : Evaluation α} {handle : Fault → Evaluation α}
    (haction : Keeps rows P action) (hhandle : ∀ fault, Keeps rows P (handle fault)) :
    Keeps rows P (MonadExcept.tryCatch action handle) := by
  intro store hstore
  have h := haction store hstore
  change match EStateM.tryCatch action handle store with
    | .ok a store => P a ∧ store.Within rows
    | .error _ store => store.Within rows
  unfold EStateM.tryCatch
  cases hresult : action store with
  | ok a after => simpa only [hresult] using h
  | error fault after =>
      simp only [hresult] at h
      exact hhandle fault after h

/-- Something done for every item keeps within the rows what it does so for each. -/
theorem mapM {items : List α} {f : α → Evaluation β} (h : ∀ a ∈ items, Keeps rows Q (f a)) :
    Keeps rows (fun results => ∀ b ∈ results, Q b) (items.mapM f) := by
  induction items with
  | nil =>
      rw [List.mapM_nil]
      exact .pure (by simp)
  | cons first rest ih =>
      rw [List.mapM_cons]
      refine (h first (by simp)).bind fun b hb => ?_
      refine (ih fun a ha => h a (by simp [ha])).bind fun results hresults => ?_
      exact .pure (List.forall_mem_cons.mpr ⟨hb, hresults⟩)

theorem forM {items : List α} {f : α → Evaluation PUnit}
    (h : ∀ a ∈ items, Keeps rows (fun _ => True) (f a)) :
    Keeps rows (fun _ => True) (items.forM f) := by
  induction items with
  | nil => exact .pure trivial
  | cons first rest ih =>
      exact (h first (by simp)).bind fun _ _ => ih fun a ha => h a (by simp [ha])

theorem optionForM {item : Option α} {f : α → Evaluation PUnit}
    (h : ∀ a ∈ item, Keeps rows (fun _ => True) (f a)) :
    Keeps rows (fun _ => True) (item.forM f) := by
  cases item with
  | none => exact .pure trivial
  | some a => exact h a rfl

end Keeps

namespace Evaluation

theorem lift_keeps {P : α → Prop} {result : Except Fault α} (h : Gives P result) :
    Keeps rows P (lift result) := by
  cases result with
  | ok a => exact .pure h
  | error fault => exact .throw

/-- Drawing random numbers touches nothing that holds references. -/
theorem draw_keeps {P : α → Prop} {drawing : Drawing α}
    (h : ∀ generator, Gives P (drawing generator).1) : Keeps rows P (draw drawing) := by
  unfold draw
  refine Keeps.get.bind fun store hstore => ?_
  have hgives := h store.generator
  refine (Keeps.set ?_).bind fun _ _ => lift_keeps hgives
  exact ⟨hstore.frames, hstore.closures, hstore.spaces⟩

theorem fakeValue?_keeps {scope : Scope} (hscope : scope.Within rows) (locale : Option String)
    (name : String) :
    Keeps rows (fun found => ∀ value ∈ found, value.Within rows)
      (fakeValue? scope locale name) := by
  refine draw_keeps fun generator => ?_
  rw [Gives.ok_iff]
  intro value hvalue
  obtain ⟨field, hfield, rfl⟩ := Option.map_eq_some_iff.mp hvalue
  exact Value.within_ofField.mpr (hscope.fake name locale generator field hfield)

/-- A variable in frames is within their rows. -/
theorem inFrames?_within {name : String} {frames : List Frame}
    (h : ∀ frame ∈ frames, frame.Within rows) :
    ∀ value ∈ inFrames? name frames, value.Within rows := by
  induction frames with
  | nil => simp [inFrames?]
  | cons frame rest ih =>
      intro value hvalue
      have hframe := h frame (by simp)
      have hrest := ih fun other hother => h other (by simp [hother])
      rw [inFrames?] at hvalue
      split at hvalue
      next found hfound =>
        obtain rfl : found = value := by simpa using hvalue
        exact hframe.locals.find? found hfound
      next loop _ hloop =>
        split at hvalue
        · obtain rfl : loop.state = value := by simpa using hvalue
          exact hframe.loop loop hloop
        · exact hrest value hvalue
      next => exact hrest value hvalue

/-- The variables of a numbered set are within the rows of all sets. -/
theorem getD_within {sets : List (Assoc Value)} (h : ∀ names ∈ sets, NamesWithin rows names)
    (number : Nat) : NamesWithin rows (sets.getD number []) := by
  rw [List.getD_eq_getElem?_getD]
  cases hfound : sets[number]? with
  | none => simp [NamesWithin]
  | some names => exact h names (List.mem_of_getElem? hfound)

/-- Setting a variable of a numbered set keeps all sets within rows. -/
theorem modify_within {sets : List (Assoc Value)} (h : ∀ names ∈ sets, NamesWithin rows names)
    (number : Nat) (name : String) {value : Value} (hvalue : value.Within rows) :
    ∀ names ∈ sets.modify number (Assoc.put name value), NamesWithin rows names := by
  intro names hnames
  obtain ⟨position, hposition⟩ := List.mem_iff_getElem?.mp hnames
  rw [List.getElem?_modify] at hposition
  obtain ⟨before, hbefore, rfl⟩ := Option.map_eq_some_iff.mp hposition
  have hwithin := h before (List.mem_of_getElem? hbefore)
  split
  · exact hwithin.put hvalue
  · exact hwithin

theorem lookup?_keeps {scope : Scope} (hscope : scope.Within rows) (name : String) :
    Keeps rows (fun found => ∀ value ∈ found, value.Within rows) (lookup? scope name) := by
  refine Keeps.get.bind fun store hstore => .pure ?_
  intro value hvalue
  simp only [Option.mem_def, Option.orElse_eq_orElse, Option.orElse_eq_or,
    Option.or_eq_some_iff] at hvalue
  obtain hvalue | ⟨_, hvalue⟩ := hvalue
  · exact inFrames?_within hstore.frames value hvalue
  · obtain (hvalue | ⟨_, hvalue⟩) | ⟨_, hvalue⟩ := hvalue
    · obtain ⟨number, _, hvalue⟩ := Option.bind_eq_some_iff.mp hvalue
      exact (getD_within hstore.closures number).find? value hvalue
    · exact hscope.values name value hvalue
    · split at hvalue
      · obtain rfl : Value.function name = value := by simpa using hvalue
        exact .function name
      · simp at hvalue

theorem resolve_keeps {value : Value} (h : value.Within rows) :
    Keeps rows (fun value => value.Within rows) (resolve value) := by
  unfold resolve
  split
  · refine Keeps.get.bind fun store hstore => .pure ?_
    exact Value.mapOf_within (Value.entries_within_of_names (getD_within hstore.spaces _))
  · exact .pure h

theorem resolveAll_keeps {arguments : Arguments} (h : arguments.Within rows) :
    Keeps rows (fun arguments => arguments.Within rows) (resolveAll arguments) := by
  unfold resolveAll
  refine (Keeps.mapM fun value hvalue => resolve_keeps (h.positional value hvalue)).bind
    fun positional hpositional => ?_
  refine (Keeps.mapM (Q := fun entry : String × Value => entry.2.Within rows)
    fun entry hentry => ?_).bind fun named hnamed => .pure ⟨hpositional, hnamed⟩
  exact (resolve_keeps (h.named entry hentry)).bind fun value hvalue => .pure hvalue

theorem holds_keeps {value : Value} (h : value.Within rows) :
    Keeps rows (fun _ => True) (holds value) := by
  refine (resolve_keeps h).bind fun found _ => ?_
  split
  · exact .throw
  · exact .pure trivial

theorem attribute?_keeps {scope : Scope} (hscope : scope.Within rows) {value : Value}
    (h : value.Within rows) (name : String) :
    Keeps rows (fun found => ∀ value ∈ found, value.Within rows)
      (attribute? scope value name) := by
  refine (resolve_keeps h).bind fun found hfound => ?_
  split
  · exact fakeValue?_keeps hscope _ _
  · exact .pure (Value.attribute?_within hscope.fields hfound name)

theorem subscript?_keeps {scope : Scope} (hscope : scope.Within rows) {value : Value}
    (h : value.Within rows) (index : Value) :
    Keeps rows (fun found => ∀ value ∈ found, value.Within rows)
      (subscript? scope value index) := by
  refine (resolve_keeps h).bind fun found hfound => ?_
  split
  · exact fakeValue?_keeps hscope _ _
  · exact .pure (Value.subscript?_within hscope.fields hfound index)

theorem orMissing_keeps {base : Value} {found : Option Value}
    (h : ∀ value ∈ found, value.Within rows) :
    Keeps rows (fun value => value.Within rows) (orMissing base found) := by
  unfold orMissing
  split
  next value => exact .pure (h value rfl)
  next =>
    split
    · exact .throw
    · exact .pure Value.within_missing

theorem contains_keeps {scope : Scope} (hscope : scope.Within rows) {container : Value}
    (h : container.Within rows) (item : Value) :
    Keeps rows (fun _ => True) (contains scope container item) := by
  unfold contains
  split
  all_goals first
    | exact (attribute?_keeps hscope h _).bind fun _ _ => .pure trivial
    | exact lift_keeps (Gives.of_forall fun _ => trivial)

theorem compare_keeps {scope : Scope} (hscope : scope.Within rows) {a b : Value}
    (ha : a.Within rows) (hb : b.Within rows) (comparison : Comparison) :
    Keeps rows (fun _ => True) (compare scope comparison a b) := by
  unfold compare
  refine (lift_keeps (P := fun _ => True) (Gives.of_forall fun _ => trivial)).bind fun _ _ => ?_
  refine (resolve_keeps ha).bind fun a ha => (resolve_keeps hb).bind fun b hb => ?_
  split
  · exact contains_keeps hscope hb a
  · exact (contains_keeps hscope hb a).bind fun _ _ => .pure trivial
  · exact .pure trivial

theorem runningLoop?_keeps : Keeps rows (fun _ => True) runningLoop? :=
  Keeps.get.bind fun _ _ => .pure trivial

theorem capture_keeps {body : Evaluation Unit} (h : Keeps rows (fun _ => True) body) :
    Keeps rows (fun _ => True) (capture body) := by
  have hout (out : String) :
      Keeps rows (fun _ => True) (modify ({ · with out := out }) : Evaluation PUnit) :=
    .change fun store hstore => ⟨hstore.frames, hstore.closures, hstore.spaces⟩
  unfold capture
  refine Keeps.get.bind fun before _ => (hout _).bind fun _ _ => h.bind fun _ _ => ?_
  exact Keeps.get.bind fun after _ => (hout _).bind fun _ _ => .pure trivial

end Evaluation

end RecordRecipe.Expr
