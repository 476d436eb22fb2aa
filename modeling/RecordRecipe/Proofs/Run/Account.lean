import RecordRecipe.Proofs.Recipe.Parts
import RecordRecipe.Proofs.Run.Written

/-!
# Runs with an account of what is stored

`Recipe.account` carries a recipe out with any sink that writes in the usual way and keeps account
of two things: which template has made every row that is handed over, with the values to which its
fields have been rendered, and what the sink has been given to store, with its answers.
`generate_eq_account` says that keeping account changes nothing. `Running.Accounts` says of a part
of a run that it keeps the account balanced; its rules follow the ways in which parts are put
together.
-/

namespace RecordRecipe

variable {σ α β : Type}

/-- A row that a template makes, and the values to which its fields have been rendered so far. -/
structure Making where
  template : Template
  rendered : List (String × FieldValue)

/-- A row that a sink is given to store, and its answer. -/
structure Storing where
  table : String
  row : EncodedRow
  answer : Except Error Unit

/-- The state of a sink and the account of a run. -/
structure Accounted (σ : Type) where
  out : σ
  /-- The rows that the templates in use are making, the innermost first. -/
  uses : List Making := []
  /-- The tables that the sink has been told. -/
  declared : List Tables := []
  /-- The rows that have been handed over, in order. -/
  handed : List Making := []
  /-- The rows that the sink has been given to store, in order. -/
  stored : List Storing := []

namespace Accounted

/-- The rows that are being made behind a moment. -/
def follow (uses : List Making) : Moment → List Making
  | .entered template => ⟨template, []⟩ :: uses
  | .started _ => uses.modifyHead fun making => { making with rendered := [] }
  | .closed _ field value => uses.modifyHead fun making =>
      { making with rendered := making.rendered ++ [(field, value)] }
  | .left => uses.tail
  | .rendering _ | .rendered _ | .failed _ _ | .opened _ _ => uses

/-- Note what a moment means for the rows that are being made. -/
def note (moment : Moment) (account : Accounted σ) : Accounted σ :=
  { account with uses := follow account.uses moment }

/-- Note that the row of the innermost template is handed over. -/
def noteHanded (account : Accounted σ) : Accounted σ :=
  { account with handed := account.handed ++ account.uses.head?.toList }

/-- Do something with the state of a sink that the account does not mention. -/
def besides (action : Action σ Unit) : Action (Accounted σ) Unit :=
  Action.onPart Accounted.out (fun out account => { account with out }) action

end Accounted

/-- The sink over its state with an account, which tells what it is given to store. -/
def Sink.accounted (sink : Sink σ) : Sink (Accounted σ) where
  name := sink.name
  encoders := sink.encoders
  declare := fun tables => do
    Action.modify fun account => { account with declared := account.declared ++ [tables] }
    Accounted.besides (sink.declare tables)
  counter? := fun account => sink.counter? account.out
  setCounter := fun counter account => { account with out := sink.setCounter counter account.out }
  store := fun table row account =>
    let (answer, out) := sink.store table row account.out
    (answer, { account with out, stored := account.stored ++ [⟨table, row, answer⟩] })
  flush := Accounted.besides sink.flush
  commit := Accounted.besides sink.commit
  close := Accounted.besides sink.close

/-- The desk of a sink at which account is kept. -/
def Sink.accountingDesk (sink : Sink σ) : Desk (Accounted σ) where
  note := fun moment => Running.onOut (Action.modify (Accounted.note moment))
  hand := fun _ row => do
    Running.onOut (Action.modify Accounted.noteHanded)
    Running.write sink.accounted row

/-- Carry out a recipe with a sink and keep account. -/
def Recipe.account (recipe : Recipe) (request : Request) (sink : Sink σ) (out : σ) :
    Except Error Summary × Machine (Accounted σ) :=
  recipe.carryOut request sink.accounted sink.accountingDesk (request.start { out })

/-- A row is written as it is without an account. -/
theorem Sink.accounted_mirrors {sink : Sink σ} (h : sink.Usual) (row : Row) :
    Action.Mirrors Accounted.out (sink.write row) (sink.accounted.write row) := by
  have haccounted : sink.accounted.Usual := rfl
  exact h.mirrors haccounted rfl rfl (fun _ => rfl) (fun _ _ => rfl) (fun _ _ _ => rfl)
    (fun _ => rfl) (fun _ => rfl) row

/-- A run ends as it does when account of it is kept. -/
theorem generate_eq_account (recipe : Recipe) (request : Request) {sink : Sink σ}
    (h : sink.Usual) (out : σ) :
    recipe.generate request sink out =
      ((recipe.account request sink out).1, (recipe.account request sink out).2.out.out) := by
  refine Recipe.generate_mirrors Accounted.out ?_ ?_ ?_ ?_ recipe request { out }
  · exact fun _ _ => rfl
  · exact fun _ row machine => Action.Mirrors.write (Sink.accounted_mirrors h) row
      { machine with out := machine.out.noteHanded }
  · exact fun _ _ => rfl
  · exact fun _ => rfl

/-- What is stored is the row that has been made: all fields of a template of the recipe have been
rendered, and the row is encoded with the last value under each name. -/
structure Storing.Records (recipe : Recipe) (sink : Sink σ) (making : Making)
    (storing : Storing) : Prop where
  part : recipe.Has making.template
  names : making.rendered.map Prod.fst = making.template.fields.map Field.name
  table : storing.table = making.template.table
  row : ∃ id, Row.encode sink.name sink.encoders
    ⟨storing.table, id, Assoc.ofList making.rendered⟩ = .ok storing.row

/-- What is known of a sink and of what it has been given to store stays true whatever it is told
next. -/
structure Sink.Upholds (sink : Sink σ) (recipe : Recipe) (holds : List Storing → σ → Prop) :
    Prop where
  store : ∀ {stored out making} {table : String} {row : EncodedRow}, holds stored out →
    Storing.Records recipe sink making ⟨table, row, (sink.store table row out).1⟩ →
      holds (stored ++ [⟨table, row, (sink.store table row out).1⟩]) (sink.store table row out).2
  setCounter : ∀ {stored out} (counter : BatchCounter), holds stored out →
    holds stored (sink.setCounter counter out)
  flush : ∀ {stored out}, holds stored out → holds stored (sink.flush out).2
  commit : ∀ {stored out}, holds stored out → holds stored (sink.commit out).2

section

variable (recipe : Recipe) (sink : Sink σ) (holds : List Storing → σ → Prop)

/-- The sink has been told the tables of the recipe, and every row that has been handed over has
been stored. -/
structure Accounted.Balanced (account : Accounted σ) : Prop where
  declared : account.declared = [recipe.tables]
  stored : List.Forall₂ (Storing.Records recipe sink) account.handed account.stored
  holds : holds account.stored account.out

/-- The sink has been told the tables of the recipe, and every row that has been handed over has
been stored, except maybe the last one. -/
structure Accounted.Halted (account : Accounted σ) : Prop where
  declared : account.declared = [recipe.tables]
  stored : ∃ handed pending, account.handed = handed ++ pending ∧ pending.length ≤ 1 ∧
    List.Forall₂ (Storing.Records recipe sink) handed account.stored
  holds : holds account.stored account.out

/-- The account is balanced, some rows are being made, and rows have the fields that are kept. -/
structure Machine.Stands (uses : List Making) (kept : List (RowRef × Assoc FieldValue))
    (machine : Machine (Accounted σ)) : Prop where
  balanced : machine.out.Balanced recipe sink holds
  uses : machine.out.uses = uses
  kept : ∀ entry ∈ kept,
    machine.registry.Made entry.1 ∧ machine.registry.fieldsOf entry.1 = entry.2

/-- A part of a run has come to a state as is said, or has failed with an account that has
halted. -/
inductive Accounted.Ends (after : α → Machine (Accounted σ) → Prop) :
    Except Error α × Machine (Accounted σ) → Prop where
  | ok (a : α) (machine : Machine (Accounted σ)) (h : after a machine) :
      Ends after (.ok a, machine)
  | error (error : Error) (machine : Machine (Accounted σ))
      (h : machine.out.Halted recipe sink holds) : Ends after (.error error, machine)

/-- From a state as is said first, a part of a run comes to one as is said then, or fails with an
account that has halted. -/
def Running.Accounts (before : Machine (Accounted σ) → Prop) (part : Running (Accounted σ) α)
    (after : α → Machine (Accounted σ) → Prop) : Prop :=
  ∀ machine, before machine → Accounted.Ends recipe sink holds after (part machine)

end

variable {recipe : Recipe} {sink : Sink σ} {holds : List Storing → σ → Prop}

/-- An account that is balanced may halt. -/
theorem Accounted.Balanced.halted {account : Accounted σ} (h : account.Balanced recipe sink holds) :
    account.Halted recipe sink holds :=
  ⟨h.declared, ⟨account.handed, [], by simp, by simp, h.stored⟩, h.holds⟩

namespace Running.Accounts

variable {before : Machine (Accounted σ) → Prop} {middle after : α → Machine (Accounted σ) → Prop}
  {last : β → Machine (Accounted σ) → Prop} {part : Running (Accounted σ) α}

/-- What cannot fail. -/
theorem quiet (h : ∀ machine, before machine →
    ∃ a next, part machine = (.ok a, next) ∧ after a next) :
    Accounts recipe sink holds before part after := by
  intro machine hbefore
  obtain ⟨a, next, hpart, hafter⟩ := h machine hbefore
  rw [hpart]
  exact .ok a next hafter

theorem pure {a : α} (h : ∀ machine, before machine → after a machine) :
    Accounts recipe sink holds before (Pure.pure a) after :=
  quiet fun machine hbefore => ⟨a, machine, rfl, h machine hbefore⟩

/-- A sequence goes on where its first part has come to. -/
theorem bind {next : α → Running (Accounted σ) β}
    (hpart : Accounts recipe sink holds before part middle)
    (hnext : ∀ a, Accounts recipe sink holds (middle a) (next a) last) :
    Accounts recipe sink holds before (part >>= next) last := by
  intro machine hbefore
  have hends := hpart machine hbefore
  rw [Action.bind_apply]
  generalize part machine = run at hends
  cases hends with
  | ok a state hmiddle => exact hnext a state hmiddle
  | error error state hhalted => exact .error error state hhalted

/-- A frame for errors changes nothing about the account. -/
theorem mapError (h : Accounts recipe sink holds before part after) (frame : Error → Error) :
    Accounts recipe sink holds before (part.mapError frame) after := by
  intro machine hbefore
  have hends := h machine hbefore
  unfold Action.mapError
  generalize part machine = run at hends
  cases hends with
  | ok a state hafter => exact .ok a state hafter
  | error error state hhalted => exact .error (frame error) state hhalted

/-- Less is said of what a part of a run comes to. -/
theorem imp (h : Accounts recipe sink holds before part middle)
    (hafter : ∀ a machine, middle a machine → after a machine) :
    Accounts recipe sink holds before part after := by
  intro machine hbefore
  have hends := h machine hbefore
  generalize part machine = run at hends
  cases hends with
  | ok a state hmiddle => exact .ok a state (hafter a state hmiddle)
  | error error state hhalted => exact .error error state hhalted

/-- More is known of where a part of a run begins. -/
theorem above {earlier : Machine (Accounted σ) → Prop}
    (h : Accounts recipe sink holds before part after)
    (hbefore : ∀ machine, earlier machine → before machine) :
    Accounts recipe sink holds earlier part after :=
  fun machine hearlier => h machine (hbefore machine hearlier)

/-- What is known of the start of a part of a run for some choice is known for any. -/
theorem exists_before {ι : Type} {given : ι → Machine (Accounted σ) → Prop}
    (h : ∀ i, Accounts recipe sink holds (given i) part after) :
    Accounts recipe sink holds (fun machine => ∃ i, given i machine) part after := by
  rintro machine ⟨i, hgiven⟩
  exact h i machine hgiven

end Running.Accounts

/-! ## Writing a row -/

namespace Accounted

/-- Something is done that leaves an account as it is, as far as is said of it. -/
def Steady (P : Accounted σ → Prop) (action : Action (Accounted σ) α) : Prop :=
  ∀ account, P account → P (action account).2

theorem Steady.bind {P : Accounted σ → Prop} {first : Action (Accounted σ) α}
    {next : α → Action (Accounted σ) β} (hfirst : Steady P first) (hnext : ∀ a, Steady P (next a)) :
    Steady P (first >>= next) := by
  intro account haccount
  have hmiddle := hfirst account haccount
  rw [Action.bind_apply]
  generalize first account = run at hmiddle ⊢
  obtain ⟨result, middle⟩ := run
  cases result with
  | ok a => exact hnext a middle hmiddle
  | error error => exact hmiddle

theorem Steady.when {P : Accounted σ → Prop} {action : Action (Accounted σ) Unit}
    (h : Steady P action) (due : Bool) : Steady P (Action.when due action) := by
  cases due with
  | true => exact h
  | false => exact fun _ haccount => haccount

/-- The account is balanced, and some rows are being made. -/
def BalancedIn (recipe : Recipe) (sink : Sink σ) (holds : List Storing → σ → Prop)
    (uses : List Making) (account : Accounted σ) : Prop :=
  account.Balanced recipe sink holds ∧ account.uses = uses

variable {uses : List Making}

theorem steady_besides {action : Action σ Unit}
    (h : ∀ {stored out}, holds stored out → holds stored (action out).2) :
    Steady (BalancedIn recipe sink holds uses) (besides action) :=
  fun _ haccount =>
    ⟨⟨haccount.1.declared, haccount.1.stored, h haccount.1.holds⟩, haccount.2⟩

/-- Counting a row leaves the account balanced. -/
theorem steady_countRow (hsink : sink.Upholds recipe holds) :
    Steady (BalancedIn recipe sink holds uses) sink.accounted.countRow := by
  unfold Sink.countRow
  refine Steady.bind (fun _ haccount => haccount) fun account => ?_
  cases sink.accounted.counter? account with
  | none => exact fun _ haccount => haccount
  | some counter =>
      refine Steady.bind (fun _ haccount => ?_) fun _ =>
        Steady.bind (Steady.when (steady_besides hsink.flush) _) fun _ =>
          Steady.when (steady_besides hsink.commit) _
      exact ⟨⟨haccount.1.declared, haccount.1.stored,
        hsink.setCounter counter.record haccount.1.holds⟩, haccount.2⟩

/-- A row has been written and the account is balanced, or that has failed and the account has
halted. -/
inductive Written (recipe : Recipe) (sink : Sink σ) (holds : List Storing → σ → Prop)
    (uses : List Making) : Except Error Unit × Accounted σ → Prop where
  | ok (account : Accounted σ) (h : BalancedIn recipe sink holds uses account) :
      Written recipe sink holds uses (.ok (), account)
  | error (error : Error) (account : Accounted σ) (h : account.Halted recipe sink holds) :
      Written recipe sink holds uses (.error error, account)

/-- What leaves the account balanced does so however it ends. -/
theorem Written.of_steady {action : Action (Accounted σ) Unit}
    (h : Steady (BalancedIn recipe sink holds uses) action) {account : Accounted σ}
    (haccount : BalancedIn recipe sink holds uses account) :
    Written recipe sink holds uses (action account) := by
  have hlast := h account haccount
  generalize action account = run at hlast
  obtain ⟨answer, last⟩ := run
  cases answer with
  | ok done => exact .ok last hlast
  | error error => exact .error error last hlast.1.halted

/-- A row that has been handed over is stored as it has been made, or the account halts before
it. -/
theorem write_ends (hsink : sink.Upholds recipe holds) {account : Accounted σ} {making : Making}
    {handed : List Making} (hdeclared : account.declared = [recipe.tables])
    (hhanded : account.handed = handed ++ [making])
    (hstored : List.Forall₂ (Storing.Records recipe sink) handed account.stored)
    (hholds : holds account.stored account.out) (huses : account.uses = uses)
    (hpart : recipe.Has making.template)
    (hnames : making.rendered.map Prod.fst = making.template.fields.map Field.name) (id : Nat) :
    Written recipe sink holds uses (sink.accounted.write
      ⟨making.template.table, id, Assoc.ofList making.rendered⟩ account) := by
  have haccounted : sink.accounted.Usual := rfl
  have hname : sink.accounted.name = sink.name := rfl
  have hencoders : sink.accounted.encoders = sink.encoders := rfl
  rw [haccounted.write_eq, Action.bind_apply, Action.lift_apply, hname, hencoders]
  cases hencode : Row.encode sink.name sink.encoders
      ⟨making.template.table, id, Assoc.ofList making.rendered⟩ with
  | error error =>
      exact .error error account
        ⟨hdeclared, ⟨handed, [making], hhanded, by simp, hstored⟩, hholds⟩
  | ok encoded =>
      dsimp only
      have hrecords : Storing.Records recipe sink making ⟨making.template.table, encoded,
          (sink.store making.template.table encoded account.out).1⟩ :=
        ⟨hpart, hnames, rfl, id, hencode⟩
      have hbalanced : BalancedIn recipe sink holds uses
          (sink.accounted.store making.template.table encoded account).2 := by
        refine ⟨⟨hdeclared, ?_, hsink.store hholds hrecords⟩, huses⟩
        change List.Forall₂ _ account.handed _
        rw [hhanded]
        exact List.rel_append hstored (.cons hrecords .nil)
      rw [Action.bind_apply]
      generalize sink.accounted.store making.template.table encoded account = run at hbalanced ⊢
      obtain ⟨answer, stored⟩ := run
      cases answer with
      | error error => exact .error error stored hbalanced.1.halted
      | ok done => exact .of_steady (steady_countRow hsink) hbalanced

end Accounted

end RecordRecipe
