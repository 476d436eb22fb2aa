import RecordRecipe.Proofs.Run.Log

/-!
# The steps of a run

A run with a log goes on in steps: random numbers are drawn, a row is put on a bench, a field of the
row on the last bench is set, that row is handed over, a row that has been handed over is left, the
sink is flushed. `Recipe.observe_steps` says that every run is a chain of such steps, and that a run
that fails does so behind such a chain or while the sink does its part. Whatever every step keeps,
every run keeps: that is `Steps.keep`.
-/

namespace RecordRecipe

open RecordRecipe.Random (Generator)

variable {σ : Type}

/-- A row that has been started and not yet left. Its friends are made after it is handed over. -/
structure Bench where
  row : RowRef
  handed : Bool

/-- The rows on benches, the one started last first. -/
def benchRows (benches : List Bench) : List RowRef := benches.map Bench.row

@[simp] theorem benchRows_nil : benchRows [] = [] := rfl

@[simp] theorem benchRows_cons {bench : Bench} {benches : List Bench} :
    benchRows (bench :: benches) = bench.row :: benchRows benches := rfl

/-- The rows that some activations are about stand on benches. -/
def benchesOf (frames : List Frame) : List Bench :=
  frames.filterMap fun frame => frame.activation.row.map (Bench.mk · frame.handed)

/-- Every activation is surrounded by the rows of the one around it. -/
def Nested : List Frame → Prop
  | [] => True
  | frame :: frames => frame.activation.enclosing = rowsOf frames ∧ Nested frames

/-- The rows around what is made next are those on benches. -/
theorem Nested.rowsOf_eq : {frames : List Frame} → Nested frames →
    rowsOf frames = benchRows (benchesOf frames)
  | [], _ => rfl
  | ⟨⟨_, _, row, _, enclosing⟩, _⟩ :: frames, h => by
      obtain ⟨rfl, hnested⟩ : enclosing = rowsOf frames ∧ Nested frames := h
      cases row with
      | none => exact hnested.rowsOf_eq
      | some row => exact congrArg (row :: ·) hnested.rowsOf_eq

/-- The rows that may be referenced: those given from outside, and those that have been started. -/
def Machine.Known (given : RowRef → Prop) (machine : Machine (Logged σ)) (row : RowRef) : Prop :=
  given row ∨ row ∈ machine.out.started

namespace Machine

/-- The state after a row of a table has been started and logged. -/
def begin (table : String) (nickname : Option String) (machine : Machine (Logged σ)) :
    Machine (Logged σ) where
  registry := (machine.registry.startRow table nickname).2
  out := { machine.out with
    started := machine.out.started ++ [(machine.registry.startRow table nickname).1] }

/-- The state after a row has been logged and written. -/
def handOver (activation : Activation) (row : RowRef) (out : σ) (machine : Machine (Logged σ)) :
    Machine (Logged σ) where
  registry := machine.registry.noteReferences row
  out := { machine.out with
    out := out
    handed := machine.out.handed ++ [⟨activation, row, machine.registry.fieldsOf row⟩] }

/-- The state with another state of the sink. -/
def withOut (out : σ) (machine : Machine (Logged σ)) : Machine (Logged σ) :=
  { machine with out := { machine.out with out } }

/-- The row as the sink receives it. -/
def rowOf (row : RowRef) (machine : Machine (Logged σ)) : Row :=
  ⟨row.table, row.id, machine.registry.fieldsOf row⟩

end Machine

/-- How far a run has come. -/
structure Progress (σ : Type) where
  /-- The rows on benches, the one started last first. -/
  benches : List Bench
  machine : Machine (Logged σ)

/-- A step of a run with a sink. -/
inductive Step (sink : Sink σ) (rules : Rules) (given : RowRef → Prop) :
    Progress σ → Progress σ → Prop where
  | draw (benches : List Bench) (machine : Machine (Logged σ)) (generator : Generator) :
      Step sink rules given ⟨benches, machine⟩ ⟨benches, machine.withGenerator generator⟩
  | begin (benches : List Bench) (machine : Machine (Logged σ)) (table : String)
      (nickname : Option String) (htable : rules.table table) :
      Step sink rules given ⟨benches, machine⟩
        ⟨⟨(machine.registry.startRow table nickname).1, false⟩ :: benches,
          machine.begin table nickname⟩
  | setField (benches : List Bench) (machine : Machine (Logged σ)) (row : RowRef) (name : String)
      (value : FieldValue) (hfield : rules.field row.table name)
      (hvalue : value.Within (machine.Known given)) :
      Step sink rules given ⟨⟨row, false⟩ :: benches, machine⟩
        ⟨⟨row, false⟩ :: benches, machine.setField row name value⟩
  | handOver (benches : List Bench) (machine : Machine (Logged σ)) (row : RowRef)
      (activation : Activation) (out : σ) (hrow : activation.row = some row)
      (henclosing : activation.enclosing = benchRows benches)
      (hwrite : sink.write (machine.rowOf row) machine.out.out = (.ok (), out)) :
      Step sink rules given ⟨⟨row, false⟩ :: benches, machine⟩
        ⟨⟨row, true⟩ :: benches, machine.handOver activation row out⟩
  | leave (benches : List Bench) (machine : Machine (Logged σ)) (row : RowRef) :
      Step sink rules given ⟨⟨row, true⟩ :: benches, machine⟩ ⟨benches, machine⟩
  | flush (benches : List Bench) (machine : Machine (Logged σ)) (out : σ)
      (hflush : sink.flush machine.out.out = (.ok (), out)) :
      Step sink rules given ⟨benches, machine⟩ ⟨benches, machine.withOut out⟩

/-- A sink fails while it takes a row or is flushed. -/
inductive Break (sink : Sink σ) : Progress σ → Progress σ → Prop where
  | handOver (benches : List Bench) (machine : Machine (Logged σ)) (row : RowRef)
      (activation : Activation) (out : σ) (error : Error) (hrow : activation.row = some row)
      (henclosing : activation.enclosing = benchRows benches)
      (hwrite : sink.write (machine.rowOf row) machine.out.out = (.error error, out)) :
      Break sink ⟨⟨row, false⟩ :: benches, machine⟩
        ⟨⟨row, true⟩ :: benches, machine.handOver activation row out⟩
  | flush (benches : List Bench) (machine : Machine (Logged σ)) (out : σ) (error : Error)
      (hflush : sink.flush machine.out.out = (.error error, out)) :
      Break sink ⟨benches, machine⟩ ⟨benches, machine.withOut out⟩

/-- Steps one after the other. -/
inductive Steps (sink : Sink σ) (rules : Rules) (given : RowRef → Prop) (start : Progress σ) :
    Progress σ → Prop where
  | refl : Steps sink rules given start start
  | tail {middle finish : Progress σ} (hsteps : Steps sink rules given start middle)
      (hstep : Step sink rules given middle finish) : Steps sink rules given start finish

/-- A run has got somewhere, or its sink has failed right behind that. -/
inductive Reaches (sink : Sink σ) (rules : Rules) (given : RowRef → Prop) (start : Progress σ) :
    Progress σ → Prop where
  | steps {finish : Progress σ} (hsteps : Steps sink rules given start finish) :
      Reaches sink rules given start finish
  | broken {middle finish : Progress σ} (hsteps : Steps sink rules given start middle)
      (hbreak : Break sink middle finish) : Reaches sink rules given start finish

variable {sink : Sink σ} {rules : Rules} {given : RowRef → Prop} {start finish : Progress σ}

/-- Whatever every step keeps, every chain of steps keeps. -/
theorem Steps.keep {I : Progress σ → Prop} (hsteps : Steps sink rules given start finish)
    (hstart : I start)
    (hstep : ∀ {before after}, Step sink rules given before after → I before → I after) :
    I finish := by
  induction hsteps with
  | refl => exact hstart
  | tail _ h ih => exact hstep h ih

/-- Whatever every step and every failure of the sink keeps, every run keeps. -/
theorem Reaches.keep {I : Progress σ → Prop} (h : Reaches sink rules given start finish)
    (hstart : I start)
    (hstep : ∀ {before after}, Step sink rules given before after → I before → I after)
    (hbreak : ∀ {before after}, Break sink before after → I before → I after) : I finish := by
  cases h with
  | steps hsteps => exact hsteps.keep hstart hstep
  | broken hsteps hlast => exact hbreak hlast (hsteps.keep hstart hstep)

/-- A run that has got nowhere yet. -/
def Progress.first (generator : Generator) (out : σ) : Progress σ :=
  ⟨[], { registry := { generator }, out := { out } }⟩

/-- A sink gets from one state to another by taking rows, and now and then by being flushed. -/
inductive Sink.Takes (sink : Sink σ) : List Row → σ → σ → Prop where
  | none (out : σ) : Takes sink [] out out
  | write {rows : List Row} {out middle last : σ} {row : Row} (hbefore : Takes sink rows out middle)
      (hwrite : sink.write row middle = (.ok (), last)) : Takes sink (rows ++ [row]) out last
  | flush {rows : List Row} {out middle last : σ} (hbefore : Takes sink rows out middle)
      (hflush : sink.flush middle = (.ok (), last)) : Takes sink rows out last

/-- The sink has taken the rows of the log, and nothing else has been done with it. -/
theorem Steps.takes {generator : Generator} {out : σ}
    (hsteps : Steps sink rules given (Progress.first generator out) finish) :
    sink.Takes (finish.machine.out.handed.map Handing.written) out finish.machine.out.out := by
  refine hsteps.keep (I := fun progress =>
    sink.Takes (progress.machine.out.handed.map Handing.written) out progress.machine.out.out)
    (.none out) fun hstep h => ?_
  cases hstep with
  | handOver benches machine row activation last _ _ hwrite =>
      rw [Machine.handOver, List.map_append]
      exact .write h hwrite
  | flush benches machine last hflush => exact .flush h hflush
  | draw | begin | setField | leave => exact h

/-- What can be found in a run, and the references in its rows, lie within the known rows. -/
structure Progress.Within (given : RowRef → Prop) (progress : Progress σ) : Prop where
  registry : progress.machine.registry.Within (progress.machine.Known given)
  benches : ∀ row ∈ benchRows progress.benches, progress.machine.Known given row

/-- Every step keeps to the known rows. -/
theorem Step.within {before after : Progress σ} (hstep : Step sink rules given before after)
    (h : before.Within given) : after.Within given := by
  cases hstep with
  | draw benches machine generator =>
      exact ⟨⟨h.registry.nicknames, h.registry.latest, h.registry.fields⟩, h.benches⟩
  | begin benches machine table nickname _ =>
      have hgrows : ∀ row, machine.Known given row →
          (machine.begin table nickname).Known given row :=
        fun row hrow => hrow.imp_right (List.mem_append_left _)
      have hnew : (machine.begin table nickname).Known given
          (machine.registry.startRow table nickname).1 := .inr (by simp [Machine.begin])
      refine ⟨(h.registry.mono hgrows).startRow hnew, ?_⟩
      exact List.forall_mem_cons.mpr ⟨hnew, fun row hrow => hgrows row (h.benches row hrow)⟩
  | setField benches machine row name value _ hvalue =>
      exact ⟨h.registry.setField hvalue, h.benches⟩
  | handOver benches machine row activation out _ _ _ =>
      exact ⟨⟨h.registry.nicknames, h.registry.latest, h.registry.fields⟩, h.benches⟩
  | leave benches machine row =>
      exact ⟨h.registry, fun row hrow => h.benches row (List.mem_cons_of_mem _ hrow)⟩
  | flush benches machine out _ => exact ⟨h.registry, h.benches⟩

/-- A run that has got nowhere yet keeps to the known rows. -/
theorem Progress.first_within (generator : Generator) (out : σ) :
    (Progress.first generator out).Within given :=
  ⟨⟨by simp [first], by simp [first], by simp [first]⟩, by simp [first]⟩

namespace Simulation

/-- A run with a log as a chain of steps from some start. -/
def ofSteps (setting : Setting) (sink : Sink σ) (rules : Rules) (given : RowRef → Prop)
    (start : Progress σ) : Simulation (Logged σ) (Logged σ) where
  rules := rules
  setting := setting
  left := sink.loggingDesk
  right := sink.loggingDesk
  rel := fun frames machine other =>
    machine = other ∧ Nested frames ∧ Steps sink rules given start ⟨benchesOf frames, machine⟩
  known := fun machine => machine.Known given
  broken := fun machine other =>
    machine = other ∧ ∃ benches, Reaches sink rules given start ⟨benches, machine⟩

section

variable {setting : Setting} {sink : Sink σ} {rules : Rules} {given : RowRef → Prop}
  {start : Progress σ}

/-- A chain of steps keeps to the known rows. -/
theorem steps_within (hstart : start.Within given) {finish : Progress σ}
    (hsteps : Steps sink rules given start finish) : finish.Within given :=
  hsteps.keep hstart fun hstep h => hstep.within h

/-- The elementary steps of a run are steps. -/
theorem ofSteps_lawful (hstart : start.Within given) (hsetting : setting.Within given)
    (hliteral : ∀ value, rules.literal value → value.Within given) :
    (ofSteps setting sink rules given start).Lawful where
  patient := .of_never fun _ _ hahead => hahead
  registry_eq := fun hrel => congrArg Machine.registry hrel.1
  registry_within := fun hrel => (steps_within hstart hrel.2.2).registry
  surrounded := by
    rintro frames machine _ ⟨rfl, hnested, hsteps⟩
    refine ⟨hsetting.mono fun _ hrow => .inl hrow,
      fun value hvalue => (hliteral value hvalue).mono fun _ hrow => .inl hrow, ?_⟩
    rw [hnested.rowsOf_eq]
    exact (steps_within hstart hsteps).benches
  draw := by
    rintro frames machine _ generator ⟨rfl, hnested, hsteps⟩
    exact ⟨⟨rfl, hnested, hsteps.tail (.draw _ machine generator)⟩, fun _ h => h⟩
  enter := by
    rintro frames machine _ table ⟨rfl, hnested, hsteps⟩
    exact .ok () () machine machine ⟨rfl, ⟨rfl, hnested⟩, hsteps⟩ (fun _ h => h) rfl
  render := by
    rintro frame frames machine _ moment hrel hmoment
    obtain ⟨rfl, _⟩ := id hrel
    cases moment with
    | rendering | rendered | opened | closed =>
        exact .ok () () machine machine hrel (fun _ h => h) rfl
    | entered | failed | started | left => cases hmoment
  failed := by
    rintro machine other activation error (⟨frames, hrel⟩ | hbroken)
    · exact .inl ⟨frames, hrel⟩
    · exact .inr hbroken
  start := by
    rintro table enclosing started frames machine _ nickname ⟨rfl, hnested, hsteps⟩ htable row rfl
    -- A row is started and logged in two strokes, which together are one step.
    have hstep := hsteps.tail (.begin _ machine table nickname htable)
    exact .ok () () _ _ ⟨rfl, hnested, hstep⟩
      (fun _ hknown => hknown.imp_right (List.mem_append_left _)) rfl
  setField := by
    rintro table enclosing number row frames machine _ name value ⟨rfl, hnested, hsteps⟩ hfield
      hvalue
    have hstep := hsteps.tail (.setField _ machine row name value hfield hvalue)
    exact ⟨⟨rfl, hnested, hstep⟩, fun _ h => h⟩
  hand := by
    rintro table enclosing number row frames machine _ ⟨rfl, hnested, hsteps⟩
    -- It is up to the sink whether this is a step or the end of the run.
    have hwrite : ∃ result, sink.write (machine.rowOf row) machine.out.out = result := ⟨_, rfl⟩
    obtain ⟨⟨result, out⟩, hwrite⟩ := hwrite
    have hhand (activation : Activation) : sink.loggingDesk.hand activation row machine =
        (result, machine.handOver activation row out) := by
      change (match sink.write (machine.rowOf row) machine.out.out with
        | (result, out) => (result, machine.handOver activation row out)) = _
      rw [hwrite]
    have henclosing : enclosing = benchRows (benchesOf frames) :=
      hnested.1.trans hnested.2.rowsOf_eq
    change Outcome _ _ _ _ (sink.loggingDesk.hand _ _ _) (sink.loggingDesk.hand _ _ _)
    rw [hhand]
    cases result with
    | ok done =>
        have hstep := hsteps.tail (.handOver _ machine row (.ofRow table enclosing number row) out
          rfl henclosing hwrite)
        exact .ok done done _ _ ⟨rfl, hnested, hstep⟩ (fun _ h => h) rfl
    | error error =>
        exact .error error _ _ (.inr ⟨rfl, _, .broken hsteps
          (.handOver _ machine row (.ofRow table enclosing number row) out error rfl henclosing
            hwrite)⟩)
  leave := by
    rintro table enclosing number row frames machine _ ⟨rfl, hnested, hsteps⟩
    exact ⟨rfl, hnested, hsteps.tail (.leave _ machine row)⟩
  exit := by
    rintro table enclosing started frames machine _ ⟨rfl, hnested, hsteps⟩
    exact .ok () () machine machine ⟨rfl, hnested.2, hsteps⟩ (fun _ h => h) rfl

/-- A sink that is flushed takes a step or fails. -/
theorem flush_agrees : (ofSteps setting sink rules given start).Agree [] SamePlain
    (Running.onOut sink.overLog.flush) (Running.onOut sink.overLog.flush) where
  outcome := by
    rintro machine _ ⟨rfl, _, hsteps⟩ _
    have hflush : ∃ result, sink.flush machine.out.out = result := ⟨_, rfl⟩
    obtain ⟨⟨result, out⟩, hflush⟩ := hflush
    have hdone : Running.onOut sink.overLog.flush machine = (result, machine.withOut out) := by
      change (match sink.flush machine.out.out with
        | (result, out) => (result, machine.withOut out)) = _
      rw [hflush]
    rw [hdone]
    cases result with
    | ok done =>
        have hstep := hsteps.tail (.flush _ machine out hflush)
        exact .ok done done _ _ ⟨rfl, trivial, hstep⟩ (fun _ h => h) rfl
    | error error =>
        exact .error error _ _ (.inr ⟨rfl, [], .broken hsteps
          (.flush [] machine out error hflush)⟩)
  goesOn := fun _ _ hahead => hahead.elim

end

end Simulation

namespace Recipe

/-- A recipe and what is asked of it keep to rules, and hold references to given rows alone. -/
structure Keeps (rules : Rules) (given : RowRef → Prop) (recipe : Recipe) (request : Request) :
    Prop where
  templates : ∀ template ∈ recipe.templates, template.Obeys rules
  literals : ∀ value, rules.literal value → value.Within given
  defaults : ∀ option ∈ recipe.options, ∀ value ∈ option.default, value.Within given
  options : FieldsWithin given request.options
  fake : request.fake.Within given

variable {sink : Sink σ} {rules : Rules} {given : RowRef → Prop} {recipe : Recipe}
  {request : Request} {out : σ}

/-- Every recipe keeps to rules that allow everything, if any row may be referenced. -/
theorem keeps_all (recipe : Recipe) (request : Request) :
    recipe.Keeps Rules.all (fun _ => True) request where
  templates := fun template _ => template.obeys_all
  literals := fun value _ => Simulation.within_true value
  defaults := fun _ _ value _ => Simulation.within_true value
  options := fun _ _ => Simulation.within_true _
  fake := fun _ _ _ value _ => Simulation.within_true value

/-- The start of a run whose sink has been told the tables of a recipe. -/
def first (recipe : Recipe) (request : Request) (sink : Sink σ) (out : σ) : Progress σ :=
  Progress.first request.generator (sink.declare recipe.tables out).2

/-- A run with settled options goes on in steps from its start. -/
theorem carryOutWith_steps (sink : Sink σ) (out : σ) (hkeeps : recipe.Keeps rules given request)
    {merged : MergedOptions} (hmerged : mergeOptions recipe.options request.options = .ok merged) :
    (Simulation.ofSteps (request.setting merged) sink rules given
      (recipe.first request sink out)).Outcome (fun _ => False) [] Simulation.SamePlain
        (recipe.carryOutWith request merged sink.overLog sink.loggingDesk (request.start { out }))
        (recipe.carryOutWith request merged sink.overLog sink.loggingDesk
          (request.start { out })) := by
  have hvalues := (mergeOptions_within hkeeps.options hkeeps.defaults).of_eq_ok hmerged
  have hlawful : (Simulation.ofSteps (request.setting merged) sink rules given
      (recipe.first request sink out)).Lawful :=
    Simulation.ofSteps_lawful (Progress.first_within _ _) ⟨hvalues, hkeeps.fake⟩ hkeeps.literals
  refine Simulation.carryOutWith_agrees hlawful rfl hkeeps.templates ?_ Simulation.flush_agrees
  have hdeclared : Running.onOut (sink.overLog.declare recipe.tables) (request.start { out }) =
      ((sink.declare recipe.tables out).1, (recipe.first request sink out).machine) := rfl
  rw [hdeclared]
  -- A sink that refuses the tables ends the run where the steps would begin.
  cases (sink.declare recipe.tables out).1 with
  | ok done => exact .ok done done _ _ ⟨rfl, trivial, .refl⟩ (fun _ h => h.elim) rfl
  | error error => exact .error error _ _ (.inl ⟨[], rfl, trivial, .refl⟩)

/-- A run that succeeds is a chain of steps, at the end of which no row stands on a bench. -/
theorem observe_steps (hkeeps : recipe.Keeps rules given request) {summary : Summary}
    (hdone : (recipe.observe request sink out).1 = .ok summary) :
    Steps sink rules given (recipe.first request sink out)
      ⟨[], (recipe.observe request sink out).2⟩ := by
  cases hmerged : mergeOptions recipe.options request.options with
  | error error =>
      rw [observe, carryOut_eq_fail hmerged] at hdone
      cases hdone
  | ok merged =>
      have houtcome := carryOutWith_steps sink out hkeeps hmerged
      rw [← carryOut_eq hmerged, ← observe] at houtcome
      generalize recipe.observe request sink out = run at hdone houtcome
      cases houtcome with
      | ok _ _ machine _ hrel _ _ => exact hrel.2.2
      | error | behind => cases hdone

/-- A run that succeeds or fails is a chain of steps, unless its sink has failed behind them. -/
theorem observe_reaches (sink : Sink σ) (out : σ) (hkeeps : recipe.Keeps rules given request) :
    ∃ start benches, Reaches sink rules given (Progress.first request.generator start)
      ⟨benches, (recipe.observe request sink out).2⟩ := by
  cases hmerged : mergeOptions recipe.options request.options with
  | error error =>
      rw [observe, carryOut_eq_fail hmerged]
      exact ⟨out, [], .steps .refl⟩
  | ok merged =>
      refine ⟨(sink.declare recipe.tables out).2, ?_⟩
      have houtcome := carryOutWith_steps sink out hkeeps hmerged
      rw [← carryOut_eq hmerged, ← observe] at houtcome
      generalize recipe.observe request sink out = run at houtcome ⊢
      cases houtcome with
      | ok _ _ machine _ hrel _ _ => exact ⟨[], .steps hrel.2.2⟩
      | error _ machine _ hfailed =>
          obtain ⟨frames, _, _, hsteps⟩ | ⟨_, hreaches⟩ := hfailed
          · exact ⟨benchesOf frames, .steps hsteps⟩
          · exact hreaches
      | behind _ _ _ _ hahead => exact hahead.elim

/-- A run sums up the tables of its recipe and the references that it has noted. -/
theorem observe_summary {summary : Summary}
    (hdone : (recipe.observe request sink out).1 = .ok summary) :
    summary.tables = recipe.tables ∧
      summary.dependencies = (recipe.observe request sink out).2.registry.dependencies := by
  have hrun : recipe.observe request sink out =
      (.ok summary, (recipe.observe request sink out).2) := by rw [← hdone]
  generalize (recipe.observe request sink out).2 = last at hrun ⊢
  -- The parts are the options, the tables, the batches and the flush; the summary comes last.
  obtain ⟨merged, _, _, hrun⟩ := Action.bind_eq_ok hrun
  obtain ⟨_, _, _, hrun⟩ := Action.bind_eq_ok hrun
  obtain ⟨_, _, _, hrun⟩ := Action.bind_eq_ok hrun
  obtain ⟨_, _, _, hrun⟩ := Action.bind_eq_ok hrun
  obtain ⟨registry, machine, hregistry, hrun⟩ := Action.bind_eq_ok hrun
  cases hregistry
  cases hrun
  exact ⟨rfl, rfl⟩

/-- A run that succeeds has told its sink the tables, and has then handed it the rows of the log and
flushed it. -/
theorem generate_takes {summary : Summary}
    (hdone : (recipe.generate request sink out).1 = .ok summary) :
    ∃ declared, sink.declare recipe.tables out = (.ok (), declared) ∧
      sink.Takes ((recipe.observe request sink out).2.out.handed.map Handing.written) declared
        (recipe.generate request sink out).2 := by
  rw [generate_eq_observe] at hdone ⊢
  refine ⟨_, ?_, (observe_steps (keeps_all recipe request) hdone).takes⟩
  have hrun : recipe.observe request sink out =
      (.ok summary, (recipe.observe request sink out).2) := by rw [← hdone]
  obtain ⟨merged, _, hmerged, hrun⟩ := Action.bind_eq_ok hrun
  obtain ⟨_, rfl⟩ := Prod.mk.inj hmerged
  obtain ⟨_, _, hdeclare, _⟩ := Action.bind_eq_ok hrun
  have hdeclared : (sink.declare recipe.tables out).1 = .ok () := congrArg Prod.fst hdeclare
  rw [← hdeclared]

end Recipe

end RecordRecipe
