import RecordRecipe.Proofs.Run.Ledger
import RecordRecipe.Proofs.Run.Transcript

/-!
# The calls of a run on its sink

A run tells the sink its tables, writes rows and flushes the sink, in this order, and stops at the
first call that fails and at the first count, field or argument that cannot be rendered. Which calls
it makes does not depend on the sink: a run with any sink makes those of a run with a sink that
takes everything, up to the first one that fails. `Recipe.carryOutWith_ending` says so of a run
beside that other one, and `Recipe.call_protocol` of any two runs.
-/

namespace RecordRecipe

variable {σ τ : Type} {tables : Tables}

/-- Calls that have all succeeded. -/
def succeeded (calls : List SinkCall) : List Event := calls.map fun made => .call made (.ok ())

/-- The calls that tell a sink its tables and write some rows. -/
def writing (tables : Tables) (rows : List Row) : List SinkCall :=
  .declare tables :: rows.map .write

/-- The calls of a transcript without their answers. -/
def madeCalls (events : List Event) : List SinkCall := (callsOf events).map Prod.fst

/-- Nothing but failures of rendering. -/
def NoCalls (events : List Event) : Prop := ∀ event ∈ events, event.call? = none

@[simp] theorem madeCalls_append {events more : List Event} :
    madeCalls (events ++ more) = madeCalls events ++ madeCalls more := by
  simp [madeCalls, callsOf]

@[simp] theorem madeCalls_succeeded {calls : List SinkCall} :
    madeCalls (succeeded calls) = calls := by
  induction calls with
  | nil => rfl
  | cons made rest ih => exact congrArg (made :: ·) ih

@[simp] theorem madeCalls_call {made : SinkCall} {answer : Except Error Unit}
    {events : List Event} : madeCalls (.call made answer :: events) = made :: madeCalls events :=
  rfl

@[simp] theorem callsOf_call {made : SinkCall} {answer : Except Error Unit}
    {events : List Event} :
    callsOf (.call made answer :: events) = (made, answer) :: callsOf events :=
  rfl

theorem NoCalls.nil : NoCalls [] := by simp [NoCalls]

theorem NoCalls.callsOf_eq {events : List Event} (h : NoCalls events) : callsOf events = [] :=
  List.filterMap_eq_nil_iff.mpr h

theorem NoCalls.madeCalls_eq {events : List Event} (h : NoCalls events) :
    madeCalls events = [] := by
  rw [madeCalls, h.callsOf_eq, List.map_nil]

@[simp] theorem callsOf_append {events more : List Event} :
    callsOf (events ++ more) = callsOf events ++ callsOf more :=
  List.filterMap_append

@[simp] theorem callsOf_succeeded {calls : List SinkCall} :
    callsOf (succeeded calls) = calls.map (·, .ok ()) := by
  induction calls with
  | nil => rfl
  | cons made rest ih => exact congrArg ((made, Except.ok ()) :: ·) ih

theorem NoCalls.append_failed {events : List Event} (h : NoCalls events) (activation : Activation)
    (error : Error) : NoCalls (events ++ [.failed activation error]) := by
  intro event hevent
  obtain hevent | hevent := List.mem_append.mp hevent
  · exact h event hevent
  · rw [List.mem_singleton.mp hevent]
    rfl

theorem succeeded_append {calls more : List SinkCall} :
    succeeded (calls ++ more) = succeeded calls ++ succeeded more :=
  List.map_append

theorem writing_append {rows : List Row} {row : Row} :
    writing tables (rows ++ [row]) = writing tables rows ++ [.write row] := by
  simp [writing]

/-- A run has stopped at a call that its sink has refused. All calls before it have succeeded, and
it is one of the calls of a script. -/
inductive Refused (tables : Tables) (events : List Event) (script : List SinkCall) : Prop where
  | at (calls : List SinkCall) (made : SinkCall) (error : Error) (notes : List Event)
      (hevents : events = succeeded calls ++ .call made (.error error) :: notes)
      (hnotes : NoCalls notes) (hscript : calls ++ [made] <+: script)
      (horder : ∃ rows, calls ++ [made] <+: writing tables rows ++ [.flush])

namespace Refused

variable {events : List Event} {script more : List SinkCall}

/-- The script may go on. -/
theorem mono (h : Refused tables events script) (hmore : script <+: more) :
    Refused tables events more := by
  obtain ⟨calls, made, error, notes, hevents, hnotes, hscript, horder⟩ := h
  exact .at calls made error notes hevents hnotes (hscript.trans hmore) horder

/-- Failures of the renderings around the call are noted. -/
theorem note (h : Refused tables events script) (activation : Activation) (error : Error) :
    Refused tables (events ++ [.failed activation error]) script := by
  obtain ⟨calls, made, fault, notes, rfl, hnotes, hscript, horder⟩ := h
  exact .at calls made fault (notes ++ [.failed activation error]) (by simp)
    (hnotes.append_failed activation error) hscript horder

end Refused

/-- The sink that takes everything and keeps nothing. -/
def Sink.idle : Sink Unit where
  name := "idle"
  store := fun _ _ => Action.done ()
  write := fun _ => Action.done ()

namespace Simulation

/-- A run with a sink, and a run with the idle sink that makes the same calls. The sink may refuse a
call, and the run with the idle sink may then go on. -/
def besideIdle (setting : Setting) (sink : Sink σ) (tables : Tables) :
    Simulation (Transcribed σ) (Transcribed Unit) where
  rules := Rules.all
  setting := setting
  left := sink.transcribingDesk
  right := Sink.idle.transcribingDesk
  rel := fun _ machine other => machine.registry = other.registry ∧
    machine.out.events = other.out.events ∧
      ∃ rows, machine.out.events = succeeded (writing tables rows)
  known := fun _ _ => True
  broken := fun machine other => machine.out.events = other.out.events ∧
    ∃ rows notes, machine.out.events = succeeded (writing tables rows) ++ notes ∧ NoCalls notes
  ahead := fun machine out => Refused tables machine.out.events (madeCalls out.events)

variable {setting : Setting} {sink : Sink σ}

/-- The idle sink goes on ahead of a sink that has refused a call. -/
theorem besideIdle_patient : (besideIdle setting sink tables).Patient where
  note := fun {machine other} moment (h : Refused _ _ _) => by
    cases moment with
    | failed activation error =>
        change Refused tables _ (madeCalls (other.out.events ++ [.failed activation error]))
        exact h.mono (by simp)
    | entered | rendering | rendered | started | opened | closed | left => exact h
  hand := fun {machine other} activation row (h : Refused _ _ _) => by
    change Refused tables _ (madeCalls (other.out.events ++ [.call (.write _) (.ok ())]))
    exact h.mono (by simp)
  failed := fun activation error (h : Refused _ _ _) => h.note activation error

/-- The same calls are made step by step. -/
theorem besideIdle_lawful : (besideIdle setting sink tables).Lawful where
  patient := besideIdle_patient
  registry_eq := fun hrel => hrel.1
  registry_within := fun _ =>
    ⟨fun _ _ => trivial, fun _ _ => trivial, fun _ _ _ _ => within_true _⟩
  surrounded := fun _ => surrounded_true _ _
  draw := fun generator hrel =>
    ⟨⟨congrArg (fun registry => { registry with generator }) hrel.1, hrel.2⟩, fun _ h => h⟩
  enter := fun _ hrel => .ok () () _ _ hrel (fun _ h => h) rfl
  render := by
    intro frame frames machine other moment hrel hmoment
    cases moment with
    | rendering | rendered | opened | closed => exact .ok () () _ _ hrel (fun _ h => h) rfl
    | entered | failed | started | left => cases hmoment
  failed := by
    rintro machine other activation error (⟨_, _, hevents, rows, hrows⟩ | ⟨hevents, hbroken⟩)
    · have hnoted := congrArg (· ++ [Event.failed activation error]) hrows
      exact .inr ⟨congrArg (· ++ [Event.failed activation error]) hevents, rows, _, hnoted,
        NoCalls.nil.append_failed activation error⟩
    · obtain ⟨rows, notes, hrows, hnotes⟩ := hbroken
      have hnoted : machine.out.events ++ [.failed activation error] =
          succeeded (writing tables rows) ++ (notes ++ [.failed activation error]) := by
        rw [hrows, List.append_assoc]
      exact .inr ⟨congrArg (· ++ [Event.failed activation error]) hevents, rows, _, hnoted,
        hnotes.append_failed activation error⟩
  start := by
    rintro table enclosing started frames machine other nickname ⟨hregistry, hevents⟩ _ row _
    have hstarted := congrArg (fun registry => (registry.startRow table nickname).2) hregistry
    exact .ok () () _ _ ⟨hstarted, hevents⟩ (fun _ h => h) rfl
  setField := fun name value hrel _ _ =>
    ⟨⟨congrArg (Registry.setField _ name value) hrel.1, hrel.2⟩, fun _ h => h⟩
  hand := by
    rintro table enclosing number row frames machine other ⟨hregistry, hevents, rows, hrows⟩
    -- Both sides write the same row, and it is up to the sink whether the run stops there.
    have hwritten : other.written row = machine.written row := by
      rw [Machine.written, Machine.written, hregistry]
    have hwrite : ∃ result, sink.write (machine.written row) machine.out.out = result := ⟨_, rfl⟩
    obtain ⟨⟨answer, out⟩, hwrite⟩ := hwrite
    have hidle : Sink.idle.write (other.written row) other.out.out = (.ok (), ()) := rfl
    change Outcome _ _ _ _ (sink.transcribingDesk.hand _ _ _)
      (Sink.idle.transcribingDesk.hand _ _ _)
    rw [Machine.hand_eq hwrite, Machine.hand_eq hidle, hwritten]
    cases answer with
    | ok done =>
        have hnoted := congrArg (Registry.noteReferences row) hregistry
        have hmade := congrArg (· ++ [Event.call (.write (machine.written row)) (.ok ())]) hevents
        have hthen : machine.out.events ++ [.call (.write (machine.written row)) (.ok ())] =
            succeeded (writing tables (rows ++ [machine.written row])) := by
          rw [writing_append, succeeded_append, ← hrows]
          rfl
        exact .ok () () _ _ ⟨hnoted, hmade, _, hthen⟩ (fun _ h => h) rfl
    | error error =>
        have hscript : writing tables rows ++ [.write (machine.written row)] =
            madeCalls (other.out.events ++ [.call (.write (machine.written row)) (.ok ())]) := by
          rw [madeCalls_append, ← hevents, hrows, madeCalls_succeeded]
          rfl
        have hrefused : Refused tables
            (machine.out.events ++ [.call (.write (machine.written row)) (.error error)])
            (madeCalls (other.out.events ++ [.call (.write (machine.written row)) (.ok ())])) :=
          .at (writing tables rows) (.write (machine.written row)) error [] (by rw [hrows]) .nil
            ⟨[], (List.append_nil _).trans hscript⟩
            ⟨rows ++ [machine.written row], by simp [writing_append]⟩
        exact .behind error _ _ _ hrefused fun _ _ => ⟨(), rfl⟩
  leave := fun hrel => hrel
  exit := fun hrel => .ok () () _ _ hrel (fun _ h => h) rfl

/-- The sink is told the tables, or refuses them. -/
theorem declare_besideIdle (sink : Sink σ) (request : Request) (out : σ) :
    (besideIdle setting sink tables).Outcome (fun _ => False) [] SamePlain
      (Running.onOut (sink.transcribed.declare tables) (request.start { out }))
      (Running.onOut (Sink.idle.transcribed.declare tables) (request.start { out := () })) := by
  have hdeclare : ∃ result, sink.declare tables out = result := ⟨_, rfl⟩
  obtain ⟨⟨answer, last⟩, hdeclare⟩ := hdeclare
  have hidle : Sink.idle.declare tables () = (.ok (), ()) := rfl
  change Outcome _ _ _ _ (Running.onOut (Transcribed.call _ _) _)
    (Running.onOut (Transcribed.call _ _) _)
  rw [Machine.onOut_call hdeclare, Machine.onOut_call hidle]
  cases answer with
  | ok done => exact .ok () () _ _ ⟨rfl, rfl, [], rfl⟩ (fun _ h => h.elim) rfl
  | error error =>
      have hrefused : Refused tables [.call (.declare tables) (.error error)]
          [.declare tables] :=
        .at [] (.declare tables) error [] rfl .nil List.prefix_rfl ⟨[], by simp [writing]⟩
      exact .behind error _ _ _ hrefused fun _ _ => ⟨(), rfl⟩

/-- The rows are made side by side, before the flush. -/
theorem beforeFlush_besideIdle (recipe : Recipe) (request : Request) (merged : MergedOptions)
    (sink : Sink σ) (out : σ) :
    (besideIdle (request.setting merged) sink recipe.tables).Outcome (fun _ => False) [] SamePlain
      (recipe.beforeFlush request merged sink.transcribed sink.transcribingDesk
        (request.start { out }))
      (recipe.beforeFlush request merged Sink.idle.transcribed Sink.idle.transcribingDesk
        (request.start { out := () })) :=
  beforeFlush_agrees besideIdle_lawful rfl (fun template _ => template.obeys_all)
    (declare_besideIdle sink request out)

end Simulation

/-- How a run ends beside one with the idle sink: both succeed, or both fail without a call that has
failed, or the sink has refused a call. -/
inductive Ending (tables : Tables) : Except Error Summary × Machine (Transcribed σ) →
    Except Error Summary × Machine (Transcribed Unit) → Prop where
  | done (rows : List Row) (summary : Summary) (machine : Machine (Transcribed σ))
      (other : Machine (Transcribed Unit)) (hother : machine.out.events = other.out.events)
      (hevents : machine.out.events = succeeded (writing tables rows ++ [.flush])) :
      Ending tables (.ok summary, machine) (.ok summary, other)
  | failed (rows : List Row) (notes : List Event) (error : Error)
      (machine : Machine (Transcribed σ)) (other : Machine (Transcribed Unit))
      (hother : machine.out.events = other.out.events)
      (hevents : machine.out.events = succeeded (writing tables rows) ++ notes)
      (hnotes : NoCalls notes) : Ending tables (.error error, machine) (.error error, other)
  | refused (error : Error) (machine : Machine (Transcribed σ)) (result : Except Error Summary)
      (other : Machine (Transcribed Unit))
      (h : Refused tables machine.out.events (madeCalls other.out.events)) :
      Ending tables (.error error, machine) (result, other)

namespace Recipe

/-- A run that has made its rows is concluded with a flush. -/
theorem conclude_ending {recipe : Recipe} {merged : MergedOptions} {sink : Sink σ}
    {machine : Machine (Transcribed σ)} {other : Machine (Transcribed Unit)} {rows : List Row}
    (hregistry : machine.registry = other.registry)
    (hother : machine.out.events = other.out.events)
    (hrows : machine.out.events = succeeded (writing recipe.tables rows)) :
    Ending recipe.tables (recipe.conclude merged sink.transcribed machine)
      (recipe.conclude merged Sink.idle.transcribed other) := by
  have hflush : ∃ result, sink.flush machine.out.out = result := ⟨_, rfl⟩
  obtain ⟨⟨answer, out⟩, hflush⟩ := hflush
  have hcall : Running.onOut sink.transcribed.flush machine =
      (answer, machine.called .flush answer out) := Machine.onOut_call hflush
  have hidle : Running.onOut Sink.idle.transcribed.flush other =
      (.ok (), other.called .flush (.ok ()) ()) := rfl
  have hscript : other.out.events ++ [.call .flush (.ok ())] =
      succeeded (writing recipe.tables rows ++ [.flush]) := by
    rw [succeeded_append, ← hrows, hother]
    rfl
  unfold conclude
  rw [Action.bind_apply, Action.bind_apply, hcall, hidle]
  cases answer with
  | ok done =>
      have hmade := congrArg (· ++ [Event.call .flush (.ok ())]) hother
      -- The registries are the same, and so are the summaries drawn from them.
      change Ending _ (Except.ok (Summary.mk _ machine.registry.dependencies _), _)
        (Except.ok (Summary.mk _ other.registry.dependencies _), _)
      rw [hregistry]
      exact .done rows _ _ _ hmade (hmade.trans hscript)
  | error error =>
      have hmade := congrArg (· ++ [Event.call .flush (.error error)]) hrows
      have hcalls : madeCalls (other.out.events ++ [.call .flush (.ok ())]) =
          writing recipe.tables rows ++ [.flush] := by
        rw [hscript, madeCalls_succeeded]
      exact .refused error _ _ _ (.at _ .flush error [] hmade .nil
        ⟨[], (List.append_nil _).trans hcalls.symm⟩ ⟨rows, List.prefix_rfl⟩)

/-- A run with settled options ends beside one with the idle sink. -/
theorem carryOutWith_ending (recipe : Recipe) (request : Request) (merged : MergedOptions)
    (sink : Sink σ) (out : σ) :
    Ending recipe.tables
      (recipe.carryOutWith request merged sink.transcribed sink.transcribingDesk
        (request.start { out }))
      (recipe.carryOutWith request merged Sink.idle.transcribed Sink.idle.transcribingDesk
        (request.start { out := () })) := by
  have hmade := Simulation.beforeFlush_besideIdle recipe request merged sink out
  rw [carryOutWith_eq, carryOutWith_eq, Action.bind_apply, Action.bind_apply]
  generalize recipe.beforeFlush request merged sink.transcribed sink.transcribingDesk
    (request.start { out }) = left at hmade ⊢
  generalize recipe.beforeFlush request merged Sink.idle.transcribed Sink.idle.transcribingDesk
    (request.start { out := () }) = right at hmade ⊢
  cases hmade with
  | ok a b machine other hrel _ _ =>
      obtain ⟨hregistry, hother, rows, hrows⟩ := hrel
      exact conclude_ending hregistry hother hrows
  | error error machine other hfailed =>
      obtain ⟨_, _, hother, rows, hrows⟩ | ⟨hother, rows, notes, hrows, hnotes⟩ := hfailed
      · exact .failed rows [] error machine other hother (by rw [hrows, List.append_nil]) .nil
      · exact .failed rows notes error machine other hother hrows hnotes
  | behind error machine result other hahead _ =>
      cases result with
      | error fault => exact .refused error machine (.error fault) other hahead
      | ok done =>
          -- The idle sink is still to be flushed, which adds to its calls.
          have hmore : madeCalls other.out.events <+:
              madeCalls (other.out.events ++ [.call .flush (.ok ())]) := by simp
          exact .refused error machine _ _ (hahead.mono hmore)

end Recipe

/-- Behind calls that have succeeded, nothing but a first event and failures of rendering: no call
follows a failure. -/
theorem noCalls_after {calls : List SinkCall} {rest before after : List Event} {event : Event}
    (h : succeeded calls ++ rest = before ++ event :: after) (hfails : ¬ event.Succeeds)
    (hrest : NoCalls rest.tail) : NoCalls after := by
  obtain ⟨more, rfl, hmore⟩ | ⟨more, hcalls, hmore⟩ := List.append_eq_append_iff.mp h
  · subst hmore
    cases more with
    | nil => exact hrest
    | cons first more =>
        exact fun later hlater => hrest later (List.mem_append_right more (.tail event hlater))
  · cases more with
    | nil =>
        subst hmore
        exact hrest
    | cons first more =>
        obtain ⟨rfl, rfl⟩ := List.cons.inj hmore
        -- The event is one of the calls that have succeeded.
        have hevent : event ∈ succeeded calls := by simp [hcalls]
        obtain ⟨made, _, rfl⟩ := List.mem_map.mp hevent
        exact absurd trivial hfails

/-- The calls of a run keep to the protocol of sinks. -/
structure Orderly (tables : Tables) (result : Except Error Summary) (events : List Event) :
    Prop where
  /-- The sink is told the tables once, before any row. It is flushed once, behind all rows and if
  they have all been written, and not at all if the run fails before that. It is never closed. -/
  order : ∃ rows, (madeCalls events = writing tables rows ∧ ∃ error, result = .error error) ∨
    ∃ answer, callsOf events = (writing tables rows).map (·, .ok ()) ++ [(.flush, answer)] ∧
      ((∃ summary, result = .ok summary) ↔ answer = .ok ())
  /-- No call follows a call that has failed or something that could not be rendered. -/
  stops : ∀ before event after, events = before ++ event :: after → ¬ event.Succeeds →
    callsOf after = []

/-- Up to and with the first call that fails on either side, the calls are the same. -/
def SameCalls (events others : List Event) : Prop :=
  ∀ index, (∀ entry ∈ (callsOf events).take index ++ (callsOf others).take index,
    entry.2 = .ok ()) → (madeCalls events)[index]? = (madeCalls others)[index]?

/-- What a script begins with tells the sink its tables and then writes rows. -/
theorem exists_writing_of_prefix {calls : List SinkCall} {rows : List Row} (hne : calls ≠ [])
    (h : calls <+: writing tables rows) : ∃ rows, calls = writing tables rows := by
  obtain ⟨first, rest, rfl⟩ := List.exists_cons_of_ne_nil hne
  obtain ⟨rfl, hrest⟩ := List.cons_prefix_cons.mp h
  refine ⟨rows.take rest.length, ?_⟩
  rw [writing, List.map_take, ← List.prefix_iff_eq_take.mp hrest]

/-- A run that has stopped at a call has kept to the protocol. -/
theorem Refused.orderly {events : List Event} {script : List SinkCall}
    (h : Refused tables events script) (error : Error) :
    Orderly tables (.error error) events := by
  obtain ⟨calls, made, fault, notes, rfl, hnotes, _, rows, horder⟩ := h
  refine ⟨?_, fun before event after hsplit hfails => ?_⟩
  · obtain heq | hprefix := List.prefix_concat_iff.mp horder
    · obtain ⟨rfl, hlast⟩ := List.append_inj' heq rfl
      obtain rfl : made = .flush := by simpa using hlast
      refine ⟨rows, .inr ⟨.error fault, ?_, by simp⟩⟩
      simp [hnotes.callsOf_eq]
    · obtain ⟨rows, hwriting⟩ := exists_writing_of_prefix (by simp) hprefix
      refine ⟨rows, .inl ⟨?_, error, rfl⟩⟩
      simp [hnotes.madeCalls_eq, ← hwriting]
  · exact (noCalls_after hsplit hfails hnotes).callsOf_eq

/-- A run with settled options keeps to the protocol. -/
theorem Ending.orderly {run : Except Error Summary × Machine (Transcribed σ)}
    {other : Except Error Summary × Machine (Transcribed Unit)} (h : Ending tables run other) :
    Orderly tables run.1 run.2.out.events := by
  cases h with
  | done rows summary machine other _ hevents =>
      refine ⟨⟨rows, .inr ⟨.ok (), by simp [hevents], by simp⟩⟩,
        fun before event after hsplit hfails => ?_⟩
      rw [hevents, ← List.append_nil (succeeded _)] at hsplit
      exact (noCalls_after hsplit hfails .nil).callsOf_eq
  | failed rows notes error machine other _ hevents hnotes =>
      refine ⟨⟨rows, .inl ⟨by simp [hevents, hnotes.madeCalls_eq], error, rfl⟩⟩,
        fun before event after hsplit hfails => ?_⟩
      rw [hevents] at hsplit
      have htail : NoCalls notes.tail := fun event hevent =>
        hnotes event (List.mem_of_mem_tail hevent)
      exact (noCalls_after hsplit hfails htail).callsOf_eq
  | refused error machine result other hrefused => exact hrefused.orderly error

/-- A run makes the calls of one with the idle sink, up to and with the first that fails. -/
theorem Ending.sameCalls {run : Except Error Summary × Machine (Transcribed σ)}
    {other : Except Error Summary × Machine (Transcribed Unit)} (h : Ending tables run other)
    {index : Nat} (hindex : ∀ entry ∈ (callsOf run.2.out.events).take index, entry.2 = .ok ()) :
    (madeCalls run.2.out.events)[index]? = (madeCalls other.2.out.events)[index]? := by
  cases h with
  | done rows summary machine other hother _ => rw [hother]
  | failed rows notes error machine other hother _ _ => rw [hother]
  | refused error machine result other hrefused =>
      obtain ⟨calls, made, fault, notes, hevents, hnotes, ⟨rest, hscript⟩, _⟩ := hrefused
      have hcalls : callsOf machine.out.events =
          calls.map (·, .ok ()) ++ [(made, .error fault)] := by
        simp [hevents, hnotes.callsOf_eq]
      -- Among the calls before this one there is none that has failed.
      have hle : index < (calls ++ [made]).length := by
        by_contra hgreater
        rw [List.take_of_length_le (by simpa [hcalls] using hgreater)] at hindex
        cases hindex (made, .error fault) (by simp [hcalls])
      have hmade : madeCalls machine.out.events = calls ++ [made] := by
        simp [madeCalls, hcalls, Function.comp_def]
      rw [hmade, ← hscript, List.getElem?_append_left hle]

/-- A run no call of which fails ends as one with the idle sink. -/
theorem Ending.eq_of_succeeded {run : Except Error Summary × Machine (Transcribed σ)}
    {other : Except Error Summary × Machine (Transcribed Unit)} (h : Ending tables run other)
    (hcalls : ∀ entry ∈ callsOf run.2.out.events, entry.2 = .ok ()) :
    run.1 = other.1 ∧ run.2.out.events = other.2.out.events := by
  cases h with
  | done rows summary machine other hother _ => exact ⟨rfl, hother⟩
  | failed rows notes error machine other hother _ _ => exact ⟨rfl, hother⟩
  | refused error machine result other hrefused =>
      obtain ⟨calls, made, fault, notes, hevents, _, _, _⟩ := hrefused
      have hmade : (made, Except.error fault) ∈ callsOf machine.out.events := by
        simp [hevents]
      cases hcalls _ hmade

namespace Recipe

/-- A run whose options settle ends beside one with the idle sink. -/
theorem transcribe_ending {recipe : Recipe} {request : Request} {merged : MergedOptions}
    (hmerged : mergeOptions recipe.options request.options = .ok merged) (sink : Sink σ)
    (out : σ) :
    Ending recipe.tables (recipe.transcribe request sink out)
      (recipe.transcribe request Sink.idle ()) := by
  rw [transcribe, transcribe, carryOut_eq hmerged, carryOut_eq hmerged]
  exact carryOutWith_ending recipe request merged sink out

/-- A run whose options do not settle makes no call. -/
theorem transcribe_eq_fail {recipe : Recipe} {request : Request} {error : Error}
    (hmerged : mergeOptions recipe.options request.options = .error error) (sink : Sink σ)
    (out : σ) : recipe.transcribe request sink out = (.error error, request.start { out }) := by
  rw [transcribe, carryOut_eq_fail hmerged, Action.fail_apply]

/-- Runs with any two sinks make the same calls, up to and with the first that fails on either, and
do the same if none fails. A run keeps to the protocol: its sink is told the tables, takes the rows
and is flushed, and nothing is called behind a failure. If the options do not settle, or the recipe
cannot be read, nothing is called at all. -/
theorem call_protocol (recipe : Recipe) (request : Request) (sink : Sink σ) (out : σ)
    (second : Sink τ) (other : τ) :
    recipe.generate request sink out = ((recipe.transcribe request sink out).1,
      (recipe.transcribe request sink out).2.out.out) ∧
    SameCalls (recipe.transcribe request sink out).2.out.events
      (recipe.transcribe request second other).2.out.events ∧
    ((∀ entry ∈ callsOf (recipe.transcribe request sink out).2.out.events ++
        callsOf (recipe.transcribe request second other).2.out.events, entry.2 = .ok ()) →
      (recipe.transcribe request sink out).1 = (recipe.transcribe request second other).1 ∧
        (recipe.transcribe request sink out).2.out.events =
          (recipe.transcribe request second other).2.out.events) ∧
    (∀ merged, mergeOptions recipe.options request.options = .ok merged →
      Orderly recipe.tables (recipe.transcribe request sink out).1
        (recipe.transcribe request sink out).2.out.events) ∧
    (∀ error, mergeOptions recipe.options request.options = .error error →
      (recipe.transcribe request sink out).1 = .error error ∧
        (recipe.transcribe request sink out).2.out.events = []) ∧
    ∀ fs file bytes error, ofBytes fs file bytes = .error error →
      generateBytes fs file bytes request sink.transcribed { out } = (.error error, { out }) := by
  refine ⟨generate_eq_transcribe recipe request sink out, ?_, ?_,
    fun merged hmerged => (transcribe_ending hmerged sink out).orderly, fun error hmerged => ?_,
    fun fs file bytes error hread => ?_⟩
  · intro index hindex
    obtain ⟨hfirst, hsecond⟩ := List.forall_mem_append.mp hindex
    cases hmerged : mergeOptions recipe.options request.options with
    | error error =>
        rw [transcribe_eq_fail hmerged, transcribe_eq_fail hmerged]
        rfl
    | ok merged =>
        rw [(transcribe_ending hmerged sink out).sameCalls hfirst,
          (transcribe_ending hmerged second other).sameCalls hsecond]
  · intro hsucceeded
    obtain ⟨hfirst, hsecond⟩ := List.forall_mem_append.mp hsucceeded
    cases hmerged : mergeOptions recipe.options request.options with
    | error error =>
        rw [transcribe_eq_fail hmerged, transcribe_eq_fail hmerged]
        exact ⟨rfl, rfl⟩
    | ok merged =>
        have hsame := (transcribe_ending hmerged sink out).eq_of_succeeded hfirst
        have hother := (transcribe_ending hmerged second other).eq_of_succeeded hsecond
        exact ⟨hsame.1.trans hother.1.symm, hsame.2.trans hother.2.symm⟩
  · rw [transcribe_eq_fail hmerged]
    exact ⟨rfl, rfl⟩
  · unfold generateBytes
    rw [hread]
    rfl

/-- A sink that has no room for rows. -/
def full : Sink Unit where
  name := "full"
  store := fun _ _ => Action.fail (.io "no room")

theorem call_protocol_nested :
    (∃ merged, mergeOptions nested.options once.options = .ok merged ∧
      Orderly nested.tables (nested.transcribe once full ()).1
        (nested.transcribe once full ()).2.out.events) ∧
    (madeCalls (nested.transcribe once full ()).2.out.events)[1]? =
      (madeCalls (nested.transcribe once Sink.memory {}).2.out.events)[1]? := by
  have hmerged : ∃ merged, mergeOptions nested.options once.options = .ok merged := ⟨_, rfl⟩
  obtain ⟨merged, hmerged⟩ := hmerged
  obtain ⟨_, hsame, _, horderly, _, _⟩ := call_protocol nested once full () Sink.memory {}
  exact ⟨⟨merged, hmerged, horderly merged hmerged⟩, hsame 1 (by decide +kernel)⟩

end Recipe

end RecordRecipe
