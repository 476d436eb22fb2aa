import RecordRecipe.Proofs.Sink.Writing

/-!
# Runs with all calls on the sink

A transcript takes the writing of a row down as one call. `Recipe.detail` carries a recipe out with a
sink that writes in the usual way, and takes down what it does to write a row as well: it stores the
row, and now and then it flushes and commits. `transcribe_detail` says that this is the same run, of
which the one transcript is the other one, gone through call by call.
-/

namespace RecordRecipe

variable {σ : Type} {sink : Sink σ} {out : σ}

/-- The desk of a sink all calls on which are taken down. -/
def Sink.detailingDesk (sink : Sink σ) : Desk (Transcribed σ) where
  note := sink.transcribingDesk.note
  hand := fun _ row => Running.write sink.transcribed.usual row

/-- Carry out a recipe with a sink that writes in the usual way, and take down all calls on it. -/
def Recipe.detail (recipe : Recipe) (request : Request) (sink : Sink σ) (out : σ) :
    Except Error Summary × Machine (Transcribed σ) :=
  recipe.carryOut request sink.transcribed.usual sink.detailingDesk (request.start { out })

namespace Sink

/-- A transcript is gone through from one state to another. A call is made with all the calls that
it consists of, and a failure of rendering is taken down as it is. -/
inductive Details (sink : Sink σ) : List Event → Transcribed σ → Transcribed σ → Prop where
  | none (state : Transcribed σ) : Details sink [] state state
  | call {events : List Event} {before middle last : Transcribed σ} {made : SinkCall}
      {answer : Except Error Unit}
      (hmade : sink.transcribed.usual.perform made before = (answer, middle))
      (hrest : Details sink events middle last) :
      Details sink (.call made answer :: events) before last
  | failed {events : List Event} {before last : Transcribed σ} {activation : Activation}
      {error : Error} (hrest : Details sink events (before.note (.failed activation error)) last) :
      Details sink (.failed activation error :: events) before last

namespace Details

variable {events more : List Event} {before middle last : Transcribed σ}

/-- One transcript is gone through after another. -/
theorem append (hfirst : sink.Details events before middle)
    (hmore : sink.Details more middle last) : sink.Details (events ++ more) before last := by
  induction hfirst with
  | none => exact hmore
  | call hmade _ ih => exact .call hmade (ih hmore)
  | failed _ ih => exact .failed (ih hmore)

/-- A transcript in two parts is gone through part by part. -/
theorem split (h : sink.Details (events ++ more) before last) :
    ∃ middle, sink.Details events before middle ∧ sink.Details more middle last := by
  induction events generalizing before with
  | nil => exact ⟨before, .none before, h⟩
  | cons event events ih =>
      cases h with
      | call hmade hrest =>
          obtain ⟨middle, hfirst, hmore⟩ := ih hrest
          exact ⟨middle, .call hmade hfirst, hmore⟩
      | failed hrest =>
          obtain ⟨middle, hfirst, hmore⟩ := ih hrest
          exact ⟨middle, .failed hfirst, hmore⟩

end Details

/-- A call on a sink that writes in the usual way is made beside a transcript of all calls. -/
theorem Usual.perform_mirrors (h : sink.Usual) (made : SinkCall) :
    Action.Mirrors Transcribed.out (sink.perform made) (sink.transcribed.usual.perform made) := by
  cases made with
  | write row => exact h.transcribed_mirrors row
  | declare | store | flush | commit | close => exact fun _ => rfl

end Sink

/-- A transcript of a run, and beside it the one with all calls. -/
structure Detailed (sink : Sink σ) (out : σ) where
  events : List Event := []
  detail : Transcribed σ := { out }
  details : sink.Details events { out } detail := by exact .none _

namespace Detailed

/-- The state with the transcript that takes the writing of a row down as one call. -/
def brief (state : Detailed sink out) : Transcribed σ where
  out := state.detail.out
  events := state.events

/-- A call is made and taken down in both transcripts. -/
def call (made : SinkCall) : Action (Detailed sink out) Unit := fun state =>
  let run := sink.transcribed.usual.perform made state.detail
  (run.1, ⟨state.events ++ [.call made run.1], run.2, state.details.append (.call rfl (.none _))⟩)

/-- A failure of rendering is taken down in both transcripts. -/
def fail (activation : Activation) (error : Error) (state : Detailed sink out) :
    Detailed sink out where
  events := state.events ++ [.failed activation error]
  detail := state.detail.note (.failed activation error)
  details := state.details.append (.failed (.none _))

/-- A call is taken down in the transcript of a run. -/
theorem call_mirrors_brief (h : sink.Usual) (made : SinkCall) :
    Action.Mirrors brief (Transcribed.call made (sink.perform made))
      (call made : Action (Detailed sink out) Unit) := by
  intro state
  have hmade : sink.perform made state.brief.out =
      ((sink.transcribed.usual.perform made state.detail).1,
        (sink.transcribed.usual.perform made state.detail).2.out) :=
    h.perform_mirrors made state.detail
  unfold Transcribed.call
  rw [hmade]
  rfl

/-- A call is made with all the calls that it consists of. -/
theorem call_mirrors_detail (made : SinkCall) :
    Action.Mirrors detail (sink.transcribed.usual.perform made)
      (call made : Action (Detailed sink out) Unit) :=
  fun _ => rfl

/-- The sink over its state with both transcripts. -/
def recorder (sink : Sink σ) (out : σ) : Sink (Detailed sink out) where
  name := sink.name
  encoders := sink.encoders
  declare := fun tables => call (.declare tables)
  store := fun table encoded => call (.store table encoded)
  flush := call .flush
  commit := call .commit
  close := call .close
  write := fun row => call (.write row)

/-- The desk of a sink that keeps both transcripts. -/
def desk (sink : Sink σ) (out : σ) : Desk (Detailed sink out) where
  note := fun moment =>
    match moment with
    | .failed activation error => Running.onOut (Action.modify (fail activation error))
    | .entered _ | .rendering _ | .rendered _ | .started _ | .opened _ _ | .closed _ _ _
    | .left =>
        return ()
  hand := fun _ row => Running.write (recorder sink out) row

end Detailed

/-- A sink that writes in the usual way ends in the same state when all calls on it are taken down.
The transcript with all calls is the other one, gone through from the start of the run. -/
theorem transcribe_detail (recipe : Recipe) (request : Request) (h : sink.Usual) (out : σ) :
    (recipe.detail request sink out).1 = (recipe.transcribe request sink out).1 ∧
    (recipe.detail request sink out).2.out.out = (recipe.transcribe request sink out).2.out.out ∧
    sink.Details (recipe.transcribe request sink out).2.out.events { out }
      (recipe.detail request sink out).2.out := by
  -- One run keeps both transcripts, and each of the two runs is what is seen of it.
  have hbrief : Action.Mirrors (Machine.view Detailed.brief)
      (recipe.carryOut request sink.transcribed sink.transcribingDesk)
      (recipe.carryOut request (Detailed.recorder sink out) (Detailed.desk sink out)) := by
    refine Recipe.carryOut_mirrors ?_ ?_ ?_ ?_ recipe request
    · rintro (_ | _ | _ | _ | _ | _ | _ | _) machine <;> rfl
    · exact fun _ row => Action.Mirrors.write
        (fun row => Detailed.call_mirrors_brief h (.write row)) row
    · exact fun tables => Detailed.call_mirrors_brief h (.declare tables)
    · exact Detailed.call_mirrors_brief h .flush
  have hdetail : Action.Mirrors (Machine.view Detailed.detail)
      (recipe.carryOut request sink.transcribed.usual sink.detailingDesk)
      (recipe.carryOut request (Detailed.recorder sink out) (Detailed.desk sink out)) := by
    refine Recipe.carryOut_mirrors ?_ ?_ ?_ ?_ recipe request
    · rintro (_ | _ | _ | _ | _ | _ | _ | _) machine <;> rfl
    · exact fun _ row => Action.Mirrors.write
        (fun row => Detailed.call_mirrors_detail (.write row)) row
    · exact fun tables => Detailed.call_mirrors_detail (.declare tables)
    · exact Detailed.call_mirrors_detail .flush
  have htranscribe := hbrief (request.start {})
  have hdetailed := hdetail (request.start {})
  generalize recipe.carryOut request (Detailed.recorder sink out) (Detailed.desk sink out)
    (request.start {}) = run at htranscribe hdetailed
  have hfirst : recipe.transcribe request sink out = (run.1, run.2.view Detailed.brief) :=
    htranscribe
  have hsecond : recipe.detail request sink out = (run.1, run.2.view Detailed.detail) := hdetailed
  rw [hfirst, hsecond]
  exact ⟨rfl, rfl, run.2.out.details⟩

end RecordRecipe
