import RecordRecipe.Proofs.Run.Detail
import RecordRecipe.Proofs.Sink.Cadence
import RecordRecipe.Sink.Journal

/-!
# Runs keep the cadence

A sink with a counter that starts at zero is flushed and committed behind every so many rows of a
run, whatever tables they belong to, however deep they are nested and in which batch they are made,
and flushed once more at the end. `Recipe.batch_cadence` says so of the calls of a run that succeeds,
and says of a run that fails how far it has come with them.
-/

namespace RecordRecipe

variable {σ : Type} {sink : Sink σ} {out : σ} {tables : Tables} {flushEvery commitEvery : Nat}
  {rows : List Row} {last : Transcribed σ}

/-! ## Rows that have been written -/

/-- The row that is to be written by a call. -/
def SinkCall.row? : SinkCall → Option Row
  | .write row => some row
  | .declare _ | .store _ _ | .flush | .commit | .close => none

/-- The rows that have been written without a failure. -/
def rowsWritten (events : List Event) : List Row :=
  ((callsOf events).filter fun entry => entry.2.isOk).filterMap fun entry => entry.1.row?

theorem rowsWritten_append {events more : List Event} :
    rowsWritten (events ++ more) = rowsWritten events ++ rowsWritten more := by
  simp [rowsWritten]

theorem rowsWritten_writing : rowsWritten (succeeded (writing tables rows)) = rows := by
  rw [rowsWritten, callsOf_succeeded, writing, List.map_cons, List.map_map]
  induction rows with
  | nil => rfl
  | cons row rest ih => exact congrArg (row :: ·) ih

theorem rowsWritten_refused {made : SinkCall} {error : Error} :
    rowsWritten [.call made (.error error)] = [] := rfl

theorem NoCalls.rowsWritten_eq {events : List Event} (h : NoCalls events) :
    rowsWritten events = [] := by
  rw [rowsWritten, h.callsOf_eq]
  rfl

/-! ## Transcripts gone through -/

namespace Sink

/-- The rows have been stored, with the flushes and the commits that are due behind them. -/
structure Cadenced (sink : Sink σ) (flushEvery commitEvery : Nat) (tables : Tables)
    (rows : List Row) (stored : List (String × EncodedRow)) (state : Transcribed σ) : Prop where
  stores : List.Forall₂ sink.StoresAs rows stored
  events : state.events = succeeded (.declare tables :: cadence flushEvery commitEvery stored)
  tallied : sink.Tallied flushEvery commitEvery state

namespace Cadenced

variable {stored : List (String × EncodedRow)} {state : Transcribed σ}

/-- As many rows have been stored as have been counted. -/
theorem storedIn_eq (h : sink.Cadenced flushEvery commitEvery tables rows stored state) :
    storedIn state.events = stored.length := by
  rw [h.events, storedIn_succeeded]
  exact countP_store_cadence

/-- One more row is written. -/
theorem write_ok (h : sink.Cadenced flushEvery commitEvery tables rows stored state)
    (hcounts : sink.CountsRows) {row : Row} {after : Transcribed σ}
    (hwrite : sink.transcribed.usual.write row state = (.ok (), after)) :
    ∃ entry, sink.Cadenced flushEvery commitEvery tables (rows ++ [row]) (stored ++ [entry])
      after := by
  obtain ⟨error, -, hfails⟩ | ⟨entry, hentry, hplays⟩ := h.tallied.write hcounts row
  · cases hwrite.symm.trans hfails
  · rw [hwrite, h.storedIn_eq] at hplays
    cases hplays with
    | done after hevents hafter =>
        refine ⟨entry, List.rel_append h.stores (.cons hentry .nil), ?_, hafter⟩
        rw [hevents, h.events, cadence_append_singleton, ← succeeded_append, List.cons_append]

end Cadenced

/-- The calls of a run that has failed after some rows have been written. -/
inductive Breaks (sink : Sink σ) (flushEvery commitEvery : Nat) (tables : Tables)
    (rows : List Row) : List Event → Prop where
  /-- The options have not been settled. -/
  | unsettled (hrows : rows = []) : Breaks sink flushEvery commitEvery tables rows []
  /-- No call has failed. The rows have been stored, with all that is due behind them. -/
  | between (stored : List (String × EncodedRow)) (notes : List Event)
      (hstores : List.Forall₂ sink.StoresAs rows stored) (hnotes : NoCalls notes) :
      Breaks sink flushEvery commitEvery tables rows
        (succeeded (.declare tables :: cadence flushEvery commitEvery stored) ++ notes)
  /-- A call has failed. It is one of those that store the rows, and perhaps one row more. -/
  | refused (stored : List (String × EncodedRow)) (pending : List Row) (calls : List SinkCall)
      (made : SinkCall) (error : Error) (notes : List Event) (hpending : pending.length ≤ 1)
      (hstores : List.Forall₂ sink.StoresAs (rows ++ pending) stored)
      (hscript : calls ++ [made] <+:
        .declare tables :: cadence flushEvery commitEvery stored ++ [.flush])
      (hnotes : NoCalls notes) :
      Breaks sink flushEvery commitEvery tables rows
        (succeeded calls ++ .call made (.error error) :: notes)

namespace Breaks

variable {events notes : List Event}

/-- Failures of rendering are taken down behind the calls. -/
theorem note (h : sink.Breaks flushEvery commitEvery tables rows events) (hne : events ≠ [])
    (hmore : NoCalls notes) :
    sink.Breaks flushEvery commitEvery tables rows (events ++ notes) := by
  cases h with
  | unsettled => exact absurd rfl hne
  | between stored earlier hstores hnotes =>
      rw [List.append_assoc]
      exact .between stored _ hstores (List.forall_mem_append.mpr ⟨hnotes, hmore⟩)
  | refused stored pending calls made error earlier hpending hstores hscript hnotes =>
      rw [List.append_assoc, List.cons_append]
      exact .refused stored pending calls made error _ hpending hstores hscript
        (List.forall_mem_append.mpr ⟨hnotes, hmore⟩)

/-- No call follows a failure. -/
theorem stops (h : sink.Breaks flushEvery commitEvery tables rows events)
    {before after : List Event} {event : Event} (hsplit : events = before ++ event :: after)
    (hfails : ¬ event.Succeeds) : callsOf after = [] := by
  cases h with
  | unsettled => simp at hsplit
  | between stored notes hstores hnotes =>
      have htail : NoCalls notes.tail := fun event hevent =>
        hnotes event (List.mem_of_mem_tail hevent)
      exact (noCalls_after hsplit hfails htail).callsOf_eq
  | refused stored pending calls made error notes hpending hstores hscript hnotes =>
      exact (noCalls_after hsplit hfails hnotes).callsOf_eq

end Breaks

/-- A run that has made some calls has failed after some rows have been written. -/
structure Broken (sink : Sink σ) (flushEvery commitEvery : Nat) (tables : Tables)
    (rows : List Row) (state : Transcribed σ) : Prop where
  breaks : sink.Breaks flushEvery commitEvery tables rows state.events
  called : state.events ≠ []
  tallied : sink.Tallied flushEvery commitEvery state

variable {stored : List (String × EncodedRow)} {state : Transcribed σ}

/-- A run may fail wherever it has got to. -/
theorem Cadenced.broken (h : sink.Cadenced flushEvery commitEvery tables rows stored state) :
    sink.Broken flushEvery commitEvery tables rows state where
  breaks := by
    rw [h.events, ← List.append_nil (succeeded _)]
    exact .between stored [] h.stores .nil
  called := by
    rw [h.events]
    exact List.cons_ne_nil _ _
  tallied := h.tallied

/-- One more row could not be written. -/
theorem Cadenced.write_error (h : sink.Cadenced flushEvery commitEvery tables rows stored state)
    (hcounts : sink.CountsRows) {row : Row} {error : Error} {after : Transcribed σ}
    (hwrite : sink.transcribed.usual.write row state = (.error error, after)) :
    sink.Broken flushEvery commitEvery tables rows after := by
  obtain ⟨error, -, hfails⟩ | ⟨entry, hentry, hplays⟩ := h.tallied.write hcounts row
  · -- The row cannot be encoded, and nothing has happened.
    obtain ⟨-, rfl⟩ := Prod.mk.inj (hwrite.symm.trans hfails)
    exact h.broken
  · rw [hwrite, h.storedIn_eq] at hplays
    cases hplays with
    | refused _ after calls made fault hscript hevents hafter =>
        have hcalls : after.events = succeeded (.declare tables ::
            cadence flushEvery commitEvery stored ++ calls) ++ [.call made (.error fault)] := by
          rw [hevents, h.events, succeeded_append]
        have hcadence : .declare tables :: cadence flushEvery commitEvery stored ++ calls ++
            [made] <+: .declare tables :: cadence flushEvery commitEvery (stored ++ [entry]) ++
              [.flush] := by
          rw [List.append_assoc, cadence_append_singleton, ← List.cons_append, List.append_assoc]
          exact (List.prefix_append_right_inj _).mpr (hscript.trans (List.prefix_append _ _))
        refine ⟨?_, by simp [hcalls], hafter⟩
        rw [hcalls]
        exact .refused _ [row] _ made fault [] (Nat.le_refl 1)
          (List.rel_append h.stores (.cons hentry .nil)) hcadence .nil

/-- A call before the first row or behind the last one fails. -/
theorem broken_of_call {calls : List SinkCall} {made : SinkCall} {error : Error}
    {after : Transcribed σ} {action : Action σ Unit}
    (hstores : List.Forall₂ sink.StoresAs rows stored) (hevents : state.events = succeeded calls)
    (htallied : sink.Tallied flushEvery commitEvery state) (hmade : made.isStore = false)
    (hcounter : ∀ out, sink.counter? (action out).2 = sink.counter? out)
    (hscript : calls ++ [made] <+:
      .declare tables :: cadence flushEvery commitEvery stored ++ [.flush])
    (hcall : Transcribed.call made action state = (.error error, after)) :
    sink.Broken flushEvery commitEvery tables rows after := by
  have htally : sink.Tallied flushEvery commitEvery after := by
    have hafter := htallied.call hmade hcounter
    rwa [hcall] at hafter
  have hcalls : after.events = succeeded calls ++ [.call made (.error error)] := by
    rw [← hevents]
    obtain ⟨hanswer, hstate⟩ := Prod.mk.inj hcall
    rw [← hstate, ← hanswer]
  refine ⟨?_, by simp [hcalls], htally⟩
  rw [hcalls]
  exact .refused stored [] calls made error [] (Nat.zero_le 1)
    (by rwa [List.append_nil]) hscript .nil

/-! ## Transcripts gone through -/

namespace Details

variable {events notes : List Event} {before : Transcribed σ}

/-- Failures of rendering are taken down as they are. -/
theorem of_noCalls (h : sink.Details notes before last) (hnotes : NoCalls notes) :
    last.out = before.out ∧ last.events = before.events ++ notes := by
  induction h with
  | none state => exact ⟨rfl, (List.append_nil _).symm⟩
  | call => cases hnotes _ List.mem_cons_self
  | failed _ ih =>
      obtain ⟨hout, hevents⟩ := ih fun event hevent => hnotes event (List.mem_cons_of_mem _ hevent)
      refine ⟨hout, hevents.trans ?_⟩
      change _ ++ [_] ++ _ = _
      rw [List.append_assoc, List.singleton_append]

/-- A run that has failed takes failures of rendering down on its way out. -/
theorem broken (h : sink.Details notes before last) (hnotes : NoCalls notes)
    (hbefore : sink.Broken flushEvery commitEvery tables rows before) :
    sink.Broken flushEvery commitEvery tables rows last := by
  obtain ⟨hout, hevents⟩ := h.of_noCalls hnotes
  have hstored : storedIn last.events = storedIn before.events := by
    rw [hevents, storedIn_append, show storedIn notes = 0 by rw [storedIn, hnotes.callsOf_eq]; rfl]
    rfl
  refine ⟨hevents ▸ hbefore.breaks.note hbefore.called hnotes, by simp [hevents, hbefore.called], ?_⟩
  rw [Tallied, hout, hstored]
  exact hbefore.tallied

variable (hcounts : sink.CountsRows)
  (hout : sink.counter? out = some { rows := 0, flushEvery, commitEvery })

include hcounts hout

/-- Rows that have been written have been stored, with the flushes and the commits that are due. -/
theorem cadenced (h : sink.Details (succeeded (writing tables rows)) { out } last) :
    ∃ stored, sink.Cadenced flushEvery commitEvery tables rows stored last := by
  induction rows using List.reverseRecOn generalizing last with
  | nil =>
      cases h with
      | call hmade hrest =>
          cases hrest
          have hstart : sink.Tallied flushEvery commitEvery { out } := hout
          have htallied : sink.Tallied flushEvery commitEvery
              (Transcribed.call (.declare tables) (sink.declare tables) { out }).2 :=
            hstart.call rfl (hcounts.declare tables)
          obtain ⟨hanswer, rfl⟩ := Prod.mk.inj hmade
          refine ⟨[], .nil, ?_, htallied⟩
          change [Event.call _ _] = _
          rw [hanswer]
          rfl
  | append_singleton rows row ih =>
      rw [writing_append, succeeded_append] at h
      obtain ⟨middle, hrows, hrow⟩ := h.split
      obtain ⟨stored, hstored⟩ := ih hrows
      cases hrow with
      | call hmade hrest =>
          cases hrest
          obtain ⟨entry, hentry⟩ := hstored.write_ok hcounts hmade
          exact ⟨_, hentry⟩

/-- A run that succeeds flushes its sink behind the rows. -/
theorem flushed (h : sink.Details (succeeded (writing tables rows ++ [.flush])) { out } last) :
    ∃ stored, List.Forall₂ sink.StoresAs rows stored ∧
      last.events = succeeded
        (.declare tables :: cadence flushEvery commitEvery stored ++ [.flush]) ∧
      sink.Tallied flushEvery commitEvery last := by
  rw [succeeded_append] at h
  obtain ⟨middle, hrows, hflush⟩ := h.split
  obtain ⟨stored, hstored⟩ := hrows.cadenced hcounts hout
  cases hflush with
  | call hmade hrest =>
      cases hrest
      obtain ⟨hanswer, rfl⟩ := Prod.mk.inj hmade
      refine ⟨stored, hstored.stores, ?_, hstored.tallied.call rfl hcounts.flush⟩
      rw [succeeded_append, ← hstored.events]
      change middle.events ++ [Event.call .flush (sink.flush middle.out).1] = _
      rw [hanswer]
      rfl

/-- A run has stopped at a call that its sink has refused. -/
theorem refused (h : sink.Details events { out } last) {script : List SinkCall}
    (hrefused : Refused tables events script) :
    sink.Broken flushEvery commitEvery tables (rowsWritten events) last := by
  obtain ⟨calls, made, error, notes, rfl, hnotes, -, rows, horder⟩ := hrefused
  have hwritten : rowsWritten (succeeded calls ++ .call made (.error error) :: notes) =
      rowsWritten (succeeded calls) := by
    rw [← List.singleton_append, rowsWritten_append, rowsWritten_append, hnotes.rowsWritten_eq,
      rowsWritten_refused, List.append_nil, List.append_nil]
  rw [hwritten]
  obtain ⟨middle, hcalls, hlast⟩ := h.split
  cases hlast with
  | call hmade hrest =>
      refine hrest.broken hnotes ?_
      obtain heq | hprefix := List.prefix_concat_iff.mp horder
      · obtain ⟨rfl, hflush⟩ := List.append_inj' heq rfl
        obtain rfl : made = .flush := by simpa using hflush
        obtain ⟨stored, hstored⟩ := hcalls.cadenced hcounts hout
        rw [rowsWritten_writing]
        exact broken_of_call hstored.stores hstored.events hstored.tallied rfl hcounts.flush
          List.prefix_rfl hmade
      · obtain ⟨written, hwriting⟩ := exists_writing_of_prefix (by simp) hprefix
        cases written using List.reverseRecOn with
        | nil =>
            obtain ⟨rfl, rfl⟩ : calls = [] ∧ made = .declare tables := by
              simpa [writing, List.append_eq_singleton_iff] using hwriting
            cases hcalls
            have hstart : sink.Tallied flushEvery commitEvery { out } := hout
            have hscript : [] ++ [.declare tables] <+:
                .declare tables :: cadence flushEvery commitEvery [] ++ [.flush] :=
              List.prefix_append [_] [_]
            exact broken_of_call .nil rfl hstart rfl (hcounts.declare tables) hscript hmade
        | append_singleton written row =>
            rw [writing_append] at hwriting
            obtain ⟨rfl, hrow⟩ := List.append_inj' hwriting rfl
            obtain rfl : made = .write row := by simpa using hrow
            obtain ⟨stored, hstored⟩ := hcalls.cadenced hcounts hout
            rw [rowsWritten_writing]
            exact hstored.write_error hcounts hmade

end Details

end Sink

/-- A run with all its calls has succeeded after some rows have been written, or it has failed. -/
inductive Keeping (sink : Sink σ) (flushEvery commitEvery : Nat) (tables : Tables)
    (rows : List Row) : Except Error Summary → Transcribed σ → Prop where
  | done (summary : Summary) (last : Transcribed σ) (stored : List (String × EncodedRow))
      (hstores : List.Forall₂ sink.StoresAs rows stored)
      (hevents : last.events =
        succeeded (.declare tables :: cadence flushEvery commitEvery stored ++ [.flush]))
      (htallied : sink.Tallied flushEvery commitEvery last) :
      Keeping sink flushEvery commitEvery tables rows (.ok summary) last
  | failed (error : Error) (last : Transcribed σ)
      (hbreaks : sink.Breaks flushEvery commitEvery tables rows last.events)
      (htallied : sink.Tallied flushEvery commitEvery last) :
      Keeping sink flushEvery commitEvery tables rows (.error error) last

namespace Recipe

variable {recipe : Recipe} {request : Request}

/-- A run keeps the cadence. -/
theorem detail_keeping (husual : sink.Usual) (hcounts : sink.CountsRows)
    (hout : sink.counter? out = some { rows := 0, flushEvery, commitEvery }) :
    Keeping sink flushEvery commitEvery recipe.tables
      (rowsWritten (recipe.transcribe request sink out).2.out.events)
      (recipe.detail request sink out).1 (recipe.detail request sink out).2.out := by
  obtain ⟨hresult, -, hdetails⟩ := transcribe_detail recipe request husual out
  rw [hresult]
  generalize (recipe.detail request sink out).2.out = last at hdetails ⊢
  cases hmerged : mergeOptions recipe.options request.options with
  | error error =>
      rw [transcribe_eq_fail hmerged] at hdetails ⊢
      cases hdetails
      exact .failed error _ (.unsettled rfl) hout
  | ok merged =>
      have hending := transcribe_ending hmerged sink out
      generalize recipe.transcribe request Sink.idle () = idle at hending
      generalize recipe.transcribe request sink out = first at hending hdetails ⊢
      cases hending with
      | done rows summary machine other _ hevents =>
          dsimp only at hdetails ⊢
          rw [hevents] at hdetails
          obtain ⟨stored, hstores, hlast, htallied⟩ := hdetails.flushed hcounts hout
          have hrows : rowsWritten machine.out.events = rows := by
            rw [hevents, succeeded_append, rowsWritten_append, rowsWritten_writing]
            exact List.append_nil rows
          rw [hrows]
          exact .done summary last stored hstores hlast htallied
      | failed rows notes error machine other _ hevents hnotes =>
          dsimp only at hdetails ⊢
          rw [hevents] at hdetails
          obtain ⟨middle, hrows, hrest⟩ := hdetails.split
          obtain ⟨stored, hstored⟩ := hrows.cadenced hcounts hout
          have hbroken := hrest.broken hnotes hstored.broken
          have hwritten : rowsWritten machine.out.events = rows := by
            rw [hevents, rowsWritten_append, rowsWritten_writing, hnotes.rowsWritten_eq,
              List.append_nil]
          rw [hwritten]
          exact .failed error last hbroken.breaks hbroken.tallied
      | refused error machine result other hrefused =>
          have hbroken := hdetails.refused hcounts hout hrefused
          exact .failed error last hbroken.breaks hbroken.tallied

/-- Whatever a recipe makes, a sink that writes in the usual way with a counter at zero is told the
tables, stores the rows one by one, is flushed and then committed behind those whose number is
divided by the thresholds, and flushed once more at the end. In a run that fails, the counter has
counted the rows that have been stored, all calls before the failure are those of a run that goes on,
and no call follows the failure. -/
theorem batch_cadence (recipe : Recipe) (request : Request) {sink : Sink σ} (husual : sink.Usual)
    (hcounts : sink.CountsRows) {out : σ} {flushEvery commitEvery : Nat}
    (hout : sink.counter? out = some { rows := 0, flushEvery, commitEvery }) :
    let run := recipe.detail request sink out
    let events := run.2.out.events
    let rows := rowsWritten (recipe.transcribe request sink out).2.out.events
    recipe.generate request sink out = (run.1, run.2.out.out) ∧
    (∀ summary, run.1 = .ok summary →
      (∃ stored, List.Forall₂ sink.StoresAs rows stored ∧ events = succeeded
        (.declare recipe.tables :: cadence flushEvery commitEvery stored ++ [.flush])) ∧
      (madeCalls events).countP SinkCall.isFlush = rows.length / flushEvery + 1 ∧
      (madeCalls events).countP SinkCall.isCommit = rows.length / commitEvery ∧
      sink.counter? run.2.out.out = some { rows := rows.length, flushEvery, commitEvery }) ∧
    ∀ error, run.1 = .error error →
      sink.counter? run.2.out.out = some { rows := storedIn events, flushEvery, commitEvery } ∧
      sink.Breaks flushEvery commitEvery recipe.tables rows events ∧
      ∀ before event after, events = before ++ event :: after → ¬ event.Succeeds →
        callsOf after = [] := by
  intro run events rows
  obtain ⟨hresult, hstate, -⟩ := transcribe_detail recipe request husual out
  have hkeeping : Keeping sink flushEvery commitEvery recipe.tables rows run.1 run.2.out :=
    detail_keeping husual hcounts hout
  refine ⟨by rw [generate_eq_transcribe, ← hresult, ← hstate], fun summary hdone => ?_,
    fun error hfailed => ?_⟩
  · rw [hdone] at hkeeping
    cases hkeeping with
    | done summary _ stored hstores hevents htallied =>
        have hlength : stored.length = rows.length := hstores.length_eq.symm
        have hevents : events = succeeded
          (.declare recipe.tables :: cadence flushEvery commitEvery stored ++ [.flush]) := hevents
        have hstored : storedIn events = rows.length := by
          rw [hevents, storedIn_succeeded]
          simp [SinkCall.isStore, countP_store_cadence, hlength]
        refine ⟨⟨stored, hstores, hevents⟩, ?_, ?_, hstored ▸ htallied⟩
        · rw [hevents, madeCalls_succeeded]
          simp [SinkCall.isFlush, countP_flush_cadence, hlength]
        · rw [hevents, madeCalls_succeeded]
          simp [SinkCall.isCommit, countP_commit_cadence, hlength]
  · rw [hfailed] at hkeeping
    cases hkeeping with
    | failed error _ hbreaks htallied =>
        exact ⟨htallied, hbreaks, fun _ _ _ hsplit hfails => hbreaks.stops hsplit hfails⟩

/-- Flushes by twos and commits by threes. -/
def twosAndThrees : BatchCounter := { flushEvery := 2, commitEvery := 3 }

/-- Six rows are flushed by twos and committed by threes. If the fourth one cannot be stored, three
have been counted. -/
theorem batch_cadence_nested :
    ((madeCalls (nested.detail once Sink.memory { batch := twosAndThrees }).2.out.events).countP
        SinkCall.isFlush = 4 ∧
      (madeCalls (nested.detail once Sink.memory { batch := twosAndThrees }).2.out.events).countP
        SinkCall.isCommit = 2) ∧
    (nested.detail once (Sink.journal { failRow := some 4 })
      { batch := some twosAndThrees }).2.out.out.batch = some { twosAndThrees with rows := 3 } := by
  constructor
  · have husual : Sink.memory.Usual := rfl
    have hbatch : Sink.memory.counter? { batch := twosAndThrees } =
        some { rows := 0, flushEvery := 2, commitEvery := 3 } := rfl
    have hsucceeds : (nested.detail once Sink.memory { batch := twosAndThrees }).1.isOk = true := by
      decide +kernel
    have hrows : (rowsWritten (nested.transcribe once Sink.memory
        { batch := twosAndThrees }).2.out.events).length = 6 := by decide +kernel
    obtain ⟨-, hdone, -⟩ := batch_cadence nested once husual Sink.memory_countsRows hbatch
    rw [hrows] at hdone
    generalize nested.detail once Sink.memory { batch := twosAndThrees } = run at hsucceeds hdone ⊢
    obtain ⟨summary, hsummary⟩ := Gives.exists_of_isOk hsucceeds
    obtain ⟨-, hflushes, hcommits, -⟩ := hdone summary hsummary
    exact ⟨hflushes, hcommits⟩
  · have husual : (Sink.journal { failRow := some 4 }).Usual := rfl
    have hbatch : (Sink.journal { failRow := some 4 }).counter? { batch := some twosAndThrees } =
        some { rows := 0, flushEvery := 2, commitEvery := 3 } := rfl
    have hfails : (nested.detail once (Sink.journal { failRow := some 4 })
        { batch := some twosAndThrees }).1.isOk = false := by decide +kernel
    have hstored : storedIn (nested.detail once (Sink.journal { failRow := some 4 })
        { batch := some twosAndThrees }).2.out.events = 3 := by decide +kernel
    obtain ⟨-, -, hfailed⟩ := batch_cadence nested once husual (Sink.journal_countsRows _) hbatch
    rw [hstored] at hfailed
    generalize nested.detail once (Sink.journal { failRow := some 4 })
      { batch := some twosAndThrees } = halted at hfails hfailed ⊢
    cases hresult : halted.1 with
    | ok summary => cases hfails.symm.trans (congrArg Except.isOk hresult)
    | error error => exact (hfailed error hresult).1

end Recipe

end RecordRecipe
