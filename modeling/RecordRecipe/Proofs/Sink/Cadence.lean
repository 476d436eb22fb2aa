import Mathlib.Data.List.Induction
import RecordRecipe.Proofs.Run.Protocol
import RecordRecipe.Proofs.Sink.Writing
import RecordRecipe.Sink.Csv
import RecordRecipe.Sink.Json
import RecordRecipe.Sink.Memory

/-!
# The cadence of flushes and commits

A sink that counts its rows is flushed behind every so many of them, and committed behind every so
many. `cadence` lists the calls that this comes to, and `countP_flush_cadence` and
`countP_commit_cadence` count them. `Sink.Usual.write_plays` says that writing one more row makes the
calls that go with its number, up to the first that fails, and that the counter keeps up with the
rows that have been stored.
-/

namespace RecordRecipe

variable {σ : Type}

/-! ## Calls and rows -/

namespace SinkCall

/-- Is a row to be stored? -/
def isStore : SinkCall → Bool
  | .store _ _ => true
  | .declare _ | .write _ | .flush | .commit | .close => false

def isFlush : SinkCall → Bool
  | .flush => true
  | .declare _ | .write _ | .store _ _ | .commit | .close => false

def isCommit : SinkCall → Bool
  | .commit => true
  | .declare _ | .write _ | .store _ _ | .flush | .close => false

end SinkCall

/-- The calls that are due behind a row, given its number among all rows. Zero divides no number of
a row, and stands for never. -/
def dueBehind (flushEvery commitEvery number : Nat) : List SinkCall :=
  (if flushEvery ∣ number then [.flush] else []) ++
    if commitEvery ∣ number then [.commit] else []

/-- The calls that store some rows, each followed by those that are due behind it. -/
def cadence (flushEvery commitEvery : Nat) (stored : List (String × EncodedRow)) : List SinkCall :=
  (stored.zipIdx 1).flatMap fun entry =>
    .store entry.1.1 entry.1.2 :: dueBehind flushEvery commitEvery entry.2

variable {flushEvery commitEvery : Nat} {stored : List (String × EncodedRow)}

theorem cadence_append_singleton {entry : String × EncodedRow} :
    cadence flushEvery commitEvery (stored ++ [entry]) = cadence flushEvery commitEvery stored ++
      .store entry.1 entry.2 :: dueBehind flushEvery commitEvery (stored.length + 1) := by
  simp [cadence, List.zipIdx_append, Nat.add_comm]

/-- Calls of some kind are counted along the rows. -/
theorem countP_cadence (kind : SinkCall → Bool) (count : Nat → Nat) (hzero : count 0 = 0)
    (hsucc : ∀ table encoded number, count (number + 1) = count number +
      (.store table encoded :: dueBehind flushEvery commitEvery (number + 1)).countP kind) :
    (cadence flushEvery commitEvery stored).countP kind = count stored.length := by
  induction stored using List.reverseRecOn with
  | nil => exact hzero.symm
  | append_singleton stored entry ih =>
      rw [cadence_append_singleton, List.countP_append, ih, List.length_append,
        List.length_singleton, hsucc entry.1 entry.2]

/-- Every row is stored once. -/
theorem countP_store_cadence :
    (cadence flushEvery commitEvery stored).countP SinkCall.isStore = stored.length := by
  have hsucc (table : String) (encoded : EncodedRow) (number : Nat) : number + 1 = number +
      (.store table encoded :: dueBehind flushEvery commitEvery (number + 1)).countP
        SinkCall.isStore := by
    unfold dueBehind
    split_ifs <;> rfl
  exact countP_cadence SinkCall.isStore id rfl hsucc

/-- There is a flush behind every so many rows. -/
theorem countP_flush_cadence :
    (cadence flushEvery commitEvery stored).countP SinkCall.isFlush =
      stored.length / flushEvery := by
  have hsucc (table : String) (encoded : EncodedRow) (number : Nat) :
      (number + 1) / flushEvery = number / flushEvery +
        (.store table encoded :: dueBehind flushEvery commitEvery (number + 1)).countP
          SinkCall.isFlush := by
    rw [Nat.succ_div]
    unfold dueBehind
    split_ifs <;> rfl
  exact countP_cadence SinkCall.isFlush (· / flushEvery) (Nat.zero_div flushEvery) hsucc

/-- There is a commit behind every so many rows. -/
theorem countP_commit_cadence :
    (cadence flushEvery commitEvery stored).countP SinkCall.isCommit =
      stored.length / commitEvery := by
  have hsucc (table : String) (encoded : EncodedRow) (number : Nat) :
      (number + 1) / commitEvery = number / commitEvery +
        (.store table encoded :: dueBehind flushEvery commitEvery (number + 1)).countP
          SinkCall.isCommit := by
    rw [Nat.succ_div]
    unfold dueBehind
    split_ifs <;> rfl
  exact countP_cadence SinkCall.isCommit (· / commitEvery) (Nat.zero_div commitEvery) hsucc

/-- How many rows have been stored without a failure. -/
def storedIn (events : List Event) : Nat :=
  (callsOf events).countP fun entry => entry.1.isStore && entry.2.isOk

@[simp] theorem storedIn_append {events more : List Event} :
    storedIn (events ++ more) = storedIn events + storedIn more := by
  rw [storedIn, callsOf_append, List.countP_append]
  rfl

@[simp] theorem storedIn_succeeded {calls : List SinkCall} :
    storedIn (succeeded calls) = calls.countP SinkCall.isStore := by
  rw [storedIn, callsOf_succeeded, List.countP_map]
  refine List.countP_congr fun made _ => ?_
  simp [Except.isOk, Except.toBool]

theorem storedIn_call {made : SinkCall} {answer : Except Error Unit} :
    storedIn [.call made answer] = if made.isStore && answer.isOk then 1 else 0 := by
  rw [storedIn, callsOf_call, List.countP_cons]
  exact Nat.zero_add _

/-! ## Counters -/

/-- A threshold is reached by the number of a row if it divides it. -/
theorem BatchCounter.reached_succ {threshold rows : Nat} :
    reached threshold (rows + 1) = decide (threshold ∣ rows + 1) := by
  unfold reached
  cases threshold with
  | zero => simp
  | succ threshold => simp [Nat.dvd_iff_mod_eq_zero]

namespace Sink

variable {sink : Sink σ}

/-- The sink counts its rows where it writes them, and leaves the counter alone everywhere else. -/
structure CountsRows (sink : Sink σ) : Prop where
  set : ∀ counter out, sink.counter? (sink.setCounter counter out) = some counter
  declare : ∀ tables out, sink.counter? (sink.declare tables out).2 = sink.counter? out
  store : ∀ table encoded out, sink.counter? (sink.store table encoded out).2 = sink.counter? out
  flush : ∀ out, sink.counter? (sink.flush out).2 = sink.counter? out
  commit : ∀ out, sink.counter? (sink.commit out).2 = sink.counter? out

theorem memory_countsRows : memory.CountsRows where
  set := fun _ _ => rfl
  declare := fun _ _ => rfl
  store := fun _ _ _ => rfl
  flush := fun _ => rfl
  commit := fun _ => rfl

theorem json_countsRows : json.CountsRows where
  set := fun _ _ => rfl
  declare := fun _ _ => rfl
  store := fun _ _ _ => rfl
  flush := fun _ => rfl
  commit := fun _ => rfl

theorem journal_countsRows (plan : JournalPlan) : (journal plan).CountsRows where
  set := fun _ _ => rfl
  declare := fun _ _ => rfl
  store := fun table encoded out => by
    change (plan.store table encoded out).2.batch = out.batch
    unfold JournalPlan.store
    simp only [Action.bind_apply, Action.modify_apply, Action.get_apply]
    split_ifs <;> rfl
  flush := fun out => by
    unfold journal
    dsimp only
    split_ifs <;> rfl
  commit := fun _ => rfl

/-- The files of tables are started without a look at the counter. -/
theorem batch_startAll (tables : Tables) (out : CsvFolder) :
    (startAll tables out).2.batch = out.batch := by
  induction tables generalizing out with
  | nil => rfl
  | cons table rest ih =>
      obtain ⟨name, fields⟩ := table
      unfold startAll
      cases hstart : out.start name fields with
      | error refusal => rfl
      | ok started =>
          have hbatch : started.batch = out.batch := by
            unfold CsvFolder.start at hstart
            split at hstart
            · cases hstart
            · obtain rfl := Except.ok.inj hstart
              rfl
          exact (ih started).trans hbatch

theorem csv_countsRows : csv.CountsRows where
  set := fun _ _ => rfl
  declare := fun tables out => by
    change some (declareCsv tables out).2.batch = some out.batch
    unfold declareCsv
    cases out.files.makeFolders out.path with
    | error refusal => rfl
    | ok files => exact congrArg some (batch_startAll tables { out with files })
  store := fun table encoded out => by
    change some (storeCsv table encoded out).2.batch = some out.batch
    unfold storeCsv
    split <;> rfl
  flush := fun _ => rfl
  commit := fun _ => rfl

/-- The counter has counted the rows that have been stored. -/
def Tallied (sink : Sink σ) (flushEvery commitEvery : Nat) (state : Transcribed σ) : Prop :=
  sink.counter? state.out = some { rows := storedIn state.events, flushEvery, commitEvery }

/-- A row, and what is stored of it under its table. -/
def StoresAs (sink : Sink σ) (row : Row) (entry : String × EncodedRow) : Prop :=
  entry.1 = row.table ∧ row.encode sink.name sink.encoders = .ok entry.2

end Sink

/-! ## Scripts -/

/-- A part of a run makes the calls of a script, all of them or those up to the first that fails.
Something holds of the state behind it. -/
inductive Plays (P : Transcribed σ → Prop) (script : List SinkCall) (before : Transcribed σ) :
    Except Error Unit × Transcribed σ → Prop where
  | done (after : Transcribed σ) (hevents : after.events = before.events ++ succeeded script)
      (hafter : P after) : Plays P script before (.ok (), after)
  | refused (error : Error) (after : Transcribed σ) (calls : List SinkCall) (made : SinkCall)
      (fault : Error) (hscript : calls ++ [made] <+: script)
      (hevents : after.events = before.events ++ succeeded calls ++ [.call made (.error fault)])
      (hafter : P after) : Plays P script before (.error error, after)

namespace Plays

variable {P : Transcribed σ → Prop} {script more : List SinkCall} {before : Transcribed σ}

/-- A call is made. -/
theorem call {action : Action σ Unit} {made : SinkCall}
    (hafter : P (Transcribed.call made action before).2) :
    Plays P [made] before (Transcribed.call made action before) := by
  unfold Transcribed.call at hafter ⊢
  generalize action before.out = run at hafter ⊢
  obtain ⟨answer, out⟩ := run
  cases answer with
  | ok => exact .done _ rfl hafter
  | error error => exact .refused error _ [] made error List.prefix_rfl (by simp [succeeded]) hafter

/-- Calls that have been made come before those that are made then. -/
theorem behind {middle : Transcribed σ} {run : Except Error Unit × Transcribed σ}
    (hmade : middle.events = before.events ++ succeeded script) (h : Plays P more middle run) :
    Plays P (script ++ more) before run := by
  cases h with
  | done after hevents hafter =>
      exact .done after (by rw [hevents, hmade, succeeded_append, List.append_assoc]) hafter
  | refused error after calls made fault hscript hevents hafter =>
      refine .refused error after (script ++ calls) made fault ?_ ?_ hafter
      · rw [List.append_assoc]
        exact (List.prefix_append_right_inj script).mpr hscript
      · simp [hevents, hmade, succeeded_append]

/-- The calls of one part come before those of the next. -/
theorem andThen {first next : Action (Transcribed σ) Unit}
    (hfirst : Plays P script before (first before))
    (hnext : ∀ middle, P middle → Plays P more middle (next middle)) :
    Plays P (script ++ more) before ((first >>= fun _ => next) before) := by
  rw [Action.bind_apply]
  generalize first before = run at hfirst ⊢
  cases hfirst with
  | done middle hevents hmiddle => exact (hnext middle hmiddle).behind hevents
  | refused error after calls made fault hscript hevents hafter =>
      exact .refused error after calls made fault (hscript.trans (List.prefix_append _ _)) hevents
        hafter

/-- A step that is taken on a condition makes its calls under that condition. -/
theorem when {action : Action (Transcribed σ) Unit} {due : Bool} {condition : Prop}
    [Decidable condition] (hdue : due = decide condition) (hbefore : P before)
    (h : Plays P script before (action before)) :
    Plays P (if condition then script else []) before (Action.when due action before) := by
  subst hdue
  unfold Action.when
  by_cases hcondition : condition
  · simpa [hcondition] using h
  · simpa [hcondition] using .done before (List.append_nil _).symm hbefore

end Plays

/-! ## Rows -/

namespace Sink

variable {sink : Sink σ} {state : Transcribed σ}

/-- A call that stores nothing and leaves the counter alone leaves the tally as it is. -/
theorem Tallied.call (h : sink.Tallied flushEvery commitEvery state) {action : Action σ Unit}
    {made : SinkCall} (hmade : made.isStore = false)
    (hcounter : ∀ out, sink.counter? (action out).2 = sink.counter? out) :
    sink.Tallied flushEvery commitEvery (Transcribed.call made action state).2 := by
  have hstored : storedIn (Transcribed.call made action state).2.events =
      storedIn state.events := by
    change storedIn (state.events ++ [.call made _]) = _
    simp [storedIn, callsOf, Event.call?, hmade]
  unfold Tallied
  rw [hstored]
  exact (hcounter state.out).trans h

/-- A row that has been stored is counted, and the flush and the commit that are due are made. -/
theorem countRow_plays (hcounts : sink.CountsRows) {rows : Nat}
    (hcounter : sink.counter? state.out = some { rows, flushEvery, commitEvery })
    (hstored : storedIn state.events = rows + 1) :
    Plays (sink.Tallied flushEvery commitEvery) (dueBehind flushEvery commitEvery (rows + 1)) state
      (sink.transcribed.usual.countRow state) := by
  let counted : BatchCounter := { rows := rows + 1, flushEvery, commitEvery }
  let middle : Transcribed σ := { state with out := sink.setCounter counted state.out }
  have hmiddle : sink.Tallied flushEvery commitEvery middle := by
    unfold Tallied
    rw [show storedIn middle.events = rows + 1 from hstored]
    exact hcounts.set counted state.out
  have hcount : sink.transcribed.usual.countRow state =
      (Action.when counted.flushDue sink.transcribed.flush >>= fun _ =>
        Action.when counted.commitDue sink.transcribed.commit) middle := by
    have hfound : sink.transcribed.usual.counter? state = some { rows, flushEvery, commitEvery } :=
      hcounter
    unfold countRow
    rw [Action.bind_apply, Action.get_apply]
    dsimp only
    rw [hfound]
    rfl
  rw [hcount]
  have hflush : Plays (sink.Tallied flushEvery commitEvery)
      (if flushEvery ∣ rows + 1 then [.flush] else []) middle
      (Action.when counted.flushDue sink.transcribed.flush middle) :=
    .when BatchCounter.reached_succ hmiddle (.call (hmiddle.call rfl hcounts.flush))
  have hcommit (later : Transcribed σ) (hlater : sink.Tallied flushEvery commitEvery later) :
      Plays (sink.Tallied flushEvery commitEvery)
        (if commitEvery ∣ rows + 1 then [.commit] else []) later
        (Action.when counted.commitDue sink.transcribed.commit later) :=
    .when BatchCounter.reached_succ hlater (.call (hlater.call rfl hcounts.commit))
  have hmade : middle.events = state.events ++ succeeded [] := (List.append_nil _).symm
  change Plays _ ([] ++ dueBehind flushEvery commitEvery (rows + 1)) state _
  exact (hflush.andThen hcommit).behind hmade

/-- A row that can be encoded is stored, and the calls that are due behind it are made, up to the
first that fails. A row that cannot be encoded changes nothing. -/
theorem Tallied.write (h : sink.Tallied flushEvery commitEvery state) (hcounts : sink.CountsRows)
    (row : Row) :
    (∃ error, row.encode sink.name sink.encoders = .error error ∧
      sink.transcribed.usual.write row state = (.error error, state)) ∨
    ∃ entry, sink.StoresAs row entry ∧ Plays (sink.Tallied flushEvery commitEvery)
      (.store entry.1 entry.2 :: dueBehind flushEvery commitEvery (storedIn state.events + 1)) state
      (sink.transcribed.usual.write row state) := by
  have husual : sink.transcribed.usual.Usual := rfl
  cases hencode : row.encode sink.name sink.encoders with
  | error error => exact .inl ⟨error, rfl, husual.write_of_encode_error hencode state⟩
  | ok encoded =>
      refine .inr ⟨(row.table, encoded), ⟨rfl, hencode⟩, ?_⟩
      have hwrite : sink.transcribed.usual.write row state =
          (Transcribed.call (.store row.table encoded) (sink.store row.table encoded) >>= fun _ =>
            sink.transcribed.usual.countRow) state := by
        rw [husual.write_eq]
        change (Action.lift (row.encode sink.name sink.encoders) >>= _ :
          Action (Transcribed σ) Unit) state = _
        rw [hencode]
        rfl
      have hcounter : sink.counter? (sink.store row.table encoded state.out).2 =
          some { rows := storedIn state.events, flushEvery, commitEvery } :=
        (hcounts.store row.table encoded state.out).trans h
      rw [hwrite, Action.bind_apply]
      unfold Transcribed.call
      generalize sink.store row.table encoded state.out = run at hcounter ⊢
      obtain ⟨answer, out⟩ := run
      cases answer with
      | error error =>
          refine .refused error _ [] (.store row.table encoded) error ?_ (by simp [succeeded]) ?_
          · exact List.prefix_append [_] _
          · rw [Tallied, storedIn_append, storedIn_call]
            exact hcounter
      | ok =>
          -- The row is stored, but not yet counted.
          let middle : Transcribed σ :=
            ⟨out, state.events ++ [.call (.store row.table encoded) (.ok ())]⟩
          have hstored : storedIn middle.events = storedIn state.events + 1 := by
            rw [storedIn_append, storedIn_call]
            rfl
          have hrest : Plays (sink.Tallied flushEvery commitEvery)
              (dueBehind flushEvery commitEvery (storedIn state.events + 1)) middle
              (sink.transcribed.usual.countRow middle) := countRow_plays hcounts hcounter hstored
          have hmade : middle.events = state.events ++ succeeded [.store row.table encoded] := rfl
          exact hrest.behind hmade

end Sink

end RecordRecipe
