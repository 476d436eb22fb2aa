import RecordRecipe.Proofs.Recipe.Tables
import RecordRecipe.Proofs.Run.Fields
import RecordRecipe.Proofs.Run.Reference

/-!
# Rows as they are stored

A sink that writes in the usual way stores the id of a row under `id`, and after that the written
fields, references being flattened to ids. `Sink.recording` is such a sink with a copy of all that
it has stored. A field named `id` takes the place of the id, so that a reference may lead nowhere,
or to another row; `references_resolve_iff` says exactly when it does not.
-/

namespace RecordRecipe

variable {σ : Type}

namespace Sink

/-- The sink writes in the usual way. -/
def Usual (sink : Sink σ) : Prop :=
  sink.write = encodeAndStore sink.name sink.encoders sink.counter? sink.setCounter sink.store
    sink.flush sink.commit

/-- Do something with the sink's own part of the state. -/
def onOwn {τ α : Type} (action : Action σ α) : Action (σ × τ) α :=
  Action.onPart Prod.fst (fun own state => (own, state.2)) action

/-- The sink, writing in the usual way, with a copy of all that it stores. -/
def recording (sink : Sink σ) : Sink (σ × List (String × EncodedRow)) where
  name := sink.name
  encoders := sink.encoders
  declare := fun tables => onOwn (sink.declare tables)
  counter? := fun state => sink.counter? state.1
  setCounter := fun counter state => (sink.setCounter counter state.1, state.2)
  store := fun table encoded => do
    Action.modify fun state => (state.1, state.2 ++ [(table, encoded)])
    onOwn (sink.store table encoded)
  flush := onOwn sink.flush
  commit := onOwn sink.commit
  close := onOwn sink.close

/-- Count a row that has been stored, and flush and commit if that is due. -/
def countRow (sink : Sink σ) : Action σ Unit := do
  let state ← Action.get
  match sink.counter? state with
  | none => pure ()
  | some counter =>
      let counted := counter.record
      Action.modify (sink.setCounter counted)
      Action.when counted.flushDue sink.flush
      Action.when counted.commitDue sink.commit

/-- A row is encoded, then stored, then counted. -/
theorem Usual.write_eq {sink : Sink σ} (h : sink.Usual) (row : Row) :
    sink.write row = Action.lift (row.encode sink.name sink.encoders) >>= fun encoded =>
      sink.store row.table encoded >>= fun _ => sink.countRow := by
  rw [h]
  rfl

/-- Sinks that write in the usual way write alike if all that they write with is alike. -/
theorem Usual.mirrors {τ : Type} {view : τ → σ} {sink : Sink σ} {larger : Sink τ} (h : sink.Usual)
    (hlarger : larger.Usual) (hname : larger.name = sink.name)
    (hencoders : larger.encoders = sink.encoders)
    (hcounter : ∀ state, larger.counter? state = sink.counter? (view state))
    (hset : ∀ counter state,
      view (larger.setCounter counter state) = sink.setCounter counter (view state))
    (hstore : ∀ table encoded,
      Action.Mirrors view (sink.store table encoded) (larger.store table encoded))
    (hflush : Action.Mirrors view sink.flush larger.flush)
    (hcommit : Action.Mirrors view sink.commit larger.commit) (row : Row) :
    Action.Mirrors view (sink.write row) (larger.write row) := by
  have hwhen {due : Bool} {first : Action σ Unit} {second : Action τ Unit}
      (hmirrors : Action.Mirrors view first second) :
      Action.Mirrors view (Action.when due first) (Action.when due second) := by
    cases due with
    | true => exact hmirrors
    | false => exact fun _ => rfl
  rw [h.write_eq, hlarger.write_eq, hname, hencoders]
  refine .bind (fun _ => rfl) fun encoded => .bind (hstore row.table encoded) fun _ state => ?_
  unfold countRow
  rw [Action.bind_apply, Action.bind_apply, Action.get_apply, Action.get_apply]
  dsimp only
  rw [hcounter]
  cases sink.counter? (view state) with
  | none => rfl
  | some counter =>
      refine Action.Mirrors.bind ?_ (fun _ => Action.Mirrors.bind (hwhen hflush) fun _ =>
        hwhen hcommit) state
      exact fun state => Prod.ext rfl (hset counter.record state).symm

/-- A copy of what is stored changes nothing about the usual way of writing. -/
theorem recording_mirrors {sink : Sink σ} (h : sink.Usual) (row : Row) :
    Action.Mirrors Prod.fst (sink.write row) (sink.recording.write row) := by
  have hrecording : sink.recording.Usual := rfl
  exact h.mirrors hrecording rfl rfl (fun _ => rfl) (fun _ _ => rfl) (fun _ _ _ => rfl)
    (fun _ => rfl) (fun _ => rfl) row

end Sink

/-- A run ends as it does with a copy of what is stored beside the sink. -/
theorem generate_eq_recording (recipe : Recipe) (request : Request) {sink : Sink σ}
    (h : sink.Usual) (out : σ) :
    recipe.generate request sink out =
      ((recipe.generate request sink.recording (out, [])).1,
        (recipe.generate request sink.recording (out, [])).2.1) := by
  refine Recipe.generate_mirrors Prod.fst ?_ ?_ ?_ ?_ recipe request (out, [])
  · exact fun _ _ => rfl
  · exact fun _ row => Action.Mirrors.write (Sink.recording_mirrors h) row
  · exact fun _ _ => rfl
  · exact fun _ => rfl

/-- A row as it is stored where every kind is stored as it is. -/
def Row.stored (row : Row) : EncodedRow :=
  Assoc.putAll ((row.fields.filter fun field => !isHidden field.1).map fun field =>
    (field.1, field.2.flatten)) [("id", .ofInt row.id)]

/-- Where every kind is stored as it is, every value can be stored. -/
theorem FieldValue.encode_plain (sink : String) (value : FieldValue) :
    value.encode sink .plain = .ok value.flatten := by
  cases value <;> rfl

/-- Where every value can be encoded, the fields that are not hidden are put one by one. -/
theorem encodeFields_of_total {sink : String} {encoders : EncoderTable}
    {change : FieldValue → FieldValue}
    (h : ∀ value : FieldValue, value.encode sink encoders = .ok (change value))
    (fields : Assoc FieldValue) (encoded : EncodedRow) :
    encodeFields sink encoders fields encoded =
      .ok (Assoc.putAll ((fields.filter fun field => !isHidden field.1).map fun field =>
        (field.1, change field.2)) encoded) := by
  induction fields generalizing encoded with
  | nil => rfl
  | cons first rest ih =>
      obtain ⟨name, value⟩ := first
      rw [encodeFields, h]
      dsimp only
      cases hhidden : isHidden name with
      | true => simpa [hhidden] using ih encoded
      | false => simpa [hhidden, Assoc.putAll] using ih (encoded.put name (change value))

/-- Where every kind is stored as it is, every row can be stored. -/
theorem Row.encode_plain (sink : String) (row : Row) :
    row.encode sink .plain = .ok row.stored := by
  unfold Row.encode
  rw [FieldValue.encode_plain]
  exact encodeFields_of_total (FieldValue.encode_plain sink) row.fields _

/-- A computation leaves the copies of what has been stored alone. -/
def Action.Untouching {τ α : Type} (action : Action (σ × τ) α) : Prop :=
  ∀ state, (action state).2.2 = state.2

/-- A sequence leaves alone what its parts leave alone. -/
theorem Action.Untouching.bind {τ α β : Type} {first : Action (σ × τ) α}
    {next : α → Action (σ × τ) β} (hfirst : first.Untouching) (hnext : ∀ a, (next a).Untouching) :
    (first >>= next).Untouching := by
  intro state
  rw [Action.bind_apply]
  have hmiddle := hfirst state
  generalize first state = run at hmiddle ⊢
  obtain ⟨result, middle⟩ := run
  cases result with
  | ok a => exact (hnext a middle).trans hmiddle
  | error error => exact hmiddle

namespace Sink

variable {sink : Sink σ}

/-- Counting a row stores nothing. -/
theorem recording_countRow : Action.Untouching sink.recording.countRow := by
  have hwhen {due : Bool} {action : Action σ Unit} :
      Action.Untouching
        (Action.when due (onOwn action : Action (σ × List (String × EncodedRow)) Unit)) := by
    cases due <;> exact fun _ => rfl
  unfold countRow
  refine .bind (fun _ => rfl) fun state => ?_
  cases sink.recording.counter? state with
  | none => exact fun _ => rfl
  | some counter => exact .bind (fun _ => rfl) fun _ => .bind hwhen fun _ => hwhen

/-- A row that is written is stored. -/
theorem recording_write (hencoders : sink.encoders = .plain) {row : Row}
    {before after : σ × List (String × EncodedRow)}
    (h : sink.recording.write row before = (.ok (), after)) :
    after.2 = before.2 ++ [(row.table, row.stored)] := by
  obtain ⟨encoded, _, hencode, h⟩ := Action.bind_eq_ok h
  obtain ⟨hencoded, rfl⟩ := Prod.mk.inj hencode
  have hplain : row.encode sink.name .plain = .ok encoded := by rwa [← hencoders]
  rw [Row.encode_plain] at hplain
  obtain rfl := Except.ok.inj hplain
  -- The copy is made before the sink's own store may fail, and nothing behind it makes another.
  obtain ⟨_, middle, hstore, h⟩ := Action.bind_eq_ok h
  obtain ⟨_, copied, hcopy, hstore⟩ := Action.bind_eq_ok hstore
  obtain ⟨_, rfl⟩ := Prod.mk.inj hcopy
  have hafter : after.2 = middle.2 :=
    (congrArg (fun run => run.2.2) h).symm.trans (recording_countRow middle)
  rw [hafter]
  exact congrArg (fun run => run.2.2) hstore.symm

/-- All rows that have been taken have been stored. -/
theorem recording_takes (hencoders : sink.encoders = .plain) {rows : List Row}
    {before after : σ × List (String × EncodedRow)}
    (h : sink.recording.Takes rows before after) :
    after.2 = before.2 ++ rows.map fun row => (row.table, row.stored) := by
  induction h with
  | none => simp
  | write _ hwrite ih =>
      rw [recording_write hencoders hwrite, ih]
      simp
  | flush _ hflush ih =>
      rw [← ih]
      exact (congrArg (fun run => run.2.2) hflush).symm

end Sink

/-- What stands in a row under the name of a field that sinks see, once the fields that are not hidden
have been put. -/
theorem find?_putAll_visible {fields : Assoc FieldValue} (hkeys : fields.keys.Nodup)
    (change : FieldValue → FieldValue) (encoded : EncodedRow) {name : String}
    (hvisible : isHidden name = false) :
    Assoc.find? name (Assoc.putAll ((fields.filter fun field => !isHidden field.1).map fun field =>
        (field.1, change field.2)) encoded) =
      ((fields.find? name).map change).or (Assoc.find? name encoded) := by
  have hfound : Assoc.find? name ((fields.filter fun field => !isHidden field.1).map
      fun field => (field.1, change field.2)) = (fields.find? name).map change := by
    have hkept : (!isHidden name) = true := by simp [hvisible]
    rw [Assoc.find?_map, Assoc.find?_filter (fun key => !isHidden key) hkept]
  rw [← hfound]
  refine Assoc.find?_putAll ?_
  have hsublist : (Assoc.keys ((fields.filter fun field => !isHidden field.1).map
      fun field => (field.1, change field.2))).Sublist fields.keys := by
    simpa [Assoc.keys, Function.comp_def] using List.filter_sublist.map Prod.fst
  exact hkeys.sublist hsublist

/-- What stands in a stored row under the name of a field that sinks see. -/
theorem Row.find?_stored (row : Row) (hkeys : row.fields.keys.Nodup) {name : String}
    (hvisible : isHidden name = false) :
    row.stored.find? name = ((row.fields.find? name).map FieldValue.flatten).or
      (Assoc.find? name [("id", .ofInt row.id)]) :=
  find?_putAll_visible hkeys FieldValue.flatten _ hvisible

/-- The integer under `id` in a stored row. -/
def EncodedRow.id? (encoded : EncodedRow) : Option Int64 :=
  match encoded.find? "id" with
  | some (.int n) => some n
  | _ => none

/-- The rows of a table that have been stored with some id. -/
def Logged.storedUnder (log : Logged σ) (table : String) (id : Int64) : List RowRef :=
  (log.handed.filter fun handing =>
    handing.row.table = table ∧ handing.written.stored.id? = some id).map Handing.row

/-- A row without a field `id` is stored with its own id. -/
theorem Row.id?_stored_of_none (row : Row) (hkeys : row.fields.keys.Nodup)
    (hnone : row.fields.find? "id" = none) : row.stored.id? = some (Int64.ofInt row.id) := by
  unfold EncodedRow.id?
  rw [row.find?_stored hkeys (by decide), hnone]
  rfl

/-- A row with a field `id` is stored with what that field holds. -/
theorem Row.id?_stored_of_some (row : Row) (hkeys : row.fields.keys.Nodup) {value : FieldValue}
    (hsome : row.fields.find? "id" = some value) {n : Int64} :
    row.stored.id? = some n ↔ value.flatten = .int n := by
  unfold EncodedRow.id?
  rw [row.find?_stored hkeys (by decide), hsome, Option.map_some, Option.some_or]
  cases value.flatten <;> simp

/-- Ids that fit into 64 bits are told apart by their integers. -/
theorem ofInt_id_inj {id other : Nat} (hid : id < UInt64.size) (hother : other < UInt64.size) :
    Int64.ofInt id = Int64.ofInt other ↔ id = other := by
  refine ⟨fun heq => ?_, fun heq => by rw [heq]⟩
  have hmod := congrArg Int64.toInt heq
  rw [Int64.toInt_ofInt, Int64.toInt_ofInt] at hmod
  unfold Int.bmod at hmod
  simp only [Int64.size, UInt64.size] at hmod hid hother
  omega

namespace Ledger

variable {target : RowRef}

/-- Rows that have been handed over are told apart as rows. -/
theorem eq_of_row_eq {progress : Progress σ} (h : Ledger progress) {handing other : Handing}
    (hhanding : handing ∈ progress.machine.out.handed)
    (hother : other ∈ progress.machine.out.handed) (hrow : handing.row = other.row) :
    handing = other :=
  List.inj_on_of_nodup_map h.nodup_handed hhanding hother hrow

/-- A row without a field `id` is stored under the id of a row of its table only if it is that
row. -/
theorem id?_stored_iff_of_none {progress : Progress σ} (h : Ledger progress)
    (hids : ∀ table, progress.machine.registry.ids.value table < UInt64.size) {handing : Handing}
    (hhanding : handing ∈ progress.machine.out.handed)
    (htarget : target ∈ progress.machine.out.handedRows) (htable : handing.row.table = target.table)
    (hkeys : handing.fields.keys.Nodup) (hnone : handing.fields.find? "id" = none) :
    handing.written.stored.id? = some (Int64.ofInt target.id) ↔ handing.row = target := by
  have hrow := h.handed_subset (List.mem_map_of_mem hhanding)
  have htarget := h.handed_subset htarget
  have hid : handing.row.id < UInt64.size := Nat.lt_of_le_of_lt (h.id_mem hrow).2 (hids _)
  have htargetId : target.id < UInt64.size := Nat.lt_of_le_of_lt (h.id_mem htarget).2 (hids _)
  rw [handing.written.id?_stored_of_none hkeys hnone, Option.some_inj]
  refine (ofInt_id_inj hid htargetId).trans ⟨fun heq => ?_, fun heq => by rw [heq]⟩
  exact h.id_injective hrow htarget htable heq

/-- A row is the only one of its table that is stored with its id exactly if it is told by the
stored id from all rows of its table. -/
theorem storedUnder_eq_singleton_iff_stored {progress : Progress σ} (h : Ledger progress)
    (htarget : target ∈ progress.machine.out.handedRows) {id : Int64} :
    progress.machine.out.storedUnder target.table id = [target] ↔
      ∀ handing ∈ progress.machine.out.handed, handing.row.table = target.table →
        (handing.written.stored.id? = some id ↔ handing.row = target) := by
  constructor
  · intro honly handing hhanding htable
    -- Being the only one stored says of every row whether it is the target.
    have hmem : ∀ row, row = target ↔ ∃ other ∈ progress.machine.out.handed,
        (other.row.table = target.table ∧ other.written.stored.id? = some id) ∧
          other.row = row := by
      intro row
      rw [← List.mem_singleton, ← honly, Logged.storedUnder, List.mem_map]
      simp only [List.mem_filter, decide_eq_true_eq, and_assoc]
    constructor
    · intro hid
      exact (hmem handing.row).mpr ⟨handing, hhanding, ⟨htable, hid⟩, rfl⟩
    · intro hrow
      obtain ⟨other, hother, ⟨_, hid⟩, hsame⟩ := (hmem target).mp rfl
      obtain rfl := h.eq_of_row_eq hhanding hother (hrow.trans hsame.symm)
      exact hid
  · intro hsame
    have hchosen : progress.machine.out.handed.filter (fun handing =>
          handing.row.table = target.table ∧ handing.written.stored.id? = some id) =
        progress.machine.out.handed.filter (fun handing => handing.row = target) := by
      refine List.filter_congr fun handing hhanding => decide_eq_decide.mpr ⟨?_, fun hrow => ?_⟩
      · rintro ⟨htable, hid⟩
        exact (hsame handing hhanding htable).mp hid
      · have htable : handing.row.table = target.table := by rw [hrow]
        exact ⟨htable, (hsame handing hhanding htable).mpr hrow⟩
    have honly : progress.machine.out.handedRows.filter (fun row => row = target) = [target] := by
      rw [List.filter_eq, List.count_eq_one_of_mem h.nodup_handed htarget]
      rfl
    rw [Logged.handedRows, List.filter_map] at honly
    rw [Logged.storedUnder, hchosen]
    exact honly

/-- A row is the only one of its table that is stored with its id exactly if the fields `id` of the
table hold that id in this row, should it have such a field, and in no other. -/
theorem storedUnder_eq_singleton_iff {progress : Progress σ} (h : Ledger progress)
    (hkeys : ∀ handing ∈ progress.machine.out.handed, handing.fields.keys.Nodup)
    (hids : ∀ table, progress.machine.registry.ids.value table < UInt64.size)
    (htarget : target ∈ progress.machine.out.handedRows) :
    progress.machine.out.storedUnder target.table (Int64.ofInt target.id) = [target] ↔
      ∀ handing ∈ progress.machine.out.handed, handing.row.table = target.table →
        ∀ value, handing.fields.find? "id" = some value →
          (value.flatten = .ofInt target.id ↔ handing.row = target) := by
  rw [h.storedUnder_eq_singleton_iff_stored htarget]
  refine forall_congr' fun handing => forall_congr' fun hhanding => forall_congr' fun htable => ?_
  have hnodup := hkeys handing hhanding
  cases hfound : handing.fields.find? "id" with
  | none =>
      -- Without a field `id` a row is stored with its own id, which no other of its table has.
      refine iff_of_true ?_ (by simp)
      exact h.id?_stored_iff_of_none hids hhanding htarget htable hnodup hfound
  | some value =>
      have hstored : handing.written.stored.id? = some (Int64.ofInt target.id) ↔
          value.flatten = .ofInt target.id := handing.written.id?_stored_of_some hnodup hfound
      rw [hstored]
      simp

end Ledger

/-- A row that has been handed over has no field that sinks see and that its table does not list. -/
theorem Settled.find?_eq_none {tables : Tables} {progress : Progress σ}
    (h : Settled (Rules.listed tables) progress) {handing : Handing}
    (hhanding : handing ∈ progress.machine.out.handed) {name : String}
    (hvisible : isHidden name = false) (hfields : ¬ tables.Lists handing.row.table name) :
    handing.fields.find? name = none := by
  refine Assoc.find?_eq_none fun hname => ?_
  rw [h.final handing hhanding] at hname
  have hstarted := h.ledger.handed_subset (List.mem_map_of_mem hhanding)
  obtain hhidden | hlisted := h.names handing.row hstarted name hname
  · rw [hvisible] at hhidden
    cases hhidden
  · exact hfields hlisted

namespace Recipe

variable {recipe : Recipe} {request : Request} {sink : Sink σ} {out : σ} {summary : Summary}

/-- What a run that succeeds has stored are the rows that it has handed over. -/
theorem recorded_eq (hencoders : sink.encoders = .plain)
    (hdone : (recipe.generate request sink.recording (out, [])).1 = .ok summary) :
    (recipe.generate request sink.recording (out, [])).2.2 =
      (recipe.observe request sink.recording (out, [])).2.out.handed.map fun handing =>
        (handing.row.table, handing.written.stored) := by
  obtain ⟨declared, hdeclare, htakes⟩ := generate_takes hdone
  have hempty : [] = declared.2 := congrArg (fun run => run.2.2) hdeclare
  rw [Sink.recording_takes hencoders htakes, ← hempty, List.nil_append, List.map_map]
  rfl

/-- A reference in a field that sinks see is stored as the id of what it references. -/
theorem stored_reference {handing : Handing} (hkeys : handing.fields.keys.Nodup)
    {reference : String × RowRef} (hreference : reference ∈ references handing.fields)
    (hvisible : isHidden reference.1 = false) :
    handing.written.stored.find? reference.1 = some (.ofInt reference.2.id) := by
  have hfound : Assoc.find? reference.1 handing.fields = some (.row reference.2) :=
    Assoc.find?_of_mem hkeys (mem_references.mp hreference)
  rw [handing.written.find?_stored hkeys hvisible]
  simp [Handing.written, hfound, FieldValue.flatten]

/-- Where no template has a field `id`, a reference in a field that sinks see leads to exactly one
row that is stored, which is the one that is referenced. -/
theorem references_resolve (hrecipe : recipe.Plain) (hrequest : request.Plain)
    (hdone : (recipe.generate request sink.recording (out, [])).1 = .ok summary)
    (hids : ∀ table, (recipe.observe request sink.recording (out, [])).2.registry.ids.value table <
      UInt64.size)
    (hfields : ∀ table, ¬ recipe.tables.Lists table "id") {handing : Handing}
    (hhanding : handing ∈ (recipe.observe request sink.recording (out, [])).2.out.handed)
    {reference : String × RowRef} (hreference : reference ∈ references handing.fields) :
    (recipe.observe request sink.recording (out, [])).2.out.storedUnder reference.2.table
      (Int64.ofInt reference.2.id) = [reference.2] := by
  rw [generate_eq_observe] at hdone
  have hkeeps := listed_keeps hrecipe hrequest
  have hsettled := settled_of_done hkeeps hdone
  have hwithin := Simulation.steps_within (Progress.first_within _ _) (observe_steps hkeeps hdone)
  have htarget := hsettled.handed_of_reference hwithin hhanding hreference
  refine (hsettled.ledger.storedUnder_eq_singleton_iff (fun _ => hsettled.nodup_keys) hids
    htarget).mpr fun other hother _ value hvalue => ?_
  rw [hsettled.find?_eq_none hother (by decide) (hfields _)] at hvalue
  cases hvalue

/-- What a run that succeeds has stored are the rows that it has handed over. A reference in a field
that sinks see is stored as the id of what it references. Exactly one row of that table is stored
with this id, and it is the one that is referenced, if and only if of the fields `id` of that table
none holds this id but that of this row, should it have one, which has to. -/
theorem references_resolve_iff (hrecipe : recipe.Plain) (hrequest : request.Plain)
    (hencoders : sink.encoders = .plain)
    (hdone : (recipe.generate request sink.recording (out, [])).1 = .ok summary)
    (hids : ∀ table, (recipe.observe request sink.recording (out, [])).2.registry.ids.value table <
      UInt64.size) :
    (recipe.generate request sink.recording (out, [])).2.2 =
      ((recipe.observe request sink.recording (out, [])).2.out.handed.map fun handing =>
        (handing.row.table, handing.written.stored)) ∧
    ∀ handing ∈ (recipe.observe request sink.recording (out, [])).2.out.handed,
      ∀ reference ∈ references handing.fields, isHidden reference.1 = false →
        handing.written.stored.find? reference.1 = some (.ofInt reference.2.id) ∧
        ((recipe.observe request sink.recording (out, [])).2.out.storedUnder reference.2.table
            (Int64.ofInt reference.2.id) = [reference.2] ↔
          ∀ other ∈ (recipe.observe request sink.recording (out, [])).2.out.handed,
            other.row.table = reference.2.table →
              ∀ value, other.fields.find? "id" = some value →
                (value.flatten = .ofInt reference.2.id ↔ other.row = reference.2)) := by
  refine ⟨recorded_eq hencoders hdone, fun handing hhanding reference hreference hvisible => ?_⟩
  rw [generate_eq_observe] at hdone
  have hkeeps := hrecipe.keeps hrequest
  have hsettled := settled_of_done hkeeps hdone
  have hwithin := Simulation.steps_within (Progress.first_within _ _) (observe_steps hkeeps hdone)
  refine ⟨stored_reference (hsettled.nodup_keys hhanding) hreference hvisible, ?_⟩
  exact hsettled.ledger.storedUnder_eq_singleton_iff (fun _ => hsettled.nodup_keys) hids
    (hsettled.handed_of_reference hwithin hhanding hreference)

/-- The tables of the recipe list only one field. -/
theorem nested_lists {table name : String} (h : nested.tables.Lists table name) : name = "part" := by
  have htables : nested.tables = [("A", ["part"])] := by decide +kernel
  obtain ⟨listed, hlisted, hname⟩ := h
  have hentry := Assoc.mem_of_find? hlisted
  rw [htables, List.mem_singleton] at hentry
  obtain ⟨_, rfl⟩ := Prod.mk.inj hentry
  exact List.mem_singleton.mp hname

theorem references_resolve_iff_nested :
    ∃ handing ∈ (nested.observe once Sink.memory.recording ({}, [])).2.out.handed,
      ("part", ⟨.made 1, "A", 2⟩) ∈ references handing.fields ∧
      handing.written.stored.find? "part" = some (.ofInt 2) ∧
      (nested.observe once Sink.memory.recording ({}, [])).2.out.storedUnder "A" 2 =
        [⟨.made 1, "A", 2⟩] := by
  have hsucceeds : (nested.generate once Sink.memory.recording ({}, [])).1.isOk = true := by
    decide +kernel
  obtain ⟨summary, hdone⟩ := Gives.exists_of_isOk hsucceeds
  have hlast : (nested.observe once Sink.memory.recording ({}, [])).2.registry.ids =
      [("A", 6)] := by
    decide +kernel
  have hids : ∀ table, (nested.observe once Sink.memory.recording ({}, [])).2.registry.ids.value
      table < UInt64.size := by
    intro table
    rw [hlast, Counters.value, Assoc.find?]
    split <;> simp [Assoc.find?, UInt64.size]
  have hhanded : ∃ handing ∈ (nested.observe once Sink.memory.recording ({}, [])).2.out.handed,
      ("part", ⟨.made 1, "A", 2⟩) ∈ references handing.fields := by decide +kernel
  have hfields : ∀ handing ∈ (nested.observe once Sink.memory.recording ({}, [])).2.out.handed,
      (handing.fields.find? "id").isNone = true := by decide +kernel
  obtain ⟨handing, hhanding, hreference⟩ := hhanded
  obtain ⟨hstored, hiff⟩ := (references_resolve_iff nested_plain once_plain rfl hdone hids).2
    handing hhanding _ hreference (by decide)
  refine ⟨handing, hhanding, hreference, hstored, hiff.mpr ?_⟩
  intro other hother _ value hvalue
  have hnone := hfields other hother
  simp [hvalue] at hnone

/-- A recipe that gives a row an `id` of its own, and references the row. -/
def renumbered : Recipe where
  file := "recipe.yml"
  options := []
  groups := []
  templates :=
    [.mk "B" none none
      [.mk "ref" (.child (.mk "A" none none
        [.mk "id" (.value ⟨.int 7, "recipe.yml", 6⟩) "recipe.yml" 6] [] "recipe.yml" 4)
        "recipe.yml" 4) "recipe.yml" 4]
      [] "recipe.yml" 1]

/-- A reference to a row that has an `id` of its own leads to no row that is stored. -/
theorem reference_to_renumbered :
    (renumbered.generate once Sink.memory.recording ({}, [])).1.isOk = true ∧
    ∃ handing ∈ (renumbered.observe once Sink.memory.recording ({}, [])).2.out.handed,
      ∃ reference ∈ references handing.fields, isHidden reference.1 = false ∧
        (renumbered.observe once Sink.memory.recording ({}, [])).2.out.storedUnder
          reference.2.table (Int64.ofInt reference.2.id) = [] := by
  decide +kernel

end Recipe

end RecordRecipe
