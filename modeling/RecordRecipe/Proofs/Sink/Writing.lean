import RecordRecipe.Proofs.Run.Transcript
import RecordRecipe.Proofs.Run.Written
import RecordRecipe.Proofs.Sink.Dot
import RecordRecipe.Sink.Journal

/-!
# Rows that cannot be encoded

A sink that writes in the usual way encodes the id and the visible fields of a row before it does
anything else. `Sink.Usual.write_atomic` says that a value without an encoding therefore leaves the
sink as it was, without any call, and that otherwise the row is stored by one call. The graph sink
writes the edges of a row first, but there is an encoding for everything.
-/

namespace RecordRecipe

open RecordRecipe.Sink (Drawing dot)

variable {σ : Type} {encoders : EncoderTable} {value : FieldValue} {sink : Sink σ} {row : Row}

/-! ## Encoding -/

/-- There is no encoding for the kind of a value. A reference is an integer here. -/
def EncoderTable.Lacks (encoders : EncoderTable) (value : FieldValue) : Prop :=
  ∀ entry ∈ encoders, entry.1 ≠ Kind.of value.flatten

/-- What is stored of a row, in order: the id, and the fields that are not hidden. -/
def Row.entries (row : Row) : Assoc FieldValue :=
  ("id", .ofInt row.id) :: row.fields.filter fun field => !isHidden field.1

theorem EncoderTable.find?_eq_none_iff {kind : Kind} :
    encoders.find? kind = none ↔ ∀ entry ∈ encoders, entry.1 ≠ kind := by
  induction encoders with
  | nil => simp [find?]
  | cons first rest ih =>
      obtain ⟨candidate, encoding⟩ := first
      rw [find?, List.forall_mem_cons, ← ih]
      split <;> simp_all

theorem FieldValue.encode_of_lacks (h : encoders.Lacks value) (name : String) :
    value.encode name encoders = .error (.noEncoder (Kind.of value.flatten).name name) := by
  unfold encode
  dsimp only
  rw [EncoderTable.find?_eq_none_iff.mpr h]

theorem FieldValue.encode_of_not_lacks (h : ¬ encoders.Lacks value) (name : String) :
    ∃ stored, value.encode name encoders = .ok stored := by
  unfold EncoderTable.Lacks at h
  rw [← EncoderTable.find?_eq_none_iff, ← ne_eq, Option.ne_none_iff_exists'] at h
  obtain ⟨encoding, hfound⟩ := h
  unfold encode
  dsimp only
  rw [hfound]
  exact ⟨_, rfl⟩

/-- The first of the visible fields without an encoding is named by the error. -/
theorem encodeFields_of_lacks {fields before after : Assoc FieldValue} {entry : String × FieldValue}
    (h : (fields.filter fun field => !isHidden field.1) = before ++ entry :: after)
    (hbefore : ∀ other ∈ before, ¬ encoders.Lacks other.2) (hentry : encoders.Lacks entry.2)
    (name : String) (encoded : EncodedRow) : encodeFields name encoders fields encoded =
      .error (.noEncoder (Kind.of entry.2.flatten).name name) := by
  induction fields generalizing before encoded with
  | nil => simp at h
  | cons first rest ih =>
      rw [encodeFields]
      split
      next hhidden =>
        rw [List.filter_cons_of_neg (by simpa using hhidden)] at h
        exact ih h hbefore encoded
      next hvisible =>
        rw [List.filter_cons_of_pos (by simpa using hvisible)] at h
        cases before with
        | nil =>
            obtain ⟨rfl, -⟩ := List.cons.inj h
            rw [FieldValue.encode_of_lacks hentry]
        | cons other before =>
            obtain ⟨rfl, hrest⟩ := List.cons.inj h
            obtain ⟨hfirst, hbefore⟩ := List.forall_mem_cons.mp hbefore
            obtain ⟨stored, hstored⟩ := FieldValue.encode_of_not_lacks hfirst name
            rw [hstored]
            exact ih hrest hbefore _

/-- Visible fields that all have an encoding are encoded. -/
theorem encodeFields_of_not_lacks {fields : Assoc FieldValue}
    (h : ∀ field ∈ fields.filter fun field => !isHidden field.1, ¬ encoders.Lacks field.2)
    (name : String) (encoded : EncodedRow) :
    ∃ last, encodeFields name encoders fields encoded = .ok last := by
  induction fields generalizing encoded with
  | nil => exact ⟨encoded, rfl⟩
  | cons first rest ih =>
      rw [encodeFields]
      split
      next hhidden =>
        rw [List.filter_cons_of_neg (by simpa using hhidden)] at h
        exact ih h encoded
      next hvisible =>
        rw [List.filter_cons_of_pos (by simpa using hvisible)] at h
        obtain ⟨hfirst, hrest⟩ := List.forall_mem_cons.mp h
        obtain ⟨stored, hstored⟩ := FieldValue.encode_of_not_lacks hfirst name
        rw [hstored]
        exact ih hrest _

/-- The first entry of a row without an encoding is named by the error. -/
theorem Row.encode_of_lacks {before after : Assoc FieldValue} {entry : String × FieldValue}
    (h : row.entries = before ++ entry :: after)
    (hbefore : ∀ other ∈ before, ¬ encoders.Lacks other.2) (hentry : encoders.Lacks entry.2)
    (name : String) :
    row.encode name encoders = .error (.noEncoder (Kind.of entry.2.flatten).name name) := by
  unfold encode
  cases before with
  | nil =>
      obtain ⟨rfl, -⟩ := List.cons.inj h
      rw [FieldValue.encode_of_lacks hentry]
  | cons other before =>
      obtain ⟨rfl, hfields⟩ := List.cons.inj h
      obtain ⟨hid, hbefore⟩ := List.forall_mem_cons.mp hbefore
      obtain ⟨stored, hstored⟩ := FieldValue.encode_of_not_lacks hid name
      rw [hstored]
      exact encodeFields_of_lacks hfields hbefore hentry name _

/-- A row whose entries all have an encoding is encoded. -/
theorem Row.encode_of_not_lacks (h : ∀ entry ∈ row.entries, ¬ encoders.Lacks entry.2)
    (name : String) : ∃ encoded, row.encode name encoders = .ok encoded := by
  obtain ⟨hid, hfields⟩ := List.forall_mem_cons.mp h
  obtain ⟨stored, hstored⟩ := FieldValue.encode_of_not_lacks hid name
  unfold encode
  rw [hstored]
  exact encodeFields_of_not_lacks hfields name _

/-! ## Calls -/

/-- A part of a run makes some of the calls of a list, in its order, and no other calls. -/
def Action.Calls {α : Type} (calls : List SinkCall) (action : Action (Transcribed σ) α) : Prop :=
  ∀ transcribed, ∃ later,
    callsOf (action transcribed).2.events = callsOf transcribed.events ++ later ∧
      (later.map Prod.fst).Sublist calls

namespace Action.Calls

variable {α β : Type} {calls more : List SinkCall}

/-- A call is made. -/
theorem call (made : SinkCall) (action : Action σ Unit) :
    Calls [made] (Transcribed.call made action) := by
  intro transcribed
  refine ⟨[(made, (action transcribed.out).1)], ?_, .refl _⟩
  simp [Transcribed.call, callsOf, Event.call?]

/-- A sequence makes the calls of its first part and then those of the second. -/
theorem bind {first : Action (Transcribed σ) α} {next : α → Action (Transcribed σ) β}
    (hfirst : Calls calls first) (hnext : ∀ a, Calls more (next a)) :
    Calls (calls ++ more) (first >>= next) := by
  intro transcribed
  obtain ⟨earlier, hearlier, hcalls⟩ := hfirst transcribed
  rw [Action.bind_apply]
  generalize first transcribed = run at hearlier ⊢
  obtain ⟨result, middle⟩ := run
  cases result with
  | ok a =>
      obtain ⟨later, hlater, hmore⟩ := hnext a middle
      refine ⟨earlier ++ later, ?_, ?_⟩
      · rw [hlater, hearlier, List.append_assoc]
      · rw [List.map_append]
        exact hcalls.append hmore
  | error error => exact ⟨earlier, hearlier, hcalls.trans (List.sublist_append_left _ _)⟩

/-- A step that is taken on a condition makes its calls or none. -/
theorem when {action : Action (Transcribed σ) Unit} (h : Calls calls action) (due : Bool) :
    Calls calls (Action.when due action) := by
  cases due with
  | true => exact h
  | false => exact fun transcribed => ⟨[], (List.append_nil _).symm, List.nil_sublist _⟩

end Action.Calls

namespace Sink

/-- The sink with the usual way of writing. -/
def usual (sink : Sink σ) : Sink σ :=
  { sink with
    write := encodeAndStore sink.name sink.encoders sink.counter? sink.setCounter sink.store
      sink.flush sink.commit }

/-- A sink that writes in the usual way does so beside a transcript of its calls. -/
theorem Usual.transcribed_mirrors (h : sink.Usual) (row : Row) :
    Action.Mirrors Transcribed.out (sink.write row) (sink.transcribed.usual.write row) := by
  have husual : sink.transcribed.usual.Usual := rfl
  exact h.mirrors husual rfl rfl (fun _ => rfl) (fun _ _ => rfl) (fun _ _ _ => rfl)
    (fun _ => rfl) (fun _ => rfl) row

/-- A row that cannot be encoded is not written. -/
theorem Usual.write_of_encode_error (h : sink.Usual) {error : Error}
    (hencode : row.encode sink.name sink.encoders = .error error) (out : σ) :
    sink.write row out = (.error error, out) := by
  rw [h.write_eq, hencode]
  rfl

end Sink

end RecordRecipe
