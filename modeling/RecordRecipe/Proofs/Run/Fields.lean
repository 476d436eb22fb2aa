import RecordRecipe.Proofs.Recipe.Plain
import RecordRecipe.Proofs.Run.Ledger

/-!
# Fields of rows

The fields of a row are set while it stands on the last bench, and never again. `Settled` says of a
run that rows and their fields keep to its rules, that no row has two fields of one name, and that
rows have kept the fields with which they have been handed over. Every step keeps it.
-/

namespace RecordRecipe

variable {σ : Type}

/-- Rows and their fields keep to rules, and what has been handed over stays as it is. -/
structure Settled (rules : Rules) (progress : Progress σ) : Prop where
  ledger : Ledger progress
  tables : ∀ row ∈ progress.machine.out.started, rules.table row.table
  names : ∀ row ∈ progress.machine.out.started,
    ∀ name ∈ (progress.machine.registry.fieldsOf row).keys, rules.field row.table name
  nodup : ∀ row ∈ progress.machine.out.started,
    (progress.machine.registry.fieldsOf row).keys.Nodup
  final : ∀ handing ∈ progress.machine.out.handed,
    handing.fields = progress.machine.registry.fieldsOf handing.row

namespace Ledger

variable {benches : List Bench} {machine : Machine (Logged σ)} {row : RowRef}

/-- The row on the last bench has been started. -/
theorem started_of_bench (h : Ledger ⟨⟨row, false⟩ :: benches, machine⟩) :
    row ∈ machine.out.started :=
  h.accounted.mem_iff.mpr (List.mem_append_right _ List.mem_cons_self)

/-- The row on the last bench has not been handed over. -/
theorem ne_handed (h : Ledger ⟨⟨row, false⟩ :: benches, machine⟩) {handing : Handing}
    (hhanding : handing ∈ machine.out.handed) : row ≠ handing.row := by
  have hnodup : (machine.out.handedRows ++ row :: waiting benches).Nodup :=
    h.accounted.nodup_iff.mp h.nodup_started
  have hdisjoint := (List.nodup_append.mp hnodup).2.2
  exact (hdisjoint handing.row (List.mem_map_of_mem hhanding) row List.mem_cons_self).symm

/-- Rows are told apart by the order of making. -/
theorem origin_ne {progress : Progress σ} (h : Ledger progress) {other : RowRef}
    (hrow : row ∈ progress.machine.out.started) (hother : other ∈ progress.machine.out.started)
    (hne : row ≠ other) : row.origin ≠ other.origin := by
  have hnodup : (progress.machine.out.started.map RowRef.origin).Nodup := by
    rw [h.origins]
    exact List.nodup_range.map fun _ _ heq => Origin.made.inj heq
  exact fun horigin => hne (List.inj_on_of_nodup_map hnodup hrow hother horigin)

end Ledger

namespace Settled

variable {rules : Rules} {benches : List Bench} {machine : Machine (Logged σ)}

/-- A new row has no fields, and the others keep theirs. -/
theorem begin (h : Settled rules ⟨benches, machine⟩) {table : String} {nickname : Option String}
    (htable : rules.table table) :
    Settled rules ⟨⟨(machine.registry.startRow table nickname).1, false⟩ :: benches,
      machine.begin table nickname⟩ := by
  have hkept : ∀ row ∈ machine.out.started,
      (machine.begin table nickname).registry.fieldsOf row = machine.registry.fieldsOf row :=
    fun row hrow => Registry.fieldsOf_startRow (h.ledger.made hrow)
  have hnew : (machine.begin table nickname).registry.fieldsOf
      (machine.registry.startRow table nickname).1 = [] := Registry.fieldsOf_startRow_self
  -- What is to be shown of started rows is known of the old ones; the new one has no fields.
  have hstarted {P : RowRef → Prop} (hbefore : ∀ row ∈ machine.out.started, P row)
      (hlast : P (machine.registry.startRow table nickname).1) :
      ∀ row ∈ (machine.begin table nickname).out.started, P row := by
    intro row hrow
    obtain hrow | hrow := List.mem_append.mp hrow
    · exact hbefore row hrow
    · exact List.mem_singleton.mp hrow ▸ hlast
  refine ⟨h.ledger.begin table nickname, hstarted h.tables htable, hstarted (fun row hrow => ?_) ?_,
    hstarted (fun row hrow => ?_) ?_, fun handing hhanding => ?_⟩
  · rw [hkept row hrow]
    exact h.names row hrow
  · rw [hnew]
    simp [Assoc.keys]
  · rw [hkept row hrow]
    exact h.nodup row hrow
  · rw [hnew]
    simp [Assoc.keys]
  · rw [hkept _ (h.ledger.handed_subset (List.mem_map_of_mem hhanding))]
    exact h.final handing hhanding

/-- The row on the last bench gets a field, and the others keep theirs. -/
theorem setField {row : RowRef} (h : Settled rules ⟨⟨row, false⟩ :: benches, machine⟩)
    {name : String} (hfield : rules.field row.table name) (value : FieldValue) :
    Settled rules ⟨⟨row, false⟩ :: benches, machine.setField row name value⟩ := by
  have hrow := h.ledger.started_of_bench
  -- No row that has been handed over is the one on the bench, so that all of those are kept.
  have hset : (machine.setField row name value).registry.fieldsOf row =
      (machine.registry.fieldsOf row).put name value :=
    Registry.fieldsOf_setField_self (h.ledger.made hrow)
  have hkept : ∀ other ∈ machine.out.started, row ≠ other →
      (machine.setField row name value).registry.fieldsOf other = machine.registry.fieldsOf other :=
    fun other hother hne => Registry.fieldsOf_setField_ne (h.ledger.origin_ne hrow hother hne)
  refine ⟨h.ledger.setField row name value, h.tables, fun other hother => ?_,
    fun other hother => ?_, fun handing hhanding => ?_⟩
  · by_cases hsame : row = other
    · subst hsame
      rw [hset]
      intro key hkey
      obtain rfl | hkey := Assoc.mem_keys_put.mp hkey
      · exact hfield
      · exact h.names row hother key hkey
    · rw [hkept other hother hsame]
      exact h.names other hother
  · by_cases hsame : row = other
    · subst hsame
      rw [hset]
      exact Assoc.nodup_keys_put (h.nodup row hother)
    · rw [hkept other hother hsame]
      exact h.nodup other hother
  · rw [hkept _ (h.ledger.handed_subset (List.mem_map_of_mem hhanding))
      (h.ledger.ne_handed hhanding)]
    exact h.final handing hhanding

/-- A row is handed over with the fields that it has. -/
theorem handOver {row : RowRef} (h : Settled rules ⟨⟨row, false⟩ :: benches, machine⟩)
    (activation : Activation) (out : σ) :
    Settled rules ⟨⟨row, true⟩ :: benches, machine.handOver activation row out⟩ := by
  refine ⟨h.ledger.handOver activation out, h.tables, h.names, h.nodup, fun handing hhanding => ?_⟩
  obtain hhanding | hhanding := List.mem_append.mp hhanding
  · exact h.final handing hhanding
  · obtain rfl := List.mem_singleton.mp hhanding
    rfl

/-- The names of the fields of what has been handed over do not repeat. -/
theorem nodup_keys {progress : Progress σ} (h : Settled rules progress) {handing : Handing}
    (hhanding : handing ∈ progress.machine.out.handed) : handing.fields.keys.Nodup := by
  rw [h.final handing hhanding]
  exact h.nodup _ (h.ledger.handed_subset (List.mem_map_of_mem hhanding))

/-- What is referenced has been handed over in the end. -/
theorem handed_of_reference (h : Settled rules ⟨[], machine⟩)
    (hwithin : Progress.Within noRow ⟨[], machine⟩) {handing : Handing}
    (hhanding : handing ∈ machine.out.handed) {reference : String × RowRef}
    (hreference : reference ∈ references handing.fields) :
    reference.2 ∈ machine.out.handedRows := by
  rw [h.final handing hhanding] at hreference
  have hknown : machine.Known noRow reference.2 :=
    hwithin.registry.fieldsOf handing.row (reference.1, .row reference.2)
      (mem_references.mp hreference)
  simpa using h.ledger.accounted.mem_iff.mp hknown.started

end Settled

variable {sink : Sink σ} {rules : Rules} {given : RowRef → Prop} {before after : Progress σ}

/-- Every step keeps to the rules and changes nothing about what has been handed over. -/
theorem Step.settled (hstep : Step sink rules given before after) (h : Settled rules before) :
    Settled rules after := by
  have hledger := hstep.ledger h.ledger
  cases hstep with
  | begin benches machine table nickname htable => exact h.begin htable
  | setField benches machine row name value hfield _ => exact h.setField hfield value
  | handOver benches machine row activation out _ _ _ => exact h.handOver activation out
  | draw | leave | flush => exact ⟨hledger, h.tables, h.names, h.nodup, h.final⟩

/-- A run that succeeds has kept to the rules. -/
theorem Recipe.settled_of_done {recipe : Recipe} {request : Request} {out : σ} {summary : Summary}
    (hkeeps : recipe.Keeps rules given request)
    (hdone : (recipe.observe request sink out).1 = .ok summary) :
    Settled rules ⟨[], (recipe.observe request sink out).2⟩ := by
  have hfirst : Settled rules (recipe.first request sink out) :=
    ⟨.first _ _, by simp [Recipe.first, Progress.first], by simp [Recipe.first, Progress.first],
      by simp [Recipe.first, Progress.first], by simp [Recipe.first, Progress.first]⟩
  exact (observe_steps hkeeps hdone).keep hfirst fun hstep => hstep.settled

end RecordRecipe
