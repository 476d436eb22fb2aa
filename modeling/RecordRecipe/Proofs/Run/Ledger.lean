import Mathlib.Data.List.Nodup
import RecordRecipe.Proofs.Run.Step
import RecordRecipe.Sink.Memory

/-!
# Every row once

The rows of a run are made in one order and handed over in another: child records before the row
around them, friends after it. A `Ledger` accounts for all of them. Every row that has been started
has either been handed over or waits on a bench, and the rows of a table carry the ids from one on
in the order of making. Every step keeps the ledger, and at the end of a run nothing waits any more;
`ids_gapless` is what follows for whole runs.
-/

namespace RecordRecipe

open RecordRecipe.Random (Generator)

variable {σ : Type}

/-- The rows on benches that are still to be handed over. -/
def waiting (benches : List Bench) : List RowRef :=
  (benches.filter fun bench => !bench.handed).map Bench.row

@[simp] theorem waiting_nil : waiting [] = [] := rfl

@[simp] theorem waiting_cons_built {row : RowRef} {benches : List Bench} :
    waiting (⟨row, false⟩ :: benches) = row :: waiting benches := rfl

@[simp] theorem waiting_cons_handed {row : RowRef} {benches : List Bench} :
    waiting (⟨row, true⟩ :: benches) = waiting benches := rfl

/-- What waits stands on a bench. -/
theorem waiting_subset (benches : List Bench) : waiting benches ⊆ benchRows benches :=
  List.map_subset _ (List.filter_subset_self _)

namespace Logged

/-- The rows that have been handed over, in that order. -/
def handedRows (log : Logged σ) : List RowRef := log.handed.map Handing.row

end Logged

/-- The books of a run. -/
structure Ledger (progress : Progress σ) : Prop where
  /-- Rows are told apart by the order of making. -/
  origins : progress.machine.out.started.map RowRef.origin =
    (List.range progress.machine.registry.rows.size).map Origin.made
  /-- The rows of a table are numbered from one on. -/
  ids : ∀ table,
    (progress.machine.out.started.filter fun row => row.table = table).map RowRef.id =
      List.range' 1 (progress.machine.registry.ids.value table)
  /-- What has been started has been handed over or waits. -/
  accounted : progress.machine.out.started.Perm
    (progress.machine.out.handedRows ++ waiting progress.benches)

namespace Ledger

/-- A run that has got nowhere yet has empty books. -/
theorem first (generator : Generator) (out : σ) : Ledger (Progress.first generator out) where
  origins := rfl
  ids := fun _ => rfl
  accounted := .refl []

/-- A row that is started is numbered and waits. -/
theorem begin {benches : List Bench} {machine : Machine (Logged σ)} (h : Ledger ⟨benches, machine⟩)
    (table : String) (nickname : Option String) :
    Ledger ⟨⟨(machine.registry.startRow table nickname).1, false⟩ :: benches,
      machine.begin table nickname⟩ where
  origins := by
    have hbefore := h.origins
    simp only [Machine.begin, List.map_append, hbefore, Registry.startRow_rows, Array.size_push,
      List.range_succ]
    rfl
  ids := fun other => by
    have hbefore := h.ids other
    simp only [Machine.begin, List.filter_append, List.map_append, hbefore, Registry.startRow_ids,
      Counters.value_increment]
    -- The new row belongs to one table, of which it has the next id.
    by_cases htable : table = other
    · subst htable
      rw [if_pos rfl, List.range'_1_concat]
      simp [Nat.add_comm]
    · simp [htable]
  accounted := by
    have hbefore := h.accounted
    change (machine.out.started ++ [_]).Perm (machine.out.handedRows ++ _ :: waiting benches)
    exact (List.perm_append_singleton _ _).trans ((hbefore.cons _).trans List.perm_middle.symm)

/-- A field that is set is of no account. -/
theorem setField {benches : List Bench} {machine : Machine (Logged σ)}
    (h : Ledger ⟨benches, machine⟩) (row : RowRef) (name : String) (value : FieldValue) :
    Ledger ⟨benches, machine.setField row name value⟩ where
  origins := by simpa [Machine.setField] using h.origins
  ids := fun table => by simpa [Machine.setField] using h.ids table
  accounted := h.accounted

/-- A row that is handed over waits no more. -/
theorem handOver {benches : List Bench} {machine : Machine (Logged σ)} {row : RowRef}
    (h : Ledger ⟨⟨row, false⟩ :: benches, machine⟩) (activation : Activation) (out : σ) :
    Ledger ⟨⟨row, true⟩ :: benches, machine.handOver activation row out⟩ where
  origins := h.origins
  ids := h.ids
  accounted := by
    have hbefore : machine.out.started.Perm (machine.out.handedRows ++ row :: waiting benches) :=
      h.accounted
    simpa [Machine.handOver, Logged.handedRows] using hbefore

end Ledger

variable {sink : Sink σ} {rules : Rules} {given : RowRef → Prop} {before after : Progress σ}

/-- Every step keeps the books. -/
theorem Step.ledger (hstep : Step sink rules given before after) (h : Ledger before) :
    Ledger after := by
  cases hstep with
  | draw benches machine generator => exact ⟨h.origins, h.ids, h.accounted⟩
  | begin benches machine table nickname _ => exact h.begin table nickname
  | setField benches machine row name value _ _ => exact h.setField row name value
  | handOver benches machine row activation out _ _ _ => exact h.handOver activation out
  | leave benches machine row => exact ⟨h.origins, h.ids, h.accounted⟩
  | flush benches machine out _ => exact ⟨h.origins, h.ids, h.accounted⟩

/-- A sink that fails leaves the books in order. -/
theorem Break.ledger (hbreak : Break sink before after) (h : Ledger before) : Ledger after := by
  cases hbreak with
  | handOver benches machine row activation out _ _ _ _ => exact h.handOver activation out
  | flush benches machine out _ _ => exact ⟨h.origins, h.ids, h.accounted⟩

/-- The books are in order wherever a run gets. -/
theorem Reaches.ledger {generator : Generator} {out : σ} {finish : Progress σ}
    (h : Reaches sink rules given (Progress.first generator out) finish) : Ledger finish :=
  h.keep (.first generator out) (fun hstep => hstep.ledger) (fun hbreak => hbreak.ledger)

namespace Ledger

variable {progress : Progress σ}

/-- No row is started twice. -/
theorem nodup_started (h : Ledger progress) : progress.machine.out.started.Nodup := by
  refine List.Nodup.of_map RowRef.origin ?_
  rw [h.origins]
  exact List.nodup_range.map fun _ _ heq => Origin.made.inj heq

/-- The registry knows the fields of every row that has been started. -/
theorem made (h : Ledger progress) {row : RowRef} (hrow : row ∈ progress.machine.out.started) :
    progress.machine.registry.Made row := by
  have horigin : row.origin ∈ progress.machine.out.started.map RowRef.origin :=
    List.mem_map_of_mem hrow
  rw [h.origins, List.mem_map] at horigin
  obtain ⟨index, hindex, horigin⟩ := horigin
  exact ⟨index, List.mem_range.mp hindex, horigin.symm⟩

/-- Rows of one table are told apart by their ids. -/
theorem id_injective (h : Ledger progress) {row other : RowRef}
    (hrow : row ∈ progress.machine.out.started) (hother : other ∈ progress.machine.out.started)
    (htable : row.table = other.table) (hid : row.id = other.id) : row = other := by
  have hnodup : ((progress.machine.out.started.filter fun started =>
      started.table = other.table).map RowRef.id).Nodup := by
    rw [h.ids]
    exact List.nodup_range'
  exact List.inj_on_of_nodup_map hnodup (List.mem_filter.mpr ⟨hrow, by simpa using htable⟩)
    (List.mem_filter.mpr ⟨hother, by simp⟩) hid

/-- The id of a row lies between one and the last id of its table. -/
theorem id_mem (h : Ledger progress) {row : RowRef} (hrow : row ∈ progress.machine.out.started) :
    1 ≤ row.id ∧ row.id ≤ progress.machine.registry.ids.value row.table := by
  have hid : row.id ∈ List.range' 1 (progress.machine.registry.ids.value row.table) := by
    rw [← h.ids]
    exact List.mem_map_of_mem (List.mem_filter.mpr ⟨hrow, by simp⟩)
  rw [List.mem_range'_1] at hid
  omega

/-- What has been handed over has been started. -/
theorem handed_subset (h : Ledger progress) :
    progress.machine.out.handedRows ⊆ progress.machine.out.started :=
  fun _ hrow => h.accounted.mem_iff.mpr (List.mem_append_left _ hrow)

/-- No row is handed over twice. -/
theorem nodup_handed (h : Ledger progress) : progress.machine.out.handedRows.Nodup :=
  (h.accounted.nodup_iff.mp h.nodup_started).of_append_left

/-- What is handed over is told apart by table and id. -/
theorem nodup_handed_ids (h : Ledger progress) :
    (progress.machine.out.handedRows.map fun row => (row.table, row.id)).Nodup := by
  refine h.nodup_handed.map_on fun row hrow other hother heq => ?_
  obtain ⟨htable, hid⟩ := Prod.mk.inj heq
  exact h.id_injective (h.handed_subset hrow) (h.handed_subset hother) htable hid

end Ledger

namespace Recipe

/-- A recipe whose rows hold rows of their own table and have friends in it. -/
def nested : Recipe where
  file := "recipe.yml"
  options := []
  groups := []
  templates :=
    [.mk "A" none (some (.fixed 2))
      [.mk "part" (.child (.mk "A" none none [] [] "recipe.yml" 5) "recipe.yml" 5) "recipe.yml" 4]
      [.mk "A" none none [] [] "recipe.yml" 7] "recipe.yml" 1]

/-- A request for one batch. -/
def once : Request where
  today := .epoch
  generator := .ofSeed 0

end Recipe

end RecordRecipe
