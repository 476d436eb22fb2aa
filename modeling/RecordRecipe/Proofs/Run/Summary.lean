import RecordRecipe.Proofs.Recipe.Tables
import RecordRecipe.Proofs.Run.Fields
import RecordRecipe.Proofs.Run.Reference

/-!
# What a run sums up

The references of a run are noted row by row, while its tables are listed beforehand from the tree
of templates. `summary_exact` says that the two belong together: the noted references are those of
the rows that have been handed over, and the tables list both ends of each of them and its field.
-/

namespace RecordRecipe

variable {σ : Type}

/-- A list with one more dependency holds it and those from before. -/
theorem Dependency.mem_insert {item dependency : Dependency} {all : List Dependency} :
    dependency ∈ Dependency.insert item all ↔ dependency = item ∨ dependency ∈ all := by
  induction all with
  | nil => simp [Dependency.insert]
  | cons first rest ih =>
      unfold Dependency.insert
      split
      next heq =>
        subst heq
        simp
      next =>
        split
        · exact List.mem_cons
        · rw [List.mem_cons, ih, List.mem_cons]
          exact or_left_comm

/-- A list with many more dependencies holds them and those from before. -/
theorem Dependency.mem_foldl_insert {dependency : Dependency} {found all : List Dependency} :
    dependency ∈ found.foldl (fun all item => Dependency.insert item all) all ↔
      dependency ∈ found ∨ dependency ∈ all := by
  induction found generalizing all with
  | nil => simp
  | cons first rest ih =>
      rw [List.foldl_cons, ih, Dependency.mem_insert, List.mem_cons, or_assoc]
      exact or_left_comm

/-- The dependencies of a row: its references in fields that sinks see. -/
theorem mem_dependencies {table : String} {fields : Assoc FieldValue} {dependency : Dependency} :
    dependency ∈ fields.filterMap (Registry.dependency? table) ↔
      ∃ reference ∈ references fields,
        isHidden reference.1 = false ∧ dependency = ⟨table, reference.2.table, reference.1⟩ := by
  rw [List.mem_filterMap]
  constructor
  · rintro ⟨⟨name, value⟩, hfield, hdependency⟩
    cases value with
    | row target =>
        simp only [Registry.dependency?, Option.ite_none_left_eq_some, Option.some.injEq]
          at hdependency
        obtain ⟨hvisible, rfl⟩ := hdependency
        exact ⟨(name, target), mem_references.mpr hfield, by simpa using hvisible, rfl⟩
    | _ => simp [Registry.dependency?] at hdependency
  · rintro ⟨⟨name, target⟩, hreference, hvisible, rfl⟩
    refine ⟨(name, .row target), mem_references.mp hreference, ?_⟩
    simp only [Registry.dependency?, hvisible]
    rfl

/-- The dependencies that have been noted are those of the rows that have been handed over. -/
def Noted (progress : Progress σ) : Prop :=
  ∀ dependency, dependency ∈ progress.machine.registry.dependencies ↔
    ∃ handing ∈ progress.machine.out.handed, ∃ reference ∈ references handing.fields,
      isHidden reference.1 = false ∧
        dependency = ⟨handing.row.table, reference.2.table, reference.1⟩

variable {sink : Sink σ} {rules : Rules} {given : RowRef → Prop} {before after : Progress σ}

/-- Dependencies are noted when a row is handed over, and at no other step. -/
theorem Step.noted (hstep : Step sink rules given before after) (h : Noted before) :
    Noted after := by
  cases hstep with
  | begin benches machine table nickname _ =>
      intro dependency
      change dependency ∈ (machine.registry.startRow table nickname).2.dependencies ↔ _
      rw [Registry.startRow_dependencies]
      exact h dependency
  | setField benches machine row name value _ _ =>
      intro dependency
      change dependency ∈ (machine.registry.setField row name value).dependencies ↔ _
      rw [Registry.setField_dependencies]
      exact h dependency
  | handOver benches machine row activation out _ _ _ =>
      intro dependency
      -- The references are noted from the same fields that are logged.
      have hnoted : dependency ∈ (machine.registry.noteReferences row).dependencies ↔
          _ ∨ dependency ∈ machine.registry.dependencies := Dependency.mem_foldl_insert
      change dependency ∈ (machine.registry.noteReferences row).dependencies ↔
        ∃ handing ∈ machine.out.handed ++ [⟨activation, row, machine.registry.fieldsOf row⟩], _
      rw [hnoted, mem_dependencies, or_comm]
      simp only [List.mem_append, List.mem_singleton, or_and_right, exists_or, exists_eq_left]
      exact or_congr_left (h dependency)
  | draw | leave | flush => exact h

namespace Recipe

/-- A run that succeeds has noted the references of the rows that it has handed over. -/
theorem noted_of_done {recipe : Recipe} {request : Request} {out : σ} {summary : Summary}
    (hkeeps : recipe.Keeps rules given request)
    (hdone : (recipe.observe request sink out).1 = .ok summary) :
    Noted ⟨[], (recipe.observe request sink out).2⟩ :=
  (observe_steps hkeeps hdone).keep (by simp [Noted, first, Progress.first])
    fun hstep => hstep.noted

/-- The noted references of a run that succeeds are those of the rows that it has handed over, as
they are in the end, in fields that sinks see. The tables list the table of the row, the table of
what it references, and the field. -/
theorem summary_exact {recipe : Recipe} {request : Request} (hrecipe : recipe.Plain)
    (hrequest : request.Plain) {sink : Sink σ} {out : σ} {summary : Summary}
    (hdone : (recipe.generate request sink out).1 = .ok summary) :
    (∀ handing ∈ (recipe.observe request sink out).2.out.handed,
      handing.fields = (recipe.observe request sink out).2.registry.fieldsOf handing.row) ∧
    (∀ dependency, dependency ∈ summary.dependencies ↔
      ∃ handing ∈ (recipe.observe request sink out).2.out.handed,
        ∃ reference ∈ references handing.fields, isHidden reference.1 = false ∧
          dependency = ⟨handing.row.table, reference.2.table, reference.1⟩) ∧
    (∀ dependency ∈ summary.dependencies,
      dependency.source ∈ summary.tables.keys ∧ dependency.target ∈ summary.tables.keys ∧
        summary.tables.Lists dependency.source dependency.field) := by
  rw [generate_eq_observe] at hdone
  obtain ⟨htables, hdependencies⟩ := observe_summary hdone
  have hkeeps := listed_keeps hrecipe hrequest
  have hsteps := observe_steps hkeeps hdone
  have hsettled := settled_of_done hkeeps hdone
  have hwithin := Simulation.steps_within (Progress.first_within _ _) hsteps
  have hnoted := noted_of_done hkeeps hdone
  rw [htables, hdependencies]
  refine ⟨hsettled.final, hnoted, fun dependency hdependency => ?_⟩
  obtain ⟨handing, hhanding, reference, hreference, hvisible, rfl⟩ :=
    (hnoted dependency).mp hdependency
  have hstarted : handing.row ∈ (recipe.observe request sink out).2.out.started :=
    hsettled.ledger.handed_subset (List.mem_map_of_mem hhanding)
  have htarget : reference.2 ∈ (recipe.observe request sink out).2.out.started :=
    hsettled.ledger.handed_subset (hsettled.handed_of_reference hwithin hhanding hreference)
  have hname : reference.1 ∈
      ((recipe.observe request sink out).2.registry.fieldsOf handing.row).keys := by
    rw [← hsettled.final handing hhanding]
    exact List.mem_map_of_mem (mem_references.mp hreference)
  have hlisted := hsettled.names handing.row hstarted reference.1 hname
  refine ⟨hsettled.tables _ hstarted, hsettled.tables _ htarget, ?_⟩
  exact hlisted.resolve_left (by simpa using hvisible)

theorem summary_exact_nested :
    ∃ summary, (nested.generate once Sink.memory {}).1 = .ok summary ∧
      (⟨"A", "A", "part"⟩ : Dependency) ∈ summary.dependencies ∧
      summary.tables.Lists "A" "part" := by
  have hsucceeds : (nested.generate once Sink.memory {}).1.isOk = true := by decide +kernel
  obtain ⟨summary, hdone⟩ := Gives.exists_of_isOk hsucceeds
  obtain ⟨_, hexact, hclosed⟩ := summary_exact nested_plain once_plain hdone
  have hreferenced : ∃ handing ∈ (nested.observe once Sink.memory {}).2.out.handed,
      ∃ reference ∈ references handing.fields, isHidden reference.1 = false ∧
        (⟨"A", "A", "part"⟩ : Dependency) =
          ⟨handing.row.table, reference.2.table, reference.1⟩ := by
    decide +kernel
  have hnoted := (hexact _).mpr hreferenced
  exact ⟨summary, hdone, hnoted, (hclosed _ hnoted).2.2⟩

end Recipe

end RecordRecipe
