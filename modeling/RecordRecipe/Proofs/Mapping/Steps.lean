import RecordRecipe.Proofs.Mapping.Order
import RecordRecipe.Proofs.Run.Summary

/-!
# Load mappings of runs

The load mapping of a run has a step for every table, and a look-up for every field that holds
references. It can be loaded step by step if what a look-up asks for has been loaded before:
`mapping_loadable` says so of runs whose references form no cycle.
-/

namespace RecordRecipe

open Relation

variable {σ : Type}

namespace Mapping

variable {dependencies : List Dependency} {tables : List String} {table other field : String}
  {summary : Summary}

/-- A field leads to a table of which some dependency says so. -/
theorem mem_of_targetOf? {target : String}
    (h : targetOf? dependencies table field = some target) :
    (⟨table, target, field⟩ : Dependency) ∈ dependencies := by
  obtain ⟨⟨_, _, _⟩, hfound, rfl⟩ := Option.map_eq_some_iff.mp h
  have hfits := List.find?_some hfound
  simp only [Bool.and_eq_true, decide_eq_true_eq] at hfits
  obtain ⟨rfl, rfl⟩ := hfits
  exact List.mem_of_find?_eq_some hfound

/-- A field leads nowhere if no dependency is about it. -/
theorem targetOf?_eq_none_iff :
    targetOf? dependencies table field = none ↔
      ∀ target, (⟨table, target, field⟩ : Dependency) ∉ dependencies := by
  rw [targetOf?, Option.map_eq_none_iff, List.find?_eq_none]
  constructor
  · intro h target hmem
    simpa using h _ hmem
  · rintro h ⟨source, target, name⟩ hmem
    simp only [Bool.and_eq_true, decide_eq_true_eq]
    rintro ⟨rfl, rfl⟩
    exact h target hmem

/-- The plain fields among some fields of a table, under their own names. -/
def plainFields (dependencies : List Dependency) (table : String) (listed : List String) :
    Assoc String :=
  (listed.filter fun field => (targetOf? dependencies table field).isNone).map fun field =>
    (field, field)

/-- The look-ups of the other fields. -/
def lookupsOf (dependencies : List Dependency) (table : String) (listed : List String) :
    Assoc Lookup :=
  listed.filterMap fun field =>
    (targetOf? dependencies table field).map fun target => (field, ⟨target, field⟩)

theorem keys_plainFields (listed : List String) :
    (plainFields dependencies table listed).keys =
      listed.filter fun field => (targetOf? dependencies table field).isNone := by
  simp [plainFields, Assoc.keys, Function.comp_def]

theorem keys_lookupsOf (listed : List String) :
    (lookupsOf dependencies table listed).keys =
      listed.filter fun field => !(targetOf? dependencies table field).isNone := by
  induction listed with
  | nil => rfl
  | cons first rest ih =>
      have hrest : (List.filterMap (fun field => (targetOf? dependencies table field).map
          fun target => (field, (⟨target, field⟩ : Lookup))) rest).map Prod.fst = _ := ih
      cases htarget : targetOf? dependencies table first <;>
        simp [lookupsOf, Assoc.keys, htarget, hrest]

/-- A field is plain or looked up. -/
theorem keys_perm (listed : List String) :
    ((plainFields dependencies table listed).keys ++
      (lookupsOf dependencies table listed).keys).Perm listed := by
  rw [keys_plainFields, keys_lookupsOf]
  exact List.filter_append_perm _ listed

/-- A field is looked up if some dependency is about it. -/
theorem mem_keys_lookupsOf {listed : List String} (hfield : field ∈ listed) :
    field ∈ (lookupsOf dependencies table listed).keys ↔
      ∃ target, (⟨table, target, field⟩ : Dependency) ∈ dependencies := by
  rw [keys_lookupsOf, List.mem_filter, Bool.not_eq_true', ← Bool.not_eq_true,
    Option.isNone_iff_eq_none, targetOf?_eq_none_iff]
  push Not
  exact and_iff_right hfield

/-- A look-up leads to a table of which some dependency says so. -/
theorem mem_of_lookup {listed : List String} {lookup : Lookup}
    (h : (field, lookup) ∈ lookupsOf dependencies table listed) :
    (⟨table, lookup.table, field⟩ : Dependency) ∈ dependencies := by
  obtain ⟨_, _, hfound⟩ := List.mem_filterMap.mp h
  obtain ⟨target, htarget, heq⟩ := Option.map_eq_some_iff.mp hfound
  obtain ⟨rfl, rfl⟩ := Prod.mk.inj heq
  exact mem_of_targetOf? htarget

/-- Different new fields are added last, each in its place. -/
theorem foldl_addField {listed : List String} (step : MappingStep)
    (hnodup : (step.fields.keys ++ step.lookups.keys ++ listed).Nodup) :
    listed.foldl (MappingStep.addField dependencies) step =
      { step with
        fields := step.fields ++ plainFields dependencies step.table listed
        lookups := step.lookups ++ lookupsOf dependencies step.table listed } := by
  induction listed generalizing step with
  | nil => simp [plainFields, lookupsOf]
  | cons first rest ih =>
      have hnew : first ∉ step.fields.keys ++ step.lookups.keys := fun hmem =>
        List.disjoint_of_nodup_append hnodup hmem List.mem_cons_self
      obtain ⟨hfields, hlookups⟩ := not_or.mp (mt List.mem_append.mpr hnew)
      have hfirst : (first :: (step.fields.keys ++ (step.lookups.keys ++ rest))).Nodup := by
        rw [← List.append_assoc]
        exact List.nodup_middle.mp hnodup
      rw [List.foldl_cons]
      cases htarget : targetOf? dependencies step.table first with
      | none =>
          have hadd : MappingStep.addField dependencies step first =
              { step with fields := step.fields ++ [(first, first)] } := by
            rw [MappingStep.addField, htarget, ← Assoc.put_of_not_mem hfields]
          rw [hadd, ih _ (by simpa [Assoc.keys] using List.nodup_middle.mpr hfirst)]
          simp [plainFields, lookupsOf, htarget]
      | some target =>
          have hadd : MappingStep.addField dependencies step first =
              { step with lookups := step.lookups ++ [(first, ⟨target, first⟩)] } := by
            rw [MappingStep.addField, htarget, ← Assoc.put_of_not_mem hlookups]
          rw [hadd, ih _ (by simpa [Assoc.keys] using hnodup)]
          simp [plainFields, lookupsOf, htarget]

/-- The step of a table with different fields. -/
theorem stepOf_eq {listed : List String} (htable : summary.tables.find? table = some listed)
    (hnodup : listed.Nodup) :
    stepOf summary table = ⟨table, plainFields summary.dependencies table listed,
      lookupsOf summary.dependencies table listed⟩ := by
  rw [stepOf, htable, Option.getD_some, foldl_addField _ (by simpa [Assoc.keys] using hnodup)]
  rfl

/-- Steps are named for their tables. -/
theorem name_injective : Function.Injective ("Insert " ++ · : String → String) :=
  fun _ _ heq => (String.append_right_inj "Insert ").mp heq

/-- The steps of a mapping stand in the loading order. -/
theorem ofSummary_eq (summary : Summary) :
    ofSummary summary =
      (sortTables summary.dependencies summary.tables.keys).map fun table =>
        ("Insert " ++ table, stepOf summary table) := by
  refine Assoc.ofList_of_nodup ?_
  rw [Assoc.keys, List.map_map]
  exact (nodup_sortTables _ _).map name_injective

theorem keys_ofSummary (summary : Summary) :
    (ofSummary summary).keys =
      (sortTables summary.dependencies summary.tables.keys).map ("Insert " ++ ·) := by
  rw [ofSummary_eq, Assoc.keys, List.map_map]
  rfl

/-- What comes before in an order does so under other names. -/
theorem Precedes.map {order : List String} (h : Precedes order other table)
    (change : String → String) : Precedes (order.map change) (change other) (change table) := by
  obtain ⟨earlier, later, rfl, hother⟩ := h
  exact ⟨earlier.map change, later.map change, by simp, List.mem_map_of_mem hother⟩

/-- Where references form no cycle a table comes behind every other one that it references. -/
theorem precedes_of_refers (hlisted : table ∈ tables)
    (hacyclic : ∀ table ∈ tables, ¬ TransGen (Refers dependencies tables) table table)
    (hrefers : Refers dependencies tables table other) :
    Precedes (sortTables dependencies tables) other table := by
  obtain ⟨earlier, later, h⟩ := List.append_of_mem (mem_sortTables.mpr hlisted)
  exact ⟨earlier, later, h, follows_of_acyclic h hacyclic other hrefers⟩

end Mapping

/-- A row of a table that has been handed over holds a reference in a field. -/
def Logged.Holds (log : Logged σ) (table name : String) (target : RowRef) : Prop :=
  ∃ handing ∈ log.handed, handing.row.table = table ∧ (name, target) ∈ references handing.fields

/-- The rows that a caller brings along belong to some tables. -/
structure Request.KeepsTo (tables : Tables) (request : Request) : Prop where
  options : FieldsWithin (fun row => row.table ∈ tables.keys) request.options
  fake : request.fake.Within fun row => row.table ∈ tables.keys

namespace Recipe

open Mapping

variable {recipe : Recipe} {request : Request} {sink : Sink σ} {out : σ} {summary : Summary}

/-- The dependencies of a run are the references that its rows hold in fields that sinks see. -/
theorem mem_dependencies_iff
    (hdone : (recipe.observe request sink out).1 = .ok summary) {table other name : String} :
    (⟨table, other, name⟩ : Dependency) ∈ summary.dependencies ↔
      isHidden name = false ∧ ∃ target,
        (recipe.observe request sink out).2.out.Holds table name target ∧ target.table = other := by
  have hnoted := noted_of_done (keeps_all recipe request) hdone
  rw [(observe_summary hdone).2, hnoted]
  constructor
  · rintro ⟨handing, hhanding, ⟨field, target⟩, hreference, hvisible, heq⟩
    obtain ⟨rfl, rfl, rfl⟩ := Dependency.mk.inj heq
    exact ⟨hvisible, target, ⟨handing, hhanding, rfl, hreference⟩, rfl⟩
  · rintro ⟨hvisible, target, ⟨handing, hhanding, rfl, hreference⟩, rfl⟩
    exact ⟨handing, hhanding, (name, target), hreference, hvisible, rfl⟩

/-- What rows refer to belongs to listed tables, if the rows that a caller brings along do. -/
theorem listed_of_holds (hrecipe : recipe.Plain) (hrequest : request.KeepsTo recipe.tables)
    (hdone : (recipe.observe request sink out).1 = .ok summary) {table name : String}
    {target : RowRef} (h : (recipe.observe request sink out).2.out.Holds table name target) :
    target.table ∈ recipe.tables.keys := by
  obtain ⟨handing, hhanding, -, hreference⟩ := h
  have hkeeps := listed_keeps_given hrecipe hrequest.options hrequest.fake
  have hsettled := settled_of_done hkeeps hdone
  have hwithin := Simulation.steps_within (Progress.first_within _ _) (observe_steps hkeeps hdone)
  rw [hsettled.final handing hhanding, mem_references] at hreference
  obtain hgiven | hstarted := hwithin.registry.fieldsOf handing.row _ hreference
  · exact hgiven
  · exact hsettled.tables target hstarted

/-- A run sums up the tables of its recipe and the references that it has noted. -/
theorem generate_summary (hdone : (recipe.generate request sink out).1 = .ok summary) :
    summary.tables = recipe.tables ∧
      summary.dependencies = (recipe.observe request sink out).2.registry.dependencies := by
  rw [generate_eq_observe] at hdone
  exact observe_summary hdone

/-- The load mapping of a run that succeeds, if references form no cycle among the tables, has a
step for every table, named for it, and no other. Each listed field is a plain field or a look-up of
its table's step: a look-up if a row holds a reference in it, and then one to the table of such a
reference. That table, where it is listed, is the step's own or has its step before. All look-ups
lead to listed tables unless the caller brings rows of others along. -/
theorem mapping_loadable (hdone : (recipe.generate request sink out).1 = .ok summary)
    (hacyclic : ∀ table ∈ summary.tables.keys,
      ¬ TransGen (Refers summary.dependencies summary.tables.keys) table table) :
    (ofSummary summary).keys.Nodup ∧
    (ofSummary summary).keys.Perm (summary.tables.keys.map ("Insert " ++ ·)) ∧
    ∀ table listed, (table, listed) ∈ summary.tables →
      ∃ step, ("Insert " ++ table, step) ∈ ofSummary summary ∧ step.table = table ∧
        (step.fields.keys ++ step.lookups.keys).Nodup ∧
        (step.fields.keys ++ step.lookups.keys).Perm listed ∧
        (∀ name ∈ listed, name ∈ step.lookups.keys ↔
          ∃ target, (recipe.observe request sink out).2.out.Holds table name target) ∧
        ∀ name lookup, (name, lookup) ∈ step.lookups →
          (∃ target, (recipe.observe request sink out).2.out.Holds table name target ∧
            target.table = lookup.table) ∧
          (lookup.table ∈ summary.tables.keys → lookup.table = table ∨
            Precedes (ofSummary summary).keys ("Insert " ++ lookup.table) ("Insert " ++ table)) ∧
          (recipe.Plain → request.KeepsTo summary.tables →
            lookup.table ∈ summary.tables.keys) := by
  rw [generate_eq_observe] at hdone
  have htables : summary.tables = recipe.tables := (observe_summary hdone).1
  have htidy : summary.tables.Tidy := htables ▸ recipe.tables_tidy
  have hsorted : (sortTables summary.dependencies summary.tables.keys).Perm summary.tables.keys :=
    (List.perm_ext_iff_of_nodup (nodup_sortTables _ _) htidy.nodup).mpr fun _ => mem_sortTables
  refine ⟨?_, ?_, fun table listed hentry => ?_⟩
  · rw [keys_ofSummary]
    exact (nodup_sortTables _ _).map name_injective
  · rw [keys_ofSummary]
    exact hsorted.map _
  have hlisted : table ∈ summary.tables.keys := List.mem_map_of_mem hentry
  have hnodup : listed.Nodup := htidy.fields _ hentry
  have hstep := stepOf_eq (Assoc.find?_of_mem htidy.nodup hentry) hnodup
  refine ⟨stepOf summary table, ?_, ?_⟩
  · rw [ofSummary_eq]
    exact List.mem_map_of_mem (mem_sortTables.mpr hlisted)
  rw [hstep]
  have hsplit : ((plainFields summary.dependencies table listed).keys ++
      (lookupsOf summary.dependencies table listed).keys).Perm listed := keys_perm listed
  refine ⟨rfl, hsplit.nodup_iff.mpr hnodup, hsplit, fun name hname => ?_,
    fun name lookup hlookup => ?_⟩
  · have hvisible : isHidden name = false := htidy.written _ hentry name hname
    rw [mem_keys_lookupsOf hname]
    simp [mem_dependencies_iff hdone, hvisible]
  · have hdependency := mem_of_lookup hlookup
    obtain ⟨-, target, hholds, htarget⟩ := (mem_dependencies_iff hdone).mp hdependency
    refine ⟨⟨target, hholds, htarget⟩, fun hmem => ?_, fun hrecipe hrequest => ?_⟩
    · rw [or_iff_not_imp_left, keys_ofSummary]
      intro hne
      have hrefers : Refers summary.dependencies summary.tables.keys table lookup.table :=
        ⟨hmem, hne, _, hdependency, rfl, rfl⟩
      exact (precedes_of_refers hlisted hacyclic hrefers).map _
    · rw [htables] at hrequest ⊢
      exact htarget ▸ listed_of_holds hrecipe hrequest hdone hholds

/-- A recipe for a whole with a part. -/
def assembled : Recipe where
  file := "recipe.yml"
  options := []
  groups := []
  templates :=
    [.mk "Whole" none none
      [.mk "part" (.child (.mk "Part" none none [] [] "recipe.yml" 4) "recipe.yml" 4)
        "recipe.yml" 3] [] "recipe.yml" 1]

theorem assembled_plain : assembled.Plain where
  templates := by
    simp only [assembled, List.forall_mem_singleton]
    refine .mk _ _ _ _ _ _ _ trivial (by simp) (fun _ _ => trivial) ?_ (by simp)
    simp only [List.forall_mem_singleton]
    exact .child _ _ _ (.mk _ _ _ _ _ _ _ trivial (by simp) (by simp) (by simp) (by simp))
  defaults := by simp [assembled]

/-- A single reference from one table to another is no cycle. -/
theorem acyclic_singleton {dependency : Dependency} {tables : List String} {table : String}
    (h : dependency.source ≠ dependency.target) :
    ¬ TransGen (Refers [dependency] tables) table table := by
  intro hcycle
  obtain ⟨_, ⟨_, _, _, hfirst, rfl, _⟩, _⟩ := TransGen.head'_iff.mp hcycle
  obtain ⟨_, _, _, _, _, hlast, _, htarget⟩ := TransGen.tail'_iff.mp hcycle
  obtain rfl := List.mem_singleton.mp hfirst
  obtain rfl := List.mem_singleton.mp hlast
  exact h htarget.symm

theorem mapping_loadable_assembled :
    ∃ summary step, (assembled.generate once Sink.memory {}).1 = .ok summary ∧
      ("Insert Whole", step) ∈ ofSummary summary ∧ "part" ∈ step.lookups.keys ∧
      ∀ name lookup, (name, lookup) ∈ step.lookups → lookup.table = "Whole" ∨
        Precedes (ofSummary summary).keys ("Insert " ++ lookup.table) "Insert Whole" := by
  have hsucceeds : (assembled.generate once Sink.memory {}).1.isOk = true := by decide +kernel
  obtain ⟨summary, hdone⟩ := Gives.exists_of_isOk hsucceeds
  obtain ⟨htables, hdependencies⟩ := generate_summary hdone
  have hlisted : summary.tables = [("Whole", ["part"]), ("Part", [])] := by
    rw [htables]
    decide +kernel
  have hnoted : summary.dependencies = [⟨"Whole", "Part", "part"⟩] := by
    rw [hdependencies]
    decide +kernel
  have hkeepsTo : once.KeepsTo summary.tables :=
    ⟨by simp [once, FieldsWithin], FakeSource.builtin_within⟩
  have hacyclic : ∀ table ∈ summary.tables.keys,
      ¬ TransGen (Refers summary.dependencies summary.tables.keys) table table := by
    rw [hnoted]
    exact fun _ _ => acyclic_singleton (by decide)
  obtain ⟨-, -, hsteps⟩ := mapping_loadable hdone hacyclic
  obtain ⟨step, hstep, -, -, -, hheld, hlookups⟩ := hsteps "Whole" ["part"] (by simp [hlisted])
  have hholds : (assembled.observe once Sink.memory {}).2.out.Holds "Whole" "part"
      ⟨.made 1, "Part", 1⟩ := by
    unfold Logged.Holds
    decide +kernel
  refine ⟨summary, step, hdone, hstep, (hheld "part" (by simp)).mpr ⟨_, hholds⟩,
    fun name lookup hlookup => ?_⟩
  obtain ⟨-, hbefore, hexists⟩ := hlookups name lookup hlookup
  exact hbefore (hexists assembled_plain hkeepsTo)

/-- A recipe whose field takes what a caller brings along. -/
def handedOn : Recipe where
  file := "recipe.yml"
  options := []
  groups := []
  templates := [.mk "A" none none
    [.mk "f" (.value ⟨.text "<<o>>", "recipe.yml", 3⟩) "recipe.yml" 3] [] "recipe.yml" 1]

/-- A request that brings along a row of a table of its own. -/
def withForeignRow : Request :=
  { once with options := [("o", .row ⟨.given 0, "X", 3⟩)] }

theorem handedOn_tables : handedOn.tables = [("A", ["f"])] := by
  decide +kernel

theorem handedOn_dependencies :
    (handedOn.observe withForeignRow Sink.memory {}).2.registry.dependencies =
      [⟨"A", "X", "f"⟩] := by
  decide +kernel

/-- A look-up leads to a table without a step if the row has been brought along. -/
theorem lookup_without_step :
    ∃ summary, (handedOn.generate withForeignRow Sink.memory {}).1 = .ok summary ∧
      (∀ table ∈ summary.tables.keys,
        ¬ TransGen (Refers summary.dependencies summary.tables.keys) table table) ∧
      (∃ step, ("Insert A", step) ∈ ofSummary summary ∧ ("f", ⟨"X", "f"⟩) ∈ step.lookups) ∧
      (ofSummary summary).keys = ["Insert A"] := by
  have hsucceeds : (handedOn.generate withForeignRow Sink.memory {}).1.isOk = true := by
    decide +kernel
  obtain ⟨summary, hdone⟩ := Gives.exists_of_isOk hsucceeds
  obtain ⟨htables, hdependencies⟩ := generate_summary hdone
  rw [handedOn_tables] at htables
  rw [handedOn_dependencies] at hdependencies
  have hlisted : summary.tables.find? "A" = some ["f"] := by
    rw [htables]
    rfl
  have hstep : stepOf summary "A" = ⟨"A", [], [("f", ⟨"X", "f"⟩)]⟩ := by
    rw [stepOf_eq hlisted (by simp), hdependencies]
    rfl
  have hsteps : ofSummary summary = [("Insert A", ⟨"A", [], [("f", ⟨"X", "f"⟩)]⟩)] := by
    rw [ofSummary_eq, htables, hdependencies]
    have hsorted : sortTables [⟨"A", "X", "f"⟩] ["A"] = ["A"] := by decide +kernel
    change (sortTables [⟨"A", "X", "f"⟩] ["A"]).map _ = _
    rw [hsorted, List.map_singleton, hstep]
    rfl
  refine ⟨summary, hdone, ?_, ?_, ?_⟩
  · rw [hdependencies]
    exact fun _ _ => acyclic_singleton (by decide)
  · rw [hsteps]
    exact ⟨_, List.mem_singleton_self _, List.mem_singleton_self _⟩
  · rw [hsteps]
    rfl

end Recipe

end RecordRecipe
