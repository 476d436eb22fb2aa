import RecordRecipe.Proofs.Run.Ledger
import RecordRecipe.Proofs.Run.Watch

/-!
# The registries of a run agree

The last ids, the numbers of rows, the latest rows and the nicknames of a registry are kept apart
from one another and change together, when a row is started. `Recipe.registries_agree` says that
they agree at every moment of every run, and that an activation in which something is rendered knows
how many rows it has started and which one it is building.
-/

namespace RecordRecipe

variable {σ : Type}

/-- What a registry holds about the rows of its tables agrees. -/
structure Registry.Consistent (registry : Registry) : Prop where
  /-- As many rows have been counted as ids have been given out. -/
  totals : ∀ table, registry.totals.value table = registry.ids.value table
  /-- A table has a latest row if ids have been given out. -/
  latest : ∀ table, (registry.latest.find? table).isSome ↔ 0 < registry.ids.value table
  /-- The latest row of a table is the one with its last id. -/
  latest_row : ∀ table, ∀ row ∈ registry.latest.find? table,
    row.table = table ∧ row.id = registry.ids.value table
  /-- A nickname stands for a row whose id has been given out. -/
  nicknames : ∀ entry ∈ registry.nicknames,
    1 ≤ entry.2.id ∧ entry.2.id ≤ registry.ids.value entry.2.table

namespace Registry.Consistent

variable {registry : Registry}

/-- A registry in which no row has been started agrees with itself. -/
theorem start (generator : Random.Generator) : ({ generator } : Registry).Consistent where
  totals := fun _ => rfl
  latest := fun _ => ⟨nofun, nofun⟩
  latest_row := fun _ => nofun
  nicknames := nofun

/-- A registry agrees with itself after a row has been started. -/
theorem startRow (h : registry.Consistent) (table : String) (nickname : Option String) :
    (registry.startRow table nickname).2.Consistent := by
  have hids (other : String) : (registry.startRow table nickname).2.ids.value other =
      if table = other then registry.ids.value table + 1 else registry.ids.value other := by
    rw [startRow_ids, Counters.value_increment]
  refine ⟨fun other => ?_, fun other => ?_, fun other found hfound => ?_, fun entry hentry => ?_⟩
  · rw [hids, startRow_totals, Counters.value_increment, h.totals, h.totals]
  · rw [hids, startRow_latest, Assoc.find?_put]
    split
    · simp
    · exact h.latest other
  · rw [startRow_latest, Assoc.find?_put] at hfound
    rw [hids]
    split at hfound
    next heq =>
      obtain rfl : _ = found := by simpa using hfound
      rw [if_pos heq]
      exact ⟨heq, rfl⟩
    next hne =>
      rw [if_neg hne]
      exact h.latest_row other found hfound
  · rw [hids]
    obtain heq | hold := mem_startRow_nicknames hentry
    · rw [heq, startRow_table, startRow_id, if_pos rfl]
      omega
    · have hbefore := h.nicknames entry hold
      split
      next heq =>
        rw [← heq] at hbefore
        omega
      next => exact hbefore

/-- Drawing random numbers changes none of it. -/
theorem withGenerator (h : registry.Consistent) (generator : Random.Generator) :
    ({ registry with generator }).Consistent :=
  ⟨h.totals, h.latest, h.latest_row, h.nicknames⟩

/-- Setting a field of a row changes none of it. -/
theorem setField (h : registry.Consistent) (row : RowRef) (name : String) (value : FieldValue) :
    (registry.setField row name value).Consistent := by
  unfold Registry.setField
  split
  · exact ⟨h.totals, h.latest, h.latest_row, h.nicknames⟩
  · exact h

/-- Noting the references of a row changes none of it. -/
theorem noteReferences (h : registry.Consistent) (row : RowRef) :
    (registry.noteReferences row).Consistent :=
  ⟨h.totals, h.latest, h.latest_row, h.nicknames⟩

end Registry.Consistent

/-- An activation counts the rows that it has started, and builds the last of them. -/
structure Activation.Counts (activation : Activation) (started : List RowRef) : Prop where
  number : activation.started = started.length
  last : ∀ row ∈ activation.row, started.getLast? = some row
  id : ∀ row ∈ activation.row, activation.currentId = some row.id
  table : ∀ row ∈ activation.row, row.table = activation.table

/-- An activation counts the row that it starts next. -/
theorem Activation.Counts.startRow {table : String} {enclosing : List RowRef} {number : Nat}
    {row : RowRef} {started : List RowRef}
    (h : (Frame.between table enclosing number).activation.Counts started)
    (htable : row.table = table) :
    (Activation.ofRow table enclosing (number + 1) row).Counts (started ++ [row]) where
  number := by
    rw [List.length_append, ← h.number]
    rfl
  last := by
    rintro _ ⟨⟩
    exact List.getLast?_concat
  id := by
    rintro _ ⟨⟩
    rfl
  table := by
    rintro _ ⟨⟩
    exact htable

/-- The activations of a stack count the rows that they have started. -/
def Counted (frames : List Frame) (activations : List (List RowRef)) : Prop :=
  List.Forall₂ (fun frame started => frame.activation.Counts started) frames activations

namespace Counted

variable {frame other : Frame} {frames : List Frame} {activations : List (List RowRef)}

/-- The rows of the innermost activation come first. -/
theorem top (h : Counted (frame :: frames) activations) :
    frame.activation.Counts (activations.headD []) := by
  obtain ⟨started, rest, hstarted, _, rfl⟩ := List.forall₂_cons_left_iff.mp h
  exact hstarted

theorem tail (h : Counted (frame :: frames) activations) : Counted frames activations.tail := by
  obtain ⟨started, rest, _, hrest, rfl⟩ := List.forall₂_cons_left_iff.mp h
  exact hrest

/-- The innermost activation changes while its rows stay the same. -/
theorem become (h : Counted (frame :: frames) activations)
    (hother : ∀ started, frame.activation.Counts started → other.activation.Counts started) :
    Counted (other :: frames) activations := by
  obtain ⟨started, rest, hstarted, hrest, rfl⟩ := List.forall₂_cons_left_iff.mp h
  exact .cons (hother started hstarted) hrest

/-- The innermost activation starts a row. -/
theorem startRow {table : String} {enclosing : List RowRef} {number : Nat} {row : RowRef}
    (h : Counted (.between table enclosing number :: frames) activations)
    (htable : row.table = table) :
    Counted (.ofRow table enclosing (number + 1) row false :: frames)
      (activations.modifyHead (· ++ [row])) := by
  obtain ⟨started, rest, hstarted, hrest, rfl⟩ := List.forall₂_cons_left_iff.mp h
  exact .cons (hstarted.startRow htable) hrest

end Counted

/-- What is seen at a moment is in order. -/
structure Sighting.Sound (sighting : Sighting) : Prop where
  registry : sighting.registry.Consistent
  activation : ∀ activation ∈ sighting.moment.rendersIn?, activation.Counts sighting.started

/-- The registry agrees with itself, and everything that has been seen was in order. -/
structure Machine.Sound (machine : Machine (Watched σ)) : Prop where
  registry : machine.registry.Consistent
  sightings : ∀ sighting ∈ machine.out.sightings, sighting.Sound

/-- A moment is seen. -/
theorem Machine.Sound.see {machine : Machine (Watched σ)} {moment : Moment} (h : machine.Sound)
    (hmoment : ∀ activation ∈ moment.rendersIn?,
      activation.Counts ((Watched.follow machine.out.activations moment).headD [])) :
    ({ machine with out := machine.out.see moment machine.registry }).Sound where
  registry := h.registry
  sightings := fun sighting hsighting => by
    obtain hsighting | hsighting := List.mem_append.mp hsighting
    · exact h.sightings sighting hsighting
    · rw [List.mem_singleton.mp hsighting]
      exact ⟨h.registry, hmoment⟩

namespace Simulation

/-- A run that is watched, beside itself. -/
def watching (setting : Setting) (sink : Sink σ) : Simulation (Watched σ) (Watched σ) where
  rules := Rules.all
  setting := setting
  left := sink.watchingDesk
  right := sink.watchingDesk
  rel := fun frames machine other =>
    machine = other ∧ machine.Sound ∧ Counted frames machine.out.activations
  known := fun _ _ => True
  broken := fun machine other => machine = other ∧ machine.Sound

variable {setting : Setting} {sink : Sink σ} {machine : Machine (Watched σ)}

/-- A moment is seen on both sides. -/
theorem see_outcome {frames : List Frame} {moment : Moment} (hsound : machine.Sound)
    (hmoment : ∀ activation ∈ moment.rendersIn?,
      activation.Counts ((Watched.follow machine.out.activations moment).headD []))
    (hcounted : Counted frames (Watched.follow machine.out.activations moment)) :
    (watching setting sink).Outcome (fun _ => True) frames SamePlain
      (sink.watchingDesk.note moment machine) (sink.watchingDesk.note moment machine) :=
  .ok () () _ _ ⟨rfl, hsound.see hmoment, hcounted⟩ (fun _ h => h) rfl

/-- What a sink does changes nothing that is seen. -/
theorem onOut_outcome {frames : List Frame} (action : Action σ Unit) (hsound : machine.Sound)
    (hcounted : Counted frames machine.out.activations) :
    (watching setting sink).Outcome (fun _ => True) frames SamePlain
      (Running.onOut (Watched.unseen action) machine)
      (Running.onOut (Watched.unseen action) machine) := by
  rw [Machine.onOut_unseen]
  generalize action machine.out.out = run
  obtain ⟨answer, out⟩ := run
  cases answer with
  | ok done => exact .ok () () _ _ ⟨rfl, ⟨hsound.1, hsound.2⟩, hcounted⟩ (fun _ h => h) rfl
  | error error => exact .error error _ _ (.inr ⟨rfl, hsound.1, hsound.2⟩)

/-- The registries agree step by step. -/
theorem watching_lawful : (watching setting sink).Lawful where
  patient := .of_never fun _ _ hahead => hahead
  registry_eq := fun hrel => congrArg Machine.registry hrel.1
  registry_within := fun _ =>
    ⟨fun _ _ => trivial, fun _ _ => trivial, fun _ _ _ _ => within_true _⟩
  surrounded := fun _ => surrounded_true _ _
  draw := by
    rintro frames machine _ generator ⟨rfl, hsound, hcounted⟩
    have hdrawn : (machine.withGenerator generator).Sound :=
      ⟨hsound.registry.withGenerator generator, hsound.sightings⟩
    exact ⟨⟨rfl, hdrawn, hcounted⟩, fun _ h => h⟩
  enter := by
    rintro frames machine _ template ⟨rfl, hsound, hcounted⟩
    have hnew : (Frame.between template.table (rowsOf frames) 0).activation.Counts [] :=
      ⟨rfl, nofun, nofun, nofun⟩
    exact see_outcome hsound nofun (.cons hnew hcounted)
  render := by
    rintro frame frames machine _ moment ⟨rfl, hsound, hcounted⟩ hmoment
    have hfollow : Watched.follow machine.out.activations moment = machine.out.activations := by
      cases moment with
      | rendering | rendered | opened | closed => rfl
      | entered | failed | started | left => cases hmoment
    rw [← hfollow] at hcounted
    refine see_outcome hsound (fun activation hactivation => ?_) hcounted
    -- What is rendered is rendered in the innermost activation.
    obtain rfl := Option.some.inj (hmoment.symm.trans hactivation)
    exact hcounted.top
  failed := by
    intro machine other activation error hfailed
    have hbroken : machine = other ∧ machine.Sound := by
      obtain ⟨_, heq, hsound, _⟩ | hbroken := hfailed
      · exact ⟨heq, hsound⟩
      · exact hbroken
    obtain ⟨rfl, hsound⟩ := hbroken
    exact .inr ⟨rfl, hsound.see nofun⟩
  start := by
    rintro table enclosing started frames machine _ nickname ⟨rfl, hsound, hcounted⟩ _ row rfl
    have hstarted : (machine.startRow table nickname).Sound :=
      ⟨hsound.registry.startRow table nickname, hsound.sightings⟩
    exact see_outcome hstarted nofun (hcounted.startRow rfl)
  setField := by
    rintro table enclosing number row frames machine _ name value ⟨rfl, hsound, hcounted⟩ _ _
    have hset : (machine.setField row name value).Sound :=
      ⟨hsound.registry.setField row name value, hsound.sightings⟩
    exact ⟨⟨rfl, hset, hcounted⟩, fun _ h => h⟩
  hand := by
    rintro table enclosing number row frames machine _ ⟨rfl, hsound, hcounted⟩
    have hnoted : (machine.noteReferences row).Sound :=
      ⟨hsound.registry.noteReferences row, hsound.sightings⟩
    -- The sink knows nothing of what has been seen.
    change Outcome _ _ _ _ (Running.onOut (sink.watched.write _) (machine.noteReferences row))
      (Running.onOut (sink.watched.write _) (machine.noteReferences row))
    rw [Sink.watched_write]
    exact onOut_outcome (sink.write _) hnoted (hcounted.become fun _ hcounts => hcounts)
  leave := by
    rintro table enclosing number row frames machine _ ⟨rfl, hsound, hcounted⟩
    refine ⟨rfl, hsound, hcounted.become fun started hcounts => ?_⟩
    exact ⟨hcounts.number, nofun, nofun, nofun⟩
  exit := by
    rintro table enclosing started frames machine _ ⟨rfl, hsound, hcounted⟩
    exact see_outcome hsound nofun hcounted.tail

/-- The registries of a run agree whatever is done in it. -/
theorem carryOutWith_watching (recipe : Recipe) (request : Request) (merged : MergedOptions)
    (sink : Sink σ) (out : σ) :
    (watching (request.setting merged) sink).Outcome (fun _ => True) [] SamePlain
      (recipe.carryOutWith request merged sink.watched sink.watchingDesk (request.start { out }))
      (recipe.carryOutWith request merged sink.watched sink.watchingDesk
        (request.start { out })) := by
  have hstart : (request.start (Watched.mk out [] [])).Sound :=
    ⟨.start request.generator, List.forall_mem_nil _⟩
  refine carryOutWith_agrees watching_lawful rfl (fun template _ => template.obeys_all) ?_ ?_
  · rw [Sink.watched_declare]
    exact onOut_outcome (sink.declare recipe.tables) hstart .nil
  · refine ⟨?_, fun _ _ hahead => hahead.elim⟩
    rintro machine _ ⟨rfl, hsound, hcounted⟩ _
    rw [Sink.watched_flush]
    exact onOut_outcome sink.flush hsound hcounted

end Simulation

namespace Recipe

/-- Whenever something is rendered in a run, as many rows of every table have been counted as ids
have been given out, the latest row of a table is the one with its last id, a nickname stands for a
row whose id has been given out, and the activation knows its rows. -/
theorem registries_agree (recipe : Recipe) (request : Request) (sink : Sink σ) (out : σ) :
    recipe.generate request sink out =
      ((recipe.watch request sink out).1, (recipe.watch request sink out).2.out.out) ∧
    (∀ sighting ∈ (recipe.watch request sink out).2.out.sightings, sighting.Sound) ∧
    (recipe.watch request sink out).2.registry.Consistent := by
  refine ⟨generate_eq_watch recipe request sink out, ?_⟩
  unfold watch
  cases hmerged : mergeOptions recipe.options request.options with
  | error error =>
      rw [carryOut_eq_fail hmerged]
      exact ⟨List.forall_mem_nil _, .start request.generator⟩
  | ok merged =>
      have hrun := Simulation.carryOutWith_watching recipe request merged sink out
      rw [carryOut_eq hmerged]
      generalize recipe.carryOutWith request merged sink.watched sink.watchingDesk
        (request.start { out }) = run at hrun ⊢
      cases hrun with
      | ok _ _ machine _ hrel _ _ => exact ⟨hrel.2.1.sightings, hrel.2.1.registry⟩
      | error error machine _ hfailed =>
          obtain ⟨_, _, hsound, _⟩ | ⟨_, hsound⟩ := hfailed
          · exact ⟨hsound.sightings, hsound.registry⟩
          · exact ⟨hsound.sightings, hsound.registry⟩
      | behind error machine result other hahead _ => exact hahead.elim

theorem registries_agree_nested :
    ∃ sighting ∈ (nested.watch once Sink.memory {}).2.out.sightings,
      sighting.moment.rendersIn?.isSome ∧ sighting.started.length = 2 ∧ sighting.Sound := by
  have hseen : (nested.watch once Sink.memory {}).2.out.sightings.any (fun sighting =>
      sighting.moment.rendersIn?.isSome && sighting.started.length == 2) = true := by
    decide +kernel
  obtain ⟨sighting, hsighting, hmoment⟩ := List.any_eq_true.mp hseen
  obtain ⟨hrenders, hstarted⟩ := Bool.and_eq_true_iff.mp hmoment
  exact ⟨sighting, hsighting, hrenders, by simpa using hstarted,
    (registries_agree nested once Sink.memory {}).2.1 sighting hsighting⟩

end Recipe

end RecordRecipe
