import RecordRecipe.Proofs.Recipe.Plain
import RecordRecipe.Proofs.Run.Ledger

/-!
# Where references point

Any row that has been started may be referenced, by its nickname, its table or its place around
another row. Those that are not handed over yet when some row is, are that row and rows around it:
what has been started has been handed over or waits on a bench. `references_point_back` is what
follows for whole runs.
-/

namespace RecordRecipe

variable {σ : Type}

/-- The references of a row that is handed over point to rows that have been handed over before, to
the row itself, or to rows around it. -/
def Handing.PointsBack (handing : Handing) (earlier : List Handing) : Prop :=
  ∀ reference ∈ references handing.fields,
    reference.2 ∈ earlier.map Handing.row ∨ reference.2 = handing.row ∨
      reference.2 ∈ handing.activation.enclosing

/-- A run in which references point back. -/
structure Pointing (progress : Progress σ) : Prop where
  within : progress.Within noRow
  ledger : Ledger progress
  back : ∀ earlier handing later, progress.machine.out.handed = earlier ++ handing :: later →
    handing.activation.row = some handing.row ∧ handing.PointsBack earlier

namespace Pointing

/-- What the row on the last bench references has been handed over, is the row, or is around it. -/
theorem pointsBack {benches : List Bench} {machine : Machine (Logged σ)} {row : RowRef}
    (h : Pointing ⟨⟨row, false⟩ :: benches, machine⟩) {activation : Activation}
    (henclosing : activation.enclosing = benchRows benches) :
    Handing.PointsBack ⟨activation, row, machine.registry.fieldsOf row⟩ machine.out.handed := by
  rintro ⟨name, target⟩ hreference
  -- What is known has been started, and is handed over, this row, or waits below it.
  have hknown : machine.Known noRow target :=
    h.within.registry.fieldsOf row (name, .row target) (mem_references.mp hreference)
  have hstarted : target ∈ machine.out.handedRows ++ row :: waiting benches :=
    h.ledger.accounted.mem_iff.mp hknown.started
  rw [List.mem_append, List.mem_cons] at hstarted
  obtain hhanded | rfl | hwaiting := hstarted
  · exact .inl hhanded
  · exact .inr (.inl rfl)
  · refine .inr (.inr ?_)
    rw [henclosing]
    exact waiting_subset benches hwaiting

/-- References point back behind a row that is handed over. -/
theorem handOver {benches : List Bench} {machine : Machine (Logged σ)} {row : RowRef}
    (h : Pointing ⟨⟨row, false⟩ :: benches, machine⟩) {activation : Activation} (out : σ)
    (hrow : activation.row = some row) (henclosing : activation.enclosing = benchRows benches) :
    Pointing ⟨⟨row, true⟩ :: benches, machine.handOver activation row out⟩ where
  within := ⟨⟨h.within.registry.nicknames, h.within.registry.latest, h.within.registry.fields⟩,
    h.within.benches⟩
  ledger := h.ledger.handOver activation out
  back := by
    intro earlier handing later hsplit
    change machine.out.handed ++ [_] = _ at hsplit
    -- The split is either behind all rows handed over before, or within them.
    obtain rfl | ⟨rest, last, rfl⟩ := List.eq_nil_or_concat later
    · obtain ⟨rfl, hlast⟩ := List.append_inj' hsplit rfl
      obtain rfl := List.singleton_injective hlast
      exact ⟨hrow, h.pointsBack henclosing⟩
    · rw [List.concat_eq_append, ← List.cons_append, ← List.append_assoc] at hsplit
      exact h.back earlier handing rest (List.append_inj' hsplit rfl).1

end Pointing

variable {sink : Sink σ} {rules : Rules} {before after : Progress σ}

/-- References point back after every step. -/
theorem Step.pointing (hstep : Step sink rules noRow before after) (h : Pointing before) :
    Pointing after := by
  have hwithin := hstep.within h.within
  have hledger := hstep.ledger h.ledger
  cases hstep with
  | handOver benches machine row activation out hrow henclosing _ =>
      exact h.handOver out hrow henclosing
  | draw | begin | setField | leave | flush => exact ⟨hwithin, hledger, h.back⟩

/-- References point back after a sink has failed. -/
theorem Break.pointing (hbreak : Break sink before after) (h : Pointing before) :
    Pointing after := by
  have hledger := hbreak.ledger h.ledger
  cases hbreak with
  | handOver benches machine row activation out _ hrow henclosing _ =>
      exact h.handOver out hrow henclosing
  | flush benches machine out _ _ =>
      exact ⟨⟨h.within.registry, h.within.benches⟩, hledger, h.back⟩

namespace Recipe

variable {recipe : Recipe} {request : Request}

/-- References point back in any run. -/
theorem pointing_of_any (hrecipe : recipe.Plain) (hrequest : request.Plain) (sink : Sink σ)
    (out : σ) : ∃ benches, Pointing ⟨benches, (recipe.observe request sink out).2⟩ := by
  obtain ⟨start, benches, hreaches⟩ := observe_reaches sink out (hrecipe.keeps hrequest)
  have hfirst : Pointing (Progress.first request.generator start) :=
    ⟨Progress.first_within _ _, .first _ _, fun _ _ _ hsplit => by simp [Progress.first] at hsplit⟩
  exact ⟨benches, hreaches.keep hfirst (fun hstep => hstep.pointing) fun h => h.pointing⟩

/-- A row that is handed over references rows that have been handed over before it, itself, and rows
around it. What it references and is handed over later is a row around it. -/
theorem references_point_back (hrecipe : recipe.Plain) (hrequest : request.Plain) (sink : Sink σ)
    (out : σ) {earlier later : List Handing} {handing : Handing}
    (hhanded : (recipe.observe request sink out).2.out.handed = earlier ++ handing :: later) :
    handing.activation.row = some handing.row ∧
    ∀ reference ∈ references handing.fields,
      (reference.2 ∈ earlier.map Handing.row ∨ reference.2 = handing.row ∨
        reference.2 ∈ handing.activation.enclosing) ∧
      (reference.2 ∈ later.map Handing.row → reference.2 ∈ handing.activation.enclosing) := by
  obtain ⟨benches, hpointing⟩ := pointing_of_any hrecipe hrequest sink out
  obtain ⟨hrow, hback⟩ := hpointing.back earlier handing later hhanded
  refine ⟨hrow, fun reference hreference => ⟨hback reference hreference, fun hlater => ?_⟩⟩
  have hnodup : (earlier.map Handing.row ++ handing.row :: later.map Handing.row).Nodup := by
    have hrows : (recipe.observe request sink out).2.out.handedRows.Nodup :=
      hpointing.ledger.nodup_handed
    rw [Logged.handedRows, hhanded] at hrows
    simpa using hrows
  -- What comes later is neither what has come before nor the row itself.
  rw [List.nodup_append, List.nodup_cons] at hnodup
  obtain ⟨_, ⟨hself, _⟩, hdisjoint⟩ := hnodup
  obtain hearlier | hitself | henclosing := hback reference hreference
  · exact absurd rfl (hdisjoint _ hearlier _ (List.mem_cons_of_mem _ hlater))
  · exact absurd (hitself ▸ hlater) hself
  · exact henclosing

theorem nested_plain : nested.Plain where
  templates := by
    simp only [nested, List.forall_mem_singleton]
    refine .mk _ _ _ _ _ _ _ trivial (by simp) (fun _ _ => trivial) ?_ ?_
    · simp only [List.forall_mem_singleton]
      exact .child _ _ _ (.mk _ _ _ _ _ _ _ trivial (by simp) (by simp) (by simp) (by simp))
    · simp only [List.forall_mem_singleton]
      exact .mk _ _ _ _ _ _ _ trivial (by simp) (by simp) (by simp) (by simp)
  defaults := by simp [nested]

theorem once_plain : once.Plain where
  options := by simp [once, FieldsWithin]
  fake := FakeSource.builtin_within

theorem references_point_back_nested :
    ∃ earlier handing later,
      (nested.observe once Sink.memory {}).2.out.handed = earlier ++ handing :: later ∧
      ("part", ⟨.made 1, "A", 2⟩) ∈ references handing.fields ∧
      (⟨.made 1, "A", 2⟩ ∈ earlier.map Handing.row ∨ ⟨.made 1, "A", 2⟩ = handing.row ∨
        ⟨.made 1, "A", 2⟩ ∈ handing.activation.enclosing) := by
  have hhanded : ∃ handing ∈ (nested.observe once Sink.memory {}).2.out.handed,
      ("part", ⟨.made 1, "A", 2⟩) ∈ references handing.fields := by decide +kernel
  obtain ⟨handing, hmem, hreference⟩ := hhanded
  obtain ⟨earlier, later, hsplit⟩ := List.append_of_mem hmem
  have hpoints := references_point_back nested_plain once_plain Sink.memory {} hsplit
  exact ⟨earlier, handing, later, hsplit, hreference, (hpoints.2 _ hreference).1⟩

end Recipe

end RecordRecipe
