import Mathlib.Data.Set.Finite.List
import Mathlib.Data.List.Nodup
import Mathlib.Logic.Relation
import Mathlib.Order.WellFounded
import RecordRecipe.Mapping.Order
import RecordRecipe.Proofs.Text.Bytes

/-!
# The loading order of tables

A table in the loading order either follows all tables that it references, or stands at a point
where every table that is left waits for another one that is left, and is the alphabetically first
of these. `sortTables_justified` says so of every place in the order, and what is said here about
whole orders is drawn from it.
-/

namespace RecordRecipe.Mapping

open Relation

variable {dependencies : List Dependency} {tables remaining placed : List String}
  {table other : String}

/-- A table references another one of some tables. -/
def Refers (dependencies : List Dependency) (tables : List String) (table other : String) : Prop :=
  other ∈ tables ∧ other ≠ table ∧ ∃ d ∈ dependencies, d.source = table ∧ d.target = other

/-- A table references, among some tables, none but those of a part. -/
def Follows (dependencies : List Dependency) (tables part : List String) (table : String) : Prop :=
  ∀ other, Refers dependencies tables table other → other ∈ part

/-- A table is free if it references none of the tables that remain. -/
theorem isFree_iff :
    isFree dependencies remaining table = true ↔
      ∀ other, ¬ Refers dependencies remaining table other := by
  simp only [isFree, List.all_eq_true, Refers, Bool.or_eq_true, decide_eq_true_eq,
    Bool.not_eq_true', List.contains_eq_mem, decide_eq_false_iff_not]
  constructor
  · rintro h other ⟨hother, hne, d, hd, rfl, rfl⟩
    obtain (h | h) | h := h d hd
    · exact h rfl
    · exact hne h
    · exact h hother
  · intro h d hd
    by_contra hnot
    push Not at hnot
    obtain ⟨⟨hsource, htarget⟩, hremains⟩ := hnot
    exact h d.target ⟨hremains, htarget, d, hd, hsource, rfl⟩

@[simp] theorem mem_distinct : table ∈ distinct tables ↔ table ∈ tables := by
  induction tables with
  | nil => simp [distinct]
  | cons first rest ih =>
      by_cases hfirst : table = first <;> simp [distinct, ih, hfirst]

theorem nodup_distinct (tables : List String) : (distinct tables).Nodup := by
  induction tables with
  | nil => simp [distinct]
  | cons first rest ih => exact List.nodup_cons.mpr ⟨by simp, ih.filter _⟩

theorem least_mem (table : String) (others : List String) :
    least table others ∈ table :: others := by
  unfold least
  induction others generalizing table with
  | nil => simp
  | cons other rest ih =>
      rw [List.foldl_cons]
      split
      · exact List.mem_cons_of_mem _ (ih other)
      · obtain h | h := List.mem_cons.mp (ih table)
        · rw [h]
          exact List.mem_cons_self
        · exact List.mem_cons_of_mem _ (List.mem_cons_of_mem _ h)

theorem least_le (table : String) (others : List String) :
    ∀ other ∈ table :: others, least table others ≤ other := by
  unfold least
  induction others generalizing table with
  | nil => simp
  | cons next rest ih =>
      rw [List.foldl_cons]
      split
      next hless =>
        intro other hother
        obtain ⟨hfirst, hrest⟩ := List.forall_mem_cons.mp (ih next)
        obtain rfl | rfl | hother := by simpa using hother
        · exact hfirst.trans hless.le
        · exact hfirst
        · exact hrest other hother
      next hmore =>
        intro other hother
        obtain ⟨hfirst, hrest⟩ := List.forall_mem_cons.mp (ih table)
        obtain rfl | rfl | hother := by simpa using hother
        · exact hfirst
        · exact hfirst.trans (not_lt.mp hmore)
        · exact hrest other hother

/-- A round places all free tables, or else the alphabetically first of those that remain. -/
theorem round_cases (dependencies : List Dependency) (h : remaining ≠ []) :
    (round dependencies remaining = remaining.filter (isFree dependencies remaining) ∧
      round dependencies remaining ≠ []) ∨
    ((∀ table ∈ remaining, ∃ other, Refers dependencies remaining table other) ∧
      ∃ table ∈ remaining, round dependencies remaining = [table] ∧
        ∀ other ∈ remaining, table ≤ other) := by
  obtain ⟨first, rest, rfl⟩ := List.exists_cons_of_ne_nil h
  cases hfree : (first :: rest).filter (isFree dependencies (first :: rest)) with
  | nil =>
      have hround : round dependencies (first :: rest) = [least first rest] := by
        unfold round
        rw [hfree]
      refine .inr ⟨fun table htable => ?_, _, least_mem first rest, hround, least_le first rest⟩
      have hwaits := List.filter_eq_nil_iff.mp hfree table htable
      rw [isFree_iff] at hwaits
      push Not at hwaits
      exact hwaits
  | cons table more =>
      have hround : round dependencies (first :: rest) = table :: more := by
        unfold round
        rw [hfree]
      exact .inl ⟨hround, by simp [hround]⟩

/-- What a round places remains before it. -/
theorem round_subset : round dependencies remaining ⊆ remaining := by
  by_cases h : remaining = []
  · subst h
    simp [round]
  · obtain ⟨hround, _⟩ | ⟨_, table, htable, hround, _⟩ := round_cases dependencies h
    · rw [hround]
      exact List.filter_subset_self _
    · simpa [hround] using htable

theorem nodup_round (h : remaining.Nodup) : (round dependencies remaining).Nodup := by
  by_cases hnil : remaining = []
  · subst hnil
    simp [round]
  · obtain ⟨hround, _⟩ | ⟨_, table, _, hround, _⟩ := round_cases dependencies hnil
    · rw [hround]
      exact h.filter _
    · simp [hround]

/-- The tables that remain after a round. -/
def afterRound (dependencies : List Dependency) (remaining : List String) : List String :=
  remaining.filter fun table => !(round dependencies remaining).contains table

theorem placeAll_cons (fuel : Nat) (h : remaining ≠ []) :
    placeAll dependencies (fuel + 1) remaining =
      round dependencies remaining ++
        placeAll dependencies fuel (afterRound dependencies remaining) := by
  obtain ⟨first, rest, rfl⟩ := List.exists_cons_of_ne_nil h
  rfl

/-- A round places what does not remain behind it. -/
theorem round_append_perm (dependencies : List Dependency) (h : remaining.Nodup) :
    (round dependencies remaining ++ afterRound dependencies remaining).Perm remaining := by
  refine (List.perm_ext_iff_of_nodup ?_ h).mpr fun table => ?_
  · refine (nodup_round h).append (h.filter _) fun table hplaced hleft => ?_
    simp [afterRound, hplaced] at hleft
  · rw [List.mem_append, afterRound, List.mem_filter]
    constructor
    · rintro (hplaced | ⟨hleft, _⟩)
      · exact round_subset hplaced
      · exact hleft
    · intro hremains
      by_cases hplaced : table ∈ round dependencies remaining
      · exact .inl hplaced
      · exact .inr ⟨hremains, by simpa using hplaced⟩

/-- Every round places a table. -/
theorem length_afterRound_lt (dependencies : List Dependency) (h : remaining.Nodup)
    (hne : remaining ≠ []) :
    (afterRound dependencies remaining).length < remaining.length := by
  have hlength := (round_append_perm dependencies h).length_eq
  have hplaced : round dependencies remaining ≠ [] := by
    obtain ⟨_, hround⟩ | ⟨_, _, _, hround, _⟩ := round_cases dependencies hne
    · exact hround
    · simp [hround]
  have hpos := List.length_pos_iff.mpr hplaced
  rw [List.length_append] at hlength
  omega

/-- As many rounds as there are tables place all of them. -/
theorem placeAll_perm {fuel : Nat} (dependencies : List Dependency)
    (hfuel : remaining.length ≤ fuel) (h : remaining.Nodup) :
    (placeAll dependencies fuel remaining).Perm remaining := by
  induction fuel generalizing remaining with
  | zero =>
      obtain rfl := List.length_eq_zero_iff.mp (Nat.le_zero.mp hfuel)
      exact .refl []
  | succ fuel ih =>
      by_cases hne : remaining = []
      · subst hne
        exact .refl []
      · have hless := length_afterRound_lt dependencies h hne
        rw [placeAll_cons fuel hne]
        have hrest : (placeAll dependencies fuel (afterRound dependencies remaining)).Perm _ :=
          ih (by omega) (h.filter _)
        exact (hrest.append_left _).trans (round_append_perm dependencies h)

/-- More rounds than there are tables change nothing. -/
theorem placeAll_eq {fuel more : Nat} (hfuel : remaining.length ≤ fuel)
    (hmore : remaining.length ≤ more) (h : remaining.Nodup) :
    placeAll dependencies fuel remaining = placeAll dependencies more remaining := by
  induction fuel generalizing remaining more with
  | zero =>
      obtain rfl := List.length_eq_zero_iff.mp (Nat.le_zero.mp hfuel)
      cases more <;> rfl
  | succ fuel ih =>
      by_cases hne : remaining = []
      · subst hne
        cases more <;> rfl
      · have hless := length_afterRound_lt dependencies h hne
        obtain ⟨more, rfl⟩ := Nat.exists_eq_add_of_lt (Nat.zero_lt_of_lt (hless.trans_le hmore))
        have hrest : placeAll dependencies fuel (afterRound dependencies remaining) =
            placeAll dependencies more (afterRound dependencies remaining) :=
          ih (by omega) (by omega) (h.filter _)
        rw [Nat.zero_add, placeAll_cons fuel hne, placeAll_cons more hne, hrest]

/-- A place in an order is justified: the table follows all that it references, or else every table
that is left waits for another one that is left, and this is the alphabetically first of them. -/
def Justified (dependencies : List Dependency) (tables earlier : List String) (table : String)
    (later : List String) : Prop :=
  Follows dependencies tables earlier table ∨
    (∀ waiting ∈ table :: later, ¬ Follows dependencies tables earlier waiting) ∧
      ∀ other ∈ later, table ≤ other

/-- The tables are split into those that have been placed and those that remain. -/
structure Split (tables placed remaining : List String) : Prop where
  nodup : remaining.Nodup
  mem_iff : ∀ table, table ∈ tables ↔ table ∈ placed ∨ table ∈ remaining
  disjoint : ∀ table ∈ remaining, table ∉ placed

namespace Split

/-- The tables are split behind a round as well. -/
theorem afterRound (h : Split tables placed remaining) :
    Split tables (placed ++ round dependencies remaining)
      (afterRound dependencies remaining) where
  nodup := h.nodup.filter _
  mem_iff := fun table => by
    have hround := (round_append_perm dependencies h.nodup).mem_iff (a := table)
    rw [h.mem_iff, ← hround, List.mem_append, List.mem_append, or_assoc]
  disjoint := fun table hleft hplaced => by
    obtain ⟨hremains, hnot⟩ := List.mem_filter.mp hleft
    obtain hplaced | hplaced := List.mem_append.mp hplaced
    · exact h.disjoint table hremains hplaced
    · simp [hplaced] at hnot

/-- A table that waits for nothing that remains follows all that it references. -/
theorem follows_iff (h : Split tables placed remaining) :
    Follows dependencies tables placed table ↔
      ∀ other, ¬ Refers dependencies remaining table other := by
  constructor
  · rintro hfollows other ⟨hremains, hrefers⟩
    have hlisted : other ∈ tables := (h.mem_iff other).mpr (.inr hremains)
    exact h.disjoint other hremains (hfollows other ⟨hlisted, hrefers⟩)
  · rintro hfree other ⟨hlisted, hrefers⟩
    obtain hplaced | hremains := (h.mem_iff other).mp hlisted
    · exact hplaced
    · exact absurd ⟨hremains, hrefers⟩ (hfree other)

end Split

/-- A table follows what it references behind more tables as well. -/
theorem Follows.mono {part more : List String} (h : Follows dependencies tables part table)
    (hpart : part ⊆ more) : Follows dependencies tables more table :=
  fun other hrefers => hpart (h other hrefers)

/-- A place in a round is justified by what has been placed before the round. -/
theorem round_justified (h : Split tables placed remaining) {earlier more later : List String}
    (hround : round dependencies remaining = earlier ++ table :: more)
    (hleft : table :: (more ++ later) ⊆ remaining) :
    Justified dependencies tables (placed ++ earlier) table (more ++ later) := by
  have hne : remaining ≠ [] := by
    rintro rfl
    simp [round] at hround
  obtain ⟨hfree, _⟩ | ⟨hwait, first, _, hfirst, hleast⟩ := round_cases dependencies hne
  · have htable : table ∈ remaining.filter (isFree dependencies remaining) := by
      rw [← hfree, hround]
      simp
    have hfollows := h.follows_iff.mpr (isFree_iff.mp (List.mem_filter.mp htable).2)
    exact .inl (hfollows.mono (List.subset_append_left _ _))
  · -- Where nothing is free a round places one table.
    rw [hfirst] at hround
    obtain ⟨rfl, rfl, rfl⟩ : earlier = [] ∧ first = table ∧ more = [] := by
      cases earlier with
      | nil => simpa [eq_comm] using hround
      | cons other rest => simp at hround
    refine .inr ⟨fun waiting hwaiting => ?_, fun other hother => ?_⟩
    · rw [List.append_nil, h.follows_iff]
      push Not
      exact hwait waiting (hleft hwaiting)
    · exact hleast other (hleft (List.mem_cons_of_mem _ hother))

/-- Every place in what a number of rounds place is justified. -/
theorem placeAll_justified {fuel : Nat} (hfuel : remaining.length ≤ fuel)
    (h : Split tables placed remaining) {earlier later : List String}
    (hplace : placeAll dependencies fuel remaining = earlier ++ table :: later) :
    Justified dependencies tables (placed ++ earlier) table later := by
  induction fuel generalizing placed remaining earlier with
  | zero => simp [placeAll] at hplace
  | succ fuel ih =>
      have hne : remaining ≠ [] := by
        rintro rfl
        simp [placeAll] at hplace
      have hless := length_afterRound_lt dependencies h.nodup hne
      have hperm := placeAll_perm dependencies hfuel h.nodup
      rw [hplace] at hperm
      have hleft : table :: later ⊆ remaining := fun other hother =>
        hperm.subset (List.mem_append_right earlier hother)
      rw [placeAll_cons fuel hne] at hplace
      -- The place is behind the first round or in it.
      obtain ⟨more, rfl, hrest⟩ | ⟨more, hround, hlater⟩ := List.append_eq_append_iff.mp hplace
      · rw [← List.append_assoc]
        exact ih (by omega) h.afterRound hrest
      · obtain ⟨rfl, hrest⟩ | ⟨more, rfl, rfl⟩ := List.append_eq_cons_iff.mp hlater.symm
        · rw [List.append_nil] at hround
          subst hround
          have hjustified : Justified dependencies tables
              ((placed ++ round dependencies remaining) ++ []) table later :=
            ih (by omega) h.afterRound hrest
          simpa using hjustified
        · exact round_justified h hround hleft

/-- The order lists the tables, each once. -/
theorem sortTables_perm (dependencies : List Dependency) (tables : List String) :
    (sortTables dependencies tables).Perm (distinct tables) :=
  placeAll_perm dependencies le_rfl (nodup_distinct tables)

theorem mem_sortTables : table ∈ sortTables dependencies tables ↔ table ∈ tables := by
  rw [(sortTables_perm dependencies tables).mem_iff, mem_distinct]

theorem nodup_sortTables (dependencies : List Dependency) (tables : List String) :
    (sortTables dependencies tables).Nodup :=
  (sortTables_perm dependencies tables).nodup_iff.mpr (nodup_distinct tables)

/-- Every place in the order is justified. -/
theorem sortTables_justified {earlier later : List String}
    (h : sortTables dependencies tables = earlier ++ table :: later) :
    Justified dependencies tables earlier table later := by
  have hsplit : Split tables [] (distinct tables) := ⟨nodup_distinct tables, by simp, by simp⟩
  exact placeAll_justified le_rfl hsplit h

/-- Where every one of some tables leads to another one, each of them leads to a cycle. -/
theorem exists_cycle {relates : String → String → Prop} {among : List String}
    (h : ∀ first ∈ among, ∃ second ∈ among, relates first second) (hmem : table ∈ among) :
    ∃ second ∈ among, ReflTransGen relates table second ∧ TransGen relates second second := by
  -- If none of the tables that can be reached led back to itself, one of them would lead nowhere.
  by_contra hnone
  push Not at hnone
  let Reached := { second // second ∈ among ∧ ReflTransGen relates table second }
  let leads (second first : Reached) : Prop := TransGen relates first.1 second.1
  have : Finite Reached :=
    (among.finite_toSet.subset fun second hsecond => hsecond.1 :
      { second | second ∈ among ∧ ReflTransGen relates table second }.Finite)
  have : IsTrans Reached leads := ⟨fun _ _ _ hfirst hsecond => hsecond.trans hfirst⟩
  have : Std.Irrefl leads := ⟨fun second => hnone second.1 second.2.1 second.2.2⟩
  obtain ⟨last, -, hlast⟩ := (Finite.wellFounded_of_trans_of_irrefl leads).has_min Set.univ
    ⟨⟨table, hmem, .refl⟩, trivial⟩
  obtain ⟨next, hnext, hrelates⟩ := h last.1 last.2.1
  exact hlast ⟨next, hnext, last.2.2.tail hrelates⟩ trivial (.single hrelates)

section Order

variable {earlier later : List String}
  (h : sortTables dependencies tables = earlier ++ table :: later)

include h

/-- A listed table that does not come earlier comes later. -/
theorem mem_left_of_not_mem (hother : other ∈ tables) (hnot : other ∉ earlier) :
    other ∈ table :: later := by
  have hsorted : other ∈ sortTables dependencies tables := mem_sortTables.mpr hother
  rw [h] at hsorted
  exact (List.mem_append.mp hsorted).resolve_left hnot

/-- A table that does not follow all that it references leads to one that is left. -/
theorem exists_left_of_not_follows (hnot : ¬ Follows dependencies tables earlier other) :
    ∃ next ∈ table :: later, Refers dependencies tables other next := by
  unfold Follows at hnot
  push Not at hnot
  obtain ⟨next, hrefers, hnext⟩ := hnot
  exact ⟨next, mem_left_of_not_mem h hrefers.1 hnext, hrefers⟩

/-- Where references form no cycle a table follows all that it references. -/
theorem follows_of_acyclic
    (hacyclic : ∀ table ∈ tables, ¬ TransGen (Refers dependencies tables) table table) :
    Follows dependencies tables earlier table := by
  refine (sortTables_justified h).resolve_right fun ⟨hwait, _⟩ => ?_
  have hlisted : ∀ other ∈ table :: later, other ∈ tables := fun other hother =>
    mem_sortTables.mp (h ▸ List.mem_append_right earlier hother)
  -- Tables that all wait for one another lead to a cycle.
  obtain ⟨other, hother, _, hcycle⟩ := exists_cycle
    (fun waiting hwaiting => exists_left_of_not_follows h (hwait waiting hwaiting))
    (List.mem_cons_self (a := table))
  exact hacyclic other (hlisted other hother) hcycle

end Order

/-- The loading order lists the tables, each once, however many more rounds are granted. Every table
follows all that it references, or else it is bytewise the least of those that are left, which all
wait for one another. Where references form no cycle every table follows all that it references. -/
theorem sortTables_ordered (dependencies : List Dependency) (tables : List String) :
    (∀ rounds ≥ (distinct tables).length,
      placeAll dependencies rounds (distinct tables) = sortTables dependencies tables) ∧
    (sortTables dependencies tables).Nodup ∧
    (∀ table, table ∈ sortTables dependencies tables ↔ table ∈ tables) ∧
    (∀ earlier table later, sortTables dependencies tables = earlier ++ table :: later →
      Follows dependencies tables earlier table ∨
        (∀ waiting ∈ table :: later, ¬ Follows dependencies tables earlier waiting) ∧
          ∀ other ∈ later, Text.bytes table ≤ Text.bytes other) ∧
    ((∀ table ∈ tables, ¬ TransGen (Refers dependencies tables) table table) →
      ∀ earlier table later, sortTables dependencies tables = earlier ++ table :: later →
        Follows dependencies tables earlier table) := by
  refine ⟨fun rounds hrounds => placeAll_eq hrounds le_rfl (nodup_distinct tables),
    nodup_sortTables dependencies tables, fun table => mem_sortTables,
    fun earlier table later h => ?_, fun hacyclic earlier table later h => ?_⟩
  · refine (sortTables_justified h).imp_right fun ⟨hwait, hleast⟩ => ⟨hwait, fun other hother => ?_⟩
    exact Text.le_iff_bytes_le.mp (hleast other hother)
  · exact follows_of_acyclic h hacyclic

theorem sortTables_ordered_two_cycle :
    sortTables [⟨"B", "A", "a"⟩, ⟨"A", "B", "b"⟩] ["B", "A", "Free", "A"] = ["Free", "A", "B"] ∧
    (Follows [⟨"B", "A", "a"⟩, ⟨"A", "B", "b"⟩] ["B", "A", "Free", "A"] ["Free"] "A" ∨
      (∀ waiting ∈ ["A", "B"], ¬ Follows [⟨"B", "A", "a"⟩, ⟨"A", "B", "b"⟩]
        ["B", "A", "Free", "A"] ["Free"] waiting) ∧
      ∀ other ∈ ["B"], Text.bytes "A" ≤ Text.bytes other) := by
  have hsorted : sortTables [⟨"B", "A", "a"⟩, ⟨"A", "B", "b"⟩] ["B", "A", "Free", "A"] =
      ["Free", "A", "B"] := by decide +kernel
  exact ⟨hsorted, (sortTables_ordered _ _).2.2.2.1 ["Free"] "A" ["B"] hsorted⟩

/-- In an order, a table comes before another one. -/
def Precedes (order : List String) (first second : String) : Prop :=
  ∃ earlier later, order = earlier ++ second :: later ∧ first ∈ earlier

/-- What comes later does not come before. -/
theorem not_precedes_of_mem {order earlier later : List String} (hnodup : order.Nodup)
    (h : order = earlier ++ table :: later) (hother : other ∈ later) :
    ¬ Precedes order other table := by
  rintro ⟨before, after, hsplit, hbefore⟩
  rw [h] at hnodup hsplit
  -- A table has one place in the order.
  obtain ⟨honce, -⟩ := List.nodup_cons.mp (List.nodup_middle.mp hnodup)
  rw [List.mem_append, not_or] at honce
  obtain ⟨rfl, -, -⟩ := (List.append_cons_inj_of_notMem honce.1 honce.2).mp hsplit
  exact List.disjoint_of_nodup_append hnodup hbefore (List.mem_cons_of_mem _ hother)

/-- A reference that lies on no cycle is violated where the referencing table is placed while all
tables that are left wait for one another, as the alphabetically first of them: the referenced table
then leads to a cycle of tables that are left, none of which leads to the referencing one. -/
theorem off_cycle_violated_iff (hlisted : table ∈ tables)
    (hrefers : Refers dependencies tables table other)
    (hcycle : ¬ TransGen (Refers dependencies tables) other table) :
    ¬ Precedes (sortTables dependencies tables) other table ↔
      ∃ earlier later, sortTables dependencies tables = earlier ++ table :: later ∧
        other ∈ later ∧
        (∀ waiting ∈ table :: later, ¬ Follows dependencies tables earlier waiting) ∧
        (∀ next ∈ later, table < next) ∧
        ∃ caught ∈ later, ReflTransGen (Refers dependencies tables) other caught ∧
          TransGen (Refers dependencies tables) caught caught ∧
          ¬ TransGen (Refers dependencies tables) caught table := by
  constructor
  · intro hviolated
    obtain ⟨earlier, later, h⟩ := List.append_of_mem (mem_sortTables.mpr hlisted)
    have hnot : other ∉ earlier := fun hother => hviolated ⟨earlier, later, h, hother⟩
    have hleft : other ∈ table :: later := mem_left_of_not_mem h hrefers.1 hnot
    obtain ⟨hwait, hleast⟩ := (sortTables_justified h).resolve_left fun hfollows =>
      hnot (hfollows other hrefers)
    obtain ⟨caught, hcaught, hleads, hself⟩ := exists_cycle
      (fun waiting hwaiting => exists_left_of_not_follows h (hwait waiting hwaiting)) hleft
    have hback : ¬ TransGen (Refers dependencies tables) caught table := fun hback =>
      hcycle (hback.trans_right hleads)
    refine ⟨earlier, later, h, ?_, hwait, ?_, caught, ?_, hleads, hself, hback⟩
    · exact (List.mem_cons.mp hleft).resolve_left hrefers.2.1
    · intro next hnext
      refine lt_of_le_of_ne (hleast next hnext) fun heq => ?_
      have hnodup := nodup_sortTables dependencies tables
      rw [h, List.nodup_middle] at hnodup
      exact (List.nodup_cons.mp hnodup).1 (heq ▸ List.mem_append_right earlier hnext)
    · obtain rfl | hlater := List.mem_cons.mp hcaught
      · exact absurd hself hback
      · exact hlater
  · rintro ⟨earlier, later, h, hother, -⟩
    exact not_precedes_of_mem (nodup_sortTables dependencies tables) h hother

/-- A table that waits for a cycle of two tables. -/
def waitingForCycle : List Dependency :=
  [⟨"A", "B", "x"⟩, ⟨"A", "C", "x"⟩, ⟨"B", "C", "x"⟩, ⟨"C", "B", "x"⟩]

theorem sortTables_waitingForCycle :
    sortTables waitingForCycle ["A", "B", "C"] = ["A", "B", "C"] := by
  decide +kernel

/-- No table references the one that waits. -/
theorem not_leads_to_waiting : ¬ TransGen (Refers waitingForCycle ["A", "B", "C"]) "B" "A" := by
  intro h
  obtain ⟨_, _, _, _, d, hd, _, htarget⟩ := TransGen.tail'_iff.mp h
  have hnone : ∀ d ∈ waitingForCycle, d.target ≠ "A" := by decide
  exact hnone d hd htarget

theorem waiting_refers : Refers waitingForCycle ["A", "B", "C"] "A" "B" :=
  ⟨by decide, by decide, ⟨"A", "B", "x"⟩, by decide, rfl, rfl⟩

/-- The waiting table is placed first, though it is caught in no cycle. -/
theorem waiting_placed_first :
    Refers waitingForCycle ["A", "B", "C"] "A" "B" ∧
      ¬ TransGen (Refers waitingForCycle ["A", "B", "C"]) "B" "A" ∧
      ¬ Precedes (sortTables waitingForCycle ["A", "B", "C"]) "B" "A" := by
  have hplace : sortTables waitingForCycle ["A", "B", "C"] = [] ++ "A" :: ["B", "C"] :=
    sortTables_waitingForCycle
  exact ⟨waiting_refers, not_leads_to_waiting,
    not_precedes_of_mem (nodup_sortTables _ _) hplace (by decide)⟩

theorem off_cycle_violated_iff_waiting :
    Refers waitingForCycle ["A", "B", "C"] "A" "B" ∧
      ¬ TransGen (Refers waitingForCycle ["A", "B", "C"]) "B" "A" ∧
      (¬ Precedes (sortTables waitingForCycle ["A", "B", "C"]) "B" "A" ↔
        ∃ earlier later, sortTables waitingForCycle ["A", "B", "C"] = earlier ++ "A" :: later ∧
          "B" ∈ later ∧
          (∀ table ∈ "A" :: later, ¬ Follows waitingForCycle ["A", "B", "C"] earlier table) ∧
          (∀ next ∈ later, "A" < next) ∧
          ∃ caught ∈ later, ReflTransGen (Refers waitingForCycle ["A", "B", "C"]) "B" caught ∧
            TransGen (Refers waitingForCycle ["A", "B", "C"]) caught caught ∧
            ¬ TransGen (Refers waitingForCycle ["A", "B", "C"]) caught "A") :=
  ⟨waiting_refers, not_leads_to_waiting,
    off_cycle_violated_iff (by decide) waiting_refers not_leads_to_waiting⟩

end RecordRecipe.Mapping
