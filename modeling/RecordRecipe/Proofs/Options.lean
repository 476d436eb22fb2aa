import Mathlib.Data.String.Basic
import RecordRecipe.Options
import RecordRecipe.Proofs.Assoc
import RecordRecipe.Proofs.Result

/-!
# Merged options

Declarations are resolved one after the other, each against the supplied values, so that the values
of a repeated name are put several times and the last one stays. `mergeOptions_settles` says what
comes out of that for whole lists of declarations, and that nothing changes when the outcome is
supplied in turn.
-/

namespace RecordRecipe

variable {declarations : List OptionDeclaration} {supplied values result : Assoc FieldValue}
  {merged : MergedOptions} {name : String}

/-- A declaration has neither a supplied value nor a default. -/
def OptionDeclaration.Lacks (supplied : Assoc FieldValue) (declaration : OptionDeclaration) : Prop :=
  declaration.name ∉ supplied.keys ∧ declaration.default = none

/-- The last declaration of a name. -/
def lastDeclaration? (declarations : List OptionDeclaration) (name : String) :
    Option OptionDeclaration :=
  (declarations.filter fun declaration => declaration.name = name).getLast?

/-- What merged options are for some declarations and supplied values. -/
structure MergedOptions.Settles (declarations : List OptionDeclaration)
    (supplied : Assoc FieldValue) (merged : MergedOptions) : Prop where
  /-- Every supplied value is kept. -/
  kept : ∀ entry ∈ supplied, merged.values.find? entry.1 = some entry.2
  /-- A declared name that was not supplied takes the default of its last declaration. -/
  defaulted : ∀ name ∉ supplied.keys, ∀ declaration,
    lastDeclaration? declarations name = some declaration →
      ∃ value, declaration.default = some value ∧ merged.values.find? name = some value
  /-- There are values under supplied and declared names and no others, each once. -/
  names : ∀ name, name ∈ merged.values.keys ↔
    name ∈ supplied.keys ∨ ∃ declaration ∈ declarations, declaration.name = name
  nodup : merged.values.keys.Nodup
  /-- The supplied names that no declaration has, in order and each once. -/
  extra : ∀ name, name ∈ merged.extra ↔
    name ∈ supplied.keys ∧ ∀ declaration ∈ declarations, declaration.name ≠ name
  sorted : merged.extra.Pairwise (· < ·)

/-! ## One declaration -/

namespace OptionDeclaration

variable {declaration : OptionDeclaration}

/-- A declaration is resolved to nothing if it lacks a value. -/
theorem resolve?_eq_none_iff : declaration.resolve? supplied = none ↔ declaration.Lacks supplied := by
  unfold resolve? Lacks
  by_cases h : declaration.name ∈ supplied.keys
  · obtain ⟨value, hvalue⟩ := Assoc.exists_find? h
    simp [hvalue, h]
  · simp [Assoc.find?_eq_none h, h]

/-- A supplied value wins. -/
theorem resolve?_of_find? {value : FieldValue}
    (h : supplied.find? declaration.name = some value) :
    declaration.resolve? supplied = some value := by
  rw [resolve?, h]

/-- Where nothing is supplied there is the default. -/
theorem resolve?_of_not_mem (h : declaration.name ∉ supplied.keys) :
    declaration.resolve? supplied = declaration.default := by
  rw [resolve?, Assoc.find?_eq_none h]

end OptionDeclaration

theorem isDeclared_iff :
    isDeclared declarations name = true ↔ ∃ declaration ∈ declarations, declaration.name = name := by
  simp [isDeclared]

/-- A declared name has a last declaration, which is one of its declarations. -/
theorem lastDeclaration?_isSome_iff :
    (∃ declaration, lastDeclaration? declarations name = some declaration) ↔
      ∃ declaration ∈ declarations, declaration.name = name := by
  unfold lastDeclaration?
  rw [← Option.isSome_iff_exists, List.getLast?_isSome]
  simp [List.filter_eq_nil_iff]

theorem lastDeclaration?_mem {declaration : OptionDeclaration}
    (h : lastDeclaration? declarations name = some declaration) :
    declaration ∈ declarations ∧ declaration.name = name := by
  simpa using List.mem_of_getLast? h

/-! ## All declarations in turn -/

/-- The first declaration that lacks a value ends the resolution. -/
theorem resolveDeclared_eq_error {earlier later : List OptionDeclaration}
    {declaration : OptionDeclaration} (hearlier : ∀ other ∈ earlier, ¬ other.Lacks supplied)
    (h : declaration.Lacks supplied) (values : Assoc FieldValue) :
    resolveDeclared supplied (earlier ++ declaration :: later) values =
      .error declaration.missing := by
  induction earlier generalizing values with
  | nil =>
      rw [List.nil_append, resolveDeclared, OptionDeclaration.resolve?_eq_none_iff.mpr h]
  | cons first rest ih =>
      obtain ⟨hfirst, hrest⟩ := List.forall_mem_cons.mp hearlier
      rw [← OptionDeclaration.resolve?_eq_none_iff, ← ne_eq, Option.ne_none_iff_exists'] at hfirst
      obtain ⟨value, hvalue⟩ := hfirst
      rw [List.cons_append, resolveDeclared, hvalue]
      exact ih hrest _

/-- Where no declaration lacks a value, the values are put under the declared names one by one. -/
theorem resolveDeclared_eq_ok (h : ∀ declaration ∈ declarations, ¬ declaration.Lacks supplied)
    (values : Assoc FieldValue) :
    ∃ resolved : Assoc FieldValue, resolved.keys = declarations.map OptionDeclaration.name ∧
      resolveDeclared supplied declarations values = .ok (Assoc.putAll resolved values) := by
  induction declarations generalizing values with
  | nil => exact ⟨[], rfl, rfl⟩
  | cons first rest ih =>
      obtain ⟨hfirst, hrest⟩ := List.forall_mem_cons.mp h
      rw [← OptionDeclaration.resolve?_eq_none_iff, ← ne_eq, Option.ne_none_iff_exists'] at hfirst
      obtain ⟨value, hvalue⟩ := hfirst
      obtain ⟨resolved, hkeys, hresolved⟩ := ih hrest (values.put first.name value)
      refine ⟨(first.name, value) :: resolved, ?_, ?_⟩
      · exact congrArg (first.name :: ·) hkeys
      · rw [resolveDeclared, hvalue]
        exact hresolved

/-- Every list of declarations has a first one that lacks a value, unless none does. -/
theorem exists_first_lacking (supplied : Assoc FieldValue)
    (declarations : List OptionDeclaration) :
    (∀ declaration ∈ declarations, ¬ declaration.Lacks supplied) ∨
      ∃ earlier declaration later, declarations = earlier ++ declaration :: later ∧
        (∀ other ∈ earlier, ¬ other.Lacks supplied) ∧ declaration.Lacks supplied := by
  induction declarations with
  | nil => exact .inl (by simp)
  | cons first rest ih =>
      by_cases hfirst : first.Lacks supplied
      · exact .inr ⟨[], first, rest, rfl, by simp, hfirst⟩
      · obtain hrest | ⟨earlier, declaration, later, rfl, hearlier, hlacks⟩ := ih
        · exact .inl (List.forall_mem_cons.mpr ⟨hfirst, hrest⟩)
        · exact .inr ⟨first :: earlier, declaration, later, rfl,
            List.forall_mem_cons.mpr ⟨hfirst, hearlier⟩, hlacks⟩

/-- A declared name has the value that its last declaration is resolved to; other names have what
they had. -/
theorem find?_resolveDeclared
    (h : resolveDeclared supplied declarations values = .ok result) :
    result.find? name = match lastDeclaration? declarations name with
      | some declaration => declaration.resolve? supplied
      | none => values.find? name := by
  induction declarations generalizing values with
  | nil =>
      cases h
      rfl
  | cons first rest ih =>
      rw [resolveDeclared] at h
      cases hvalue : first.resolve? supplied with
      | none =>
          rw [hvalue] at h
          cases h
      | some value =>
          rw [hvalue] at h
          rw [ih h, Assoc.find?_put]
          unfold lastDeclaration?
          by_cases hname : first.name = name
          · rw [List.filter_cons_of_pos (by simpa using hname), List.getLast?_cons]
            cases (rest.filter fun declaration => declaration.name = name).getLast? with
            | none => simp [hname, hvalue]
            | some last => rfl
          · rw [List.filter_cons_of_neg (by simpa using hname), if_neg hname]

/-! ## Names that nothing declares -/

theorem mem_insertSorted {item : String} {items : List String} :
    name ∈ insertSorted item items ↔ name = item ∨ name ∈ items := by
  induction items with
  | nil => simp [insertSorted]
  | cons first rest ih =>
      unfold insertSorted
      split
      next heq =>
        subst heq
        simp
      next =>
        split
        · exact List.mem_cons
        · rw [List.mem_cons, ih, List.mem_cons]
          exact or_left_comm

theorem pairwise_insertSorted {item : String} {items : List String}
    (h : items.Pairwise (· < ·)) : (insertSorted item items).Pairwise (· < ·) := by
  induction items with
  | nil => simp [insertSorted]
  | cons first rest ih =>
      obtain ⟨hfirst, hrest⟩ := List.pairwise_cons.mp h
      unfold insertSorted
      split
      next => exact h
      next hne =>
        split
        next hless =>
          refine List.pairwise_cons.mpr ⟨fun other hother => ?_, h⟩
          obtain rfl | hother := List.mem_cons.mp hother
          · exact hless
          · exact hless.trans (hfirst other hother)
        next hnot =>
          refine List.pairwise_cons.mpr ⟨fun other hother => ?_, ih hrest⟩
          obtain rfl | hother := mem_insertSorted.mp hother
          · exact lt_of_le_of_ne (not_lt.mp hnot) (Ne.symm hne)
          · exact hfirst other hother

/-- Names that are put into a sorted list one by one are its items besides the old ones, and it
stays sorted. -/
theorem foldl_insertSorted (entries : Assoc FieldValue) {items : List String}
    (h : items.Pairwise (· < ·)) :
    (entries.foldl (fun all entry => insertSorted entry.1 all) items).Pairwise (· < ·) ∧
      ∀ name, name ∈ entries.foldl (fun all entry => insertSorted entry.1 all) items ↔
        name ∈ entries.keys ∨ name ∈ items := by
  induction entries generalizing items with
  | nil => simpa [Assoc.keys] using h
  | cons first rest ih =>
      have hinserted : (insertSorted first.1 items).Pairwise (· < ·) := pairwise_insertSorted h
      obtain ⟨hsorted, hmem⟩ := ih hinserted
      refine ⟨hsorted, fun name => ?_⟩
      rw [List.foldl_cons, hmem, mem_insertSorted]
      simp only [Assoc.keys, List.map_cons, List.mem_cons]
      exact or_left_comm.trans or_assoc.symm

/-! ## The outcome -/

/-- What is supplied and declared by nothing. -/
def undeclared (declarations : List OptionDeclaration) (supplied : Assoc FieldValue) :
    Assoc FieldValue :=
  supplied.filter fun entry => !isDeclared declarations entry.1

theorem mem_keys_undeclared :
    name ∈ (undeclared declarations supplied).keys ↔
      name ∈ supplied.keys ∧ isDeclared declarations name = false := by
  unfold undeclared Assoc.keys
  constructor
  · intro h
    obtain ⟨entry, hentry, rfl⟩ := List.mem_map.mp h
    obtain ⟨hmem, hdeclared⟩ := List.mem_filter.mp hentry
    exact ⟨List.mem_map_of_mem hmem, by simpa using hdeclared⟩
  · rintro ⟨h, hdeclared⟩
    obtain ⟨entry, hentry, rfl⟩ := List.mem_map.mp h
    exact List.mem_map_of_mem (List.mem_filter.mpr ⟨hentry, by simpa using hdeclared⟩)

/-- Where no declaration lacks a value, the merged values are those of the declared names, in order
of first declaration, and behind them what nothing declares. -/
theorem mergeOptions_eq_ok (hsupplied : supplied.keys.Nodup)
    (h : ∀ declaration ∈ declarations, ¬ declaration.Lacks supplied) :
    ∃ declared : Assoc FieldValue, resolveDeclared supplied declarations [] = .ok declared ∧
      declared.keys = (declarations.map OptionDeclaration.name).eraseDups ∧
      (declared ++ undeclared declarations supplied).keys.Nodup ∧
      mergeOptions declarations supplied = .ok {
        values := declared ++ undeclared declarations supplied
        extra := (undeclared declarations supplied).foldl
          (fun extra entry => insertSorted entry.1 extra) [] } := by
  obtain ⟨resolved, hresolved, hdeclared⟩ := resolveDeclared_eq_ok h []
  change resolveDeclared supplied declarations [] = .ok (Assoc.ofList resolved) at hdeclared
  have hkeys : (Assoc.ofList resolved).keys =
      (declarations.map OptionDeclaration.name).eraseDups :=
    (Assoc.keys_ofList resolved).trans (congrArg List.eraseDups hresolved)
  have hnodup : (Assoc.ofList resolved ++ undeclared declarations supplied).keys.Nodup := by
    rw [Assoc.keys, List.map_append, ← Assoc.keys, ← Assoc.keys, hkeys]
    refine List.nodup_append.mpr ⟨Assoc.nodup_eraseDups _, ?_, ?_⟩
    · exact (List.Sublist.map _ List.filter_sublist).nodup hsupplied
    · rintro name hname _ hother rfl
      rw [List.mem_eraseDups] at hname
      obtain ⟨-, hother⟩ := mem_keys_undeclared.mp hother
      rw [Bool.eq_false_iff, ne_eq, isDeclared_iff] at hother
      exact hother (List.mem_map.mp hname)
  refine ⟨_, hdeclared, hkeys, hnodup, ?_⟩
  rw [mergeOptions, hdeclared]
  dsimp only
  rw [← undeclared, Assoc.putAll_of_nodup hnodup]

/-- A declared name has the value that its last declaration is resolved to; other names have what
is supplied. -/
theorem find?_merged {declared : Assoc FieldValue}
    (hdeclared : resolveDeclared supplied declarations [] = .ok declared) (name : String) :
    (declared ++ undeclared declarations supplied).find? name =
      match lastDeclaration? declarations name with
        | some declaration => declaration.resolve? supplied
        | none => supplied.find? name := by
  rw [Assoc.find?_append, find?_resolveDeclared hdeclared]
  cases hlast : lastDeclaration? declarations name with
  | none =>
      have hname : isDeclared declarations name = false := by
        rw [Bool.eq_false_iff, ne_eq, isDeclared_iff, ← lastDeclaration?_isSome_iff]
        simp [hlast]
      exact Assoc.find?_filter (fun name => !isDeclared declarations name) (by simp [hname])
  | some declaration =>
      have hname : isDeclared declarations name = true :=
        isDeclared_iff.mpr ⟨declaration, lastDeclaration?_mem hlast⟩
      have hnone : (undeclared declarations supplied).find? name = none :=
        Assoc.find?_eq_none fun hmem => by
          have := (mem_keys_undeclared.mp hmem).2
          simp [hname] at this
      rw [hnone, Option.or_none]

/-- A supplied value is kept, whether or not something declares its name. -/
theorem find?_merged_of_find? {declared : Assoc FieldValue} {value : FieldValue}
    (hdeclared : resolveDeclared supplied declarations [] = .ok declared)
    (h : supplied.find? name = some value) :
    (declared ++ undeclared declarations supplied).find? name = some value := by
  rw [find?_merged hdeclared]
  cases hlast : lastDeclaration? declarations name with
  | none => exact h
  | some declaration =>
      obtain ⟨-, rfl⟩ := lastDeclaration?_mem hlast
      exact OptionDeclaration.resolve?_of_find? h

/-- Where no declaration lacks a value, options are merged and the outcome is what it should be. -/
theorem mergeOptions_settled (hsupplied : supplied.keys.Nodup)
    (h : ∀ declaration ∈ declarations, ¬ declaration.Lacks supplied) :
    ∃ merged, mergeOptions declarations supplied = .ok merged ∧
      merged.Settles declarations supplied := by
  obtain ⟨declared, hdeclared, hkeys, hnodup, hmerged⟩ := mergeOptions_eq_ok hsupplied h
  obtain ⟨hsorted, hextra⟩ := foldl_insertSorted (undeclared declarations supplied) .nil
  refine ⟨_, hmerged, ?_, ?_, ?_, hnodup, ?_, hsorted⟩
  · exact fun entry hentry =>
      find?_merged_of_find? hdeclared (Assoc.find?_of_mem hsupplied hentry)
  · intro name hname declaration hlast
    obtain ⟨hmem, rfl⟩ := lastDeclaration?_mem hlast
    have hlacks := h declaration hmem
    rw [← OptionDeclaration.resolve?_eq_none_iff, ← ne_eq, Option.ne_none_iff_exists'] at hlacks
    obtain ⟨value, hvalue⟩ := hlacks
    refine ⟨value, (OptionDeclaration.resolve?_of_not_mem hname).symm.trans hvalue, ?_⟩
    rw [find?_merged hdeclared, hlast]
    exact hvalue
  · intro name
    rw [Assoc.keys, List.map_append, List.mem_append, ← Assoc.keys, ← Assoc.keys, hkeys,
      List.mem_eraseDups, List.mem_map, mem_keys_undeclared]
    cases hname : isDeclared declarations name with
    | true => simp [isDeclared_iff.mp hname]
    | false =>
      rw [Bool.eq_false_iff, ne_eq, isDeclared_iff] at hname
      simp [hname]
  · intro name
    rw [hextra, mem_keys_undeclared, Bool.eq_false_iff, ne_eq, isDeclared_iff]
    simp

/-- What nothing declares is the same among the merged values. -/
theorem undeclared_merged {declared : Assoc FieldValue}
    (hkeys : declared.keys = (declarations.map OptionDeclaration.name).eraseDups) :
    undeclared declarations (declared ++ undeclared declarations supplied) =
      undeclared declarations supplied := by
  have hdeclared : undeclared declarations declared = [] := by
    refine List.filter_eq_nil_iff.mpr fun entry hentry => ?_
    have hname : entry.1 ∈ declared.keys := List.mem_map_of_mem hentry
    rw [hkeys, List.mem_eraseDups, List.mem_map] at hname
    simp [isDeclared_iff.mpr hname]
  have hkept : undeclared declarations (undeclared declarations supplied) =
      undeclared declarations supplied :=
    List.filter_eq_self.mpr fun _ hentry => (List.mem_filter.mp hentry).2
  rw [undeclared, List.filter_append, ← undeclared, ← undeclared, hdeclared, hkept,
    List.nil_append]

/-- Merged values say of every declared name what the supplied ones say, and nothing declares what
nothing declared before: merging them once more changes nothing. -/
theorem mergeOptions_again (hsupplied : supplied.keys.Nodup)
    (h : ∀ declaration ∈ declarations, ¬ declaration.Lacks supplied)
    (hmerged : mergeOptions declarations supplied = .ok merged) :
    mergeOptions declarations merged.values = .ok merged := by
  obtain ⟨declared, hdeclared, hkeys, hnodup, hok⟩ := mergeOptions_eq_ok hsupplied h
  obtain rfl := Except.ok.inj (hok.symm.trans hmerged)
  have hresolve : ∀ declaration, lastDeclaration? declarations declaration.name =
      some declaration → declaration.resolve? (declared ++ undeclared declarations supplied) =
        declaration.resolve? supplied := by
    intro declaration hlast
    have hlacks := h declaration (lastDeclaration?_mem hlast).1
    rw [← OptionDeclaration.resolve?_eq_none_iff, ← ne_eq, Option.ne_none_iff_exists'] at hlacks
    obtain ⟨value, hvalue⟩ := hlacks
    rw [hvalue]
    refine OptionDeclaration.resolve?_of_find? ?_
    rw [find?_merged hdeclared, hlast]
    exact hvalue
  have hagain : ∀ declaration ∈ declarations,
      ¬ declaration.Lacks (declared ++ undeclared declarations supplied) := by
    rintro declaration hmem ⟨hname, -⟩
    refine hname ?_
    rw [Assoc.keys, List.map_append, List.mem_append, ← Assoc.keys, hkeys, List.mem_eraseDups]
    exact .inl (List.mem_map_of_mem hmem)
  obtain ⟨second, hsecond, hsecondKeys, -, hsecondOk⟩ := mergeOptions_eq_ok hnodup hagain
  have hsame : second = declared := by
    have hunique : second.keys.Nodup := hsecondKeys ▸ Assoc.nodup_eraseDups _
    refine Assoc.eq_of_find? hunique (hsecondKeys.trans hkeys.symm) fun name => ?_
    rw [find?_resolveDeclared hsecond, find?_resolveDeclared hdeclared]
    cases hlast : lastDeclaration? declarations name with
    | none => rfl
    | some declaration =>
        obtain ⟨-, rfl⟩ := lastDeclaration?_mem hlast
        exact hresolve declaration hlast
  rw [hsecondOk, undeclared_merged hkeys, hsame]

/-- Options are merged unless a declaration has neither a supplied value nor a default; the first
such declaration is then the error. The outcome keeps what is supplied, gives the other declared
names the default of their last declaration and tells the names that nothing declares. Supplied in
turn it comes out as it is, in the same order. -/
theorem mergeOptions_settles (declarations : List OptionDeclaration) (supplied : Assoc FieldValue)
    (hsupplied : supplied.keys.Nodup) :
    (∀ error, mergeOptions declarations supplied = .error error ↔
      ∃ earlier declaration later, declarations = earlier ++ declaration :: later ∧
        (∀ other ∈ earlier, ¬ other.Lacks supplied) ∧ declaration.Lacks supplied ∧
        error = declaration.missing) ∧
    (∀ declaration : OptionDeclaration, declaration.missing.kind? = some .name ∧
      declaration.missing.place? = some (.ofLine declaration.file declaration.line)) ∧
    ((∀ declaration ∈ declarations, ¬ declaration.Lacks supplied) →
      ∃ merged, mergeOptions declarations supplied = .ok merged ∧
        merged.Settles declarations supplied ∧
        mergeOptions declarations merged.values = .ok merged) := by
  refine ⟨fun error => ⟨fun herror => ?_, ?_⟩, fun _ => ⟨rfl, rfl⟩, fun h => ?_⟩
  · obtain h | ⟨earlier, declaration, later, hsplit, hearlier, hlacks⟩ :=
      exists_first_lacking supplied declarations
    · obtain ⟨merged, hmerged, -⟩ := mergeOptions_settled hsupplied h
      rw [hmerged] at herror
      cases herror
    · refine ⟨earlier, declaration, later, hsplit, hearlier, hlacks, ?_⟩
      rw [hsplit, mergeOptions, resolveDeclared_eq_error hearlier hlacks] at herror
      cases herror
      rfl
  · rintro ⟨earlier, declaration, later, rfl, hearlier, hlacks, rfl⟩
    rw [mergeOptions, resolveDeclared_eq_error hearlier hlacks]
  · obtain ⟨merged, hmerged, hsettles⟩ := mergeOptions_settled hsupplied h
    exact ⟨merged, hmerged, hsettles, mergeOptions_again hsupplied h hmerged⟩

/-- An option that is declared twice, with different defaults, and one without a default. -/
def declaredTwice : List OptionDeclaration :=
  [⟨"a", some (.int 1), "recipe.yml", 1⟩, ⟨"b", none, "recipe.yml", 3⟩,
    ⟨"a", some (.int 2), "recipe.yml", 4⟩]

/-- The last default counts, and the values come out alike when they are merged once more. -/
theorem mergeOptions_settles_twice :
    (Assoc.keys [("x", FieldValue.null), ("b", .bool true)]).Nodup ∧
    (∃ merged, mergeOptions declaredTwice [("x", .null), ("b", .bool true)] = .ok merged ∧
      merged.Settles declaredTwice [("x", .null), ("b", .bool true)] ∧
      mergeOptions declaredTwice merged.values = .ok merged ∧
      merged.values = [("a", .int 2), ("b", .bool true), ("x", .null)] ∧ merged.extra = ["x"]) ∧
    mergeOptions declaredTwice [("x", .null)] =
      .error (OptionDeclaration.missing ⟨"b", none, "recipe.yml", 3⟩) := by
  obtain ⟨-, -, hmerges⟩ := mergeOptions_settles declaredTwice
    [("x", .null), ("b", .bool true)] (by decide)
  obtain ⟨hfails, -⟩ := mergeOptions_settles declaredTwice [("x", .null)] (by decide)
  obtain ⟨merged, hmerged, hsettles, hagain⟩ := hmerges (by
    simp [declaredTwice, OptionDeclaration.Lacks, Assoc.keys])
  refine ⟨by decide, ⟨merged, hmerged, hsettles, hagain, ?_⟩, (hfails _).mpr ?_⟩
  · cases hmerged
    exact ⟨rfl, rfl⟩
  · refine ⟨[⟨"a", some (.int 1), "recipe.yml", 1⟩], ⟨"b", none, "recipe.yml", 3⟩,
      [⟨"a", some (.int 2), "recipe.yml", 4⟩], rfl, ?_, ?_, rfl⟩
    · simp [OptionDeclaration.Lacks]
    · simp [OptionDeclaration.Lacks, Assoc.keys]

end RecordRecipe
