import RecordRecipe.Assoc
import Mathlib.Data.List.Forall2
import Mathlib.Data.List.Nodup

/-!
# Entries of insertion-ordered maps

Where the entries of an `Assoc` come from, after one more has been put or many, and what is found
under a name. Names stay without repetitions, and then every entry is found under its name.
-/

namespace RecordRecipe.Assoc

variable {α : Type} {entries more : Assoc α} {name : String} {value : α}

/-- What is found under a name is an entry. -/
theorem mem_of_find? (h : find? name entries = some value) : (name, value) ∈ entries := by
  induction entries with
  | nil => simp [find?] at h
  | cons entry rest ih =>
      obtain ⟨key, old⟩ := entry
      by_cases hkey : key = name
      · subst hkey
        obtain rfl : old = value := by simpa [find?] using h
        simp
      · rw [find?, if_neg hkey] at h
        exact List.mem_cons_of_mem _ (ih h)

/-- Nothing is found under a name that no entry has. -/
theorem find?_eq_none (h : name ∉ keys entries) : find? name entries = none := by
  cases hfound : find? name entries with
  | none => rfl
  | some value => exact absurd (List.mem_map_of_mem (mem_of_find? hfound)) h

/-- Something is found under every name that an entry has. -/
theorem exists_find? (h : name ∈ keys entries) : ∃ value, find? name entries = some value := by
  induction entries with
  | nil => simp [keys] at h
  | cons first rest ih =>
      obtain ⟨key, old⟩ := first
      by_cases hkey : key = name
      · exact ⟨old, by simp [find?, hkey]⟩
      · rw [find?, if_neg hkey]
        exact ih ((List.mem_cons.mp h).resolve_left (Ne.symm hkey))

/-- Whether something is found depends on the names alone. -/
theorem isNone_find? : (find? name entries).isNone = decide (name ∉ keys entries) := by
  by_cases hname : name ∈ keys entries
  · obtain ⟨value, hvalue⟩ := exists_find? hname
    simp [hvalue, hname]
  · simp [find?_eq_none hname, hname]

/-- Where entries have the same names and related values, so do the values that are found. -/
theorem rel_find? {β : Type} {R : α → β → Prop} {images : Assoc β}
    (h : List.Forall₂ (fun entry image => image.1 = entry.1 ∧ R entry.2 image.2) entries images) :
    Option.Rel R (find? name entries) (find? name images) := by
  induction h with
  | nil => exact .none
  | @cons entry image _ _ hfirst _ ih =>
      obtain ⟨key, old⟩ := entry
      obtain ⟨_, new⟩ := image
      obtain ⟨rfl, hrelated⟩ := hfirst
      rw [find?, find?]
      split
      next => exact .some hrelated
      next => exact ih

/-- An entry after a put is the one that was put, or an old one. -/
theorem mem_put {entry : String × α} (h : entry ∈ put name value entries) :
    entry = (name, value) ∨ entry ∈ entries := by
  induction entries with
  | nil => exact .inl (by simpa [put] using h)
  | cons first rest ih =>
      obtain ⟨key, old⟩ := first
      by_cases hkey : key = name
      · subst hkey
        rw [put, if_pos rfl, List.mem_cons] at h
        exact h.imp_right (List.mem_cons_of_mem _)
      · rw [put, if_neg hkey, List.mem_cons] at h
        obtain rfl | h := h
        · exact .inr (by simp)
        · exact (ih h).imp_right (List.mem_cons_of_mem _)

/-- An entry after many puts is one of those that were put, or an old one. -/
theorem mem_putAll {entry : String × α} (h : entry ∈ putAll more entries) :
    entry ∈ more ∨ entry ∈ entries := by
  unfold putAll at h
  induction more generalizing entries with
  | nil => exact .inr h
  | cons first rest ih =>
      obtain h | h := ih h
      · exact .inl (List.mem_cons_of_mem _ h)
      · obtain rfl | h := mem_put h
        · exact .inl (by simp)
        · exact .inr h

/-- What is found after all values have been changed alike. -/
theorem find?_map {β : Type} {change : α → β} :
    find? name (entries.map fun entry => (entry.1, change entry.2)) =
      (find? name entries).map change := by
  induction entries with
  | nil => rfl
  | cons first rest ih =>
      obtain ⟨key, old⟩ := first
      by_cases hkey : key = name
      · simp [find?, hkey]
      · simpa [find?, hkey] using ih

/-- What is found under a name whose entries are kept. -/
theorem find?_filter (keep : String → Bool) (h : keep name = true) :
    find? name (entries.filter fun entry => keep entry.1) = find? name entries := by
  induction entries with
  | nil => rfl
  | cons first rest ih =>
      obtain ⟨key, old⟩ := first
      by_cases hkey : key = name
      · subst hkey
        simp [find?, h]
      · cases hkeep : keep key with
        | true => simpa [find?, hkey, hkeep] using ih
        | false => simpa [find?, hkey, hkeep] using ih

/-- After many puts of different names, each of these has its value, and others have theirs. -/
theorem find?_putAll (h : (keys more).Nodup) :
    find? name (putAll more entries) = (find? name more).or (find? name entries) := by
  unfold putAll
  induction more generalizing entries with
  | nil => rfl
  | cons first rest ih =>
      obtain ⟨key, new⟩ := first
      obtain ⟨hnew, hrest⟩ := List.nodup_cons.mp h
      rw [List.foldl_cons, ih hrest, find?_put]
      by_cases hkey : key = name
      · subst hkey
        rw [find?_eq_none hnew]
        simp [find?]
      · simp [find?, hkey]

/-- A put adds its name to the names and no other. -/
theorem mem_keys_put {other : String} :
    other ∈ keys (put name value entries) ↔ other = name ∨ other ∈ keys entries := by
  induction entries with
  | nil => simp [put, keys]
  | cons first rest ih =>
      obtain ⟨key, old⟩ := first
      by_cases hkey : key = name
      · subst hkey
        simp [put, keys]
      · have hrest : other ∈ List.map Prod.fst (put name value rest) ↔
            other = name ∨ other ∈ List.map Prod.fst rest := ih
        simp only [put, hkey, if_false, keys, List.map_cons, List.mem_cons, hrest]
        exact or_left_comm

/-- Names stay without repetitions. -/
theorem nodup_keys_put (h : (keys entries).Nodup) : (keys (put name value entries)).Nodup := by
  induction entries with
  | nil => simp [put, keys]
  | cons first rest ih =>
      obtain ⟨key, old⟩ := first
      obtain ⟨hnew, hrest⟩ := List.nodup_cons.mp h
      by_cases hkey : key = name
      · subst hkey
        simpa [put, keys] using ⟨by simpa [keys] using hnew, by simpa [keys] using hrest⟩
      · have hput : (keys ((key, old) :: put name value rest)).Nodup := by
          refine List.nodup_cons.mpr ⟨fun hmem => ?_, ih hrest⟩
          obtain rfl | hmem := mem_keys_put.mp hmem
          · exact hkey rfl
          · exact hnew hmem
        simpa [put, hkey] using hput

/-- Where names do not repeat, every entry is found under its name. -/
theorem find?_of_mem (hkeys : (keys entries).Nodup) (h : (name, value) ∈ entries) :
    find? name entries = some value := by
  induction entries with
  | nil => simp at h
  | cons first rest ih =>
      obtain ⟨key, old⟩ := first
      obtain ⟨hnew, hrest⟩ := List.nodup_cons.mp hkeys
      obtain hfirst | hmem := List.mem_cons.mp h
      · obtain ⟨rfl, rfl⟩ := Prod.mk.inj hfirst
        simp [find?]
      · have hkey : key ≠ name := by
          rintro rfl
          exact hnew (List.mem_map.mpr ⟨_, hmem, rfl⟩)
        rw [find?, if_neg hkey]
        exact ih hrest hmem

/-- Maps with the same names in the same order, under which the same values are found, are
equal. -/
theorem eq_of_find? (hnodup : (keys entries).Nodup) (hkeys : keys entries = keys more)
    (h : ∀ name, find? name entries = find? name more) : entries = more := by
  induction entries generalizing more with
  | nil => exact (List.map_eq_nil_iff.mp hkeys.symm).symm
  | cons first rest ih =>
      obtain ⟨key, value⟩ := first
      cases more with
      | nil => cases hkeys
      | cons second others =>
          obtain ⟨_, other⟩ := second
          obtain ⟨rfl, hrestKeys⟩ := List.cons.inj hkeys
          obtain ⟨hnew, hrest⟩ := List.nodup_cons.mp hnodup
          have hnewOther : key ∉ keys others := fun hmem => hnew (hrestKeys ▸ hmem)
          obtain rfl : value = other := by simpa [find?] using h key
          rw [ih hrest hrestKeys fun name => ?_]
          by_cases hname : key = name
          · subst hname
            rw [find?_eq_none hnew, find?_eq_none hnewOther]
          · simpa [find?, hname] using h name

/-- A new name is put last. -/
theorem put_of_not_mem (h : name ∉ keys entries) :
    put name value entries = entries ++ [(name, value)] := by
  induction entries with
  | nil => rfl
  | cons first rest ih =>
      obtain ⟨key, old⟩ := first
      obtain ⟨hkey, hrest⟩ : key ≠ name ∧ name ∉ keys rest := by
        simpa [keys, eq_comm] using h
      rw [put, if_neg hkey, ih hrest, List.cons_append]

/-- Entries with new and different names are put last. -/
theorem putAll_of_nodup (h : (keys (entries ++ more)).Nodup) :
    putAll more entries = entries ++ more := by
  unfold putAll
  induction more generalizing entries with
  | nil => simp
  | cons first rest ih =>
      obtain ⟨key, new⟩ := first
      have hnew : key ∉ keys entries := by
        rw [keys, List.map_append] at h
        exact fun hmem => (List.nodup_append.mp h).2.2 key hmem key (by simp) rfl
      rw [List.foldl_cons, put_of_not_mem hnew, ih (by simpa using h), List.append_assoc]
      rfl

/-- Entries with different names are a map as they stand. -/
theorem ofList_of_nodup (h : (keys entries).Nodup) : ofList entries = entries :=
  putAll_of_nodup h

theorem find?_append (entries more : Assoc α) :
    find? name (entries ++ more) = (find? name entries).or (find? name more) := by
  induction entries with
  | nil => rfl
  | cons first rest ih =>
      obtain ⟨key, value⟩ := first
      by_cases hkey : key = name
      · simp [find?, hkey]
      · simpa [find?, hkey] using ih

/-- After many puts a name has the value that was put last. -/
theorem find?_putAll_reverse (more entries : Assoc α) :
    find? name (putAll more entries) = (find? name more.reverse).or (find? name entries) := by
  unfold putAll
  induction more generalizing entries with
  | nil => rfl
  | cons first rest ih =>
      obtain ⟨key, value⟩ := first
      rw [List.foldl_cons, ih, find?_put, List.reverse_cons, find?_append]
      by_cases hkey : key = name
      · cases find? name rest.reverse <;> simp [find?, hkey]
      · cases find? name rest.reverse <;> simp [find?, hkey]

/-- The last value that stands under a name. -/
theorem find?_reverse_map (items : List α) (key : α → String) :
    find? name (items.map fun item => (key item, item)).reverse =
      (items.filter fun item => key item = name).getLast? := by
  induction items with
  | nil => rfl
  | cons first rest ih =>
      rw [List.map_cons, List.reverse_cons, find?_append, ih]
      by_cases hkey : key first = name
      · rw [List.filter_cons_of_pos (by simpa using hkey), List.getLast?_cons]
        cases (rest.filter fun item => key item = name).getLast? <;> simp [find?, hkey]
      · rw [List.filter_cons_of_neg (by simpa using hkey)]
        simp [find?, hkey]

/-! ## Names in order of first occurrence -/

theorem filter_eraseDups (p : String → Bool) (names : List String) :
    names.eraseDups.filter p = (names.filter p).eraseDups := by
  induction hlength : names.length using Nat.strongRecOn generalizing names with
  | ind length ih =>
      cases names with
      | nil => rfl
      | cons first rest =>
          have hless : (rest.filter fun name => !name == first).length < length := by
            have := List.length_filter_le (fun name => !name == first) rest
            rw [List.length_cons] at hlength
            omega
          rw [List.eraseDups_cons, List.filter_cons, List.filter_cons, ih _ hless _ rfl,
            List.filter_filter]
          split
          next =>
            rw [List.eraseDups_cons, List.filter_filter]
            simp only [Bool.and_comm]
          next hfirst =>
            -- The first name is left out anyway.
            congr 1
            refine List.filter_congr fun name _ => ?_
            by_cases hname : name = first
            · subst hname
              simp [hfirst]
            · simp [hname]

theorem eraseDups_of_nodup {names : List String} (h : names.Nodup) : names.eraseDups = names := by
  induction names with
  | nil => rfl
  | cons first rest ih =>
      obtain ⟨hnew, hrest⟩ := List.nodup_cons.mp h
      have hkept : rest.filter (fun name => !name == first) = rest := by
        refine List.filter_eq_self.mpr fun name hname => ?_
        have hne : name ≠ first := fun heq => hnew (heq ▸ hname)
        simpa using hne
      rw [List.eraseDups_cons, hkept, ih hrest]

theorem nodup_eraseDups (names : List String) : names.eraseDups.Nodup := by
  induction hlength : names.length using Nat.strongRecOn generalizing names with
  | ind length ih =>
      cases names with
      | nil => exact List.nodup_nil
      | cons first rest =>
          have hless := List.length_filter_le (fun name => !name == first) rest
          rw [List.length_cons] at hlength
          rw [List.eraseDups_cons]
          refine List.nodup_cons.mpr ⟨?_, ih _ (by omega) _ rfl⟩
          simp [List.mem_eraseDups]

/-- Names that come again are left out once and for all. -/
theorem eraseDups_cons_eraseDups (names : List String) :
    (name :: names.eraseDups).eraseDups = (name :: names).eraseDups := by
  rw [List.eraseDups_cons, List.eraseDups_cons, filter_eraseDups,
    eraseDups_of_nodup (nodup_eraseDups _)]

/-- A name that occurs before is left out. -/
theorem eraseDups_append_cons {names rest : List String} (h : name ∈ names) :
    (names ++ name :: rest).eraseDups = (names ++ rest).eraseDups := by
  rw [List.eraseDups_append, List.eraseDups_append]
  congr 2
  simp [List.removeAll, h]

/-- The names after many puts are the old ones and then the new ones, in order of first
occurrence. -/
theorem keys_putAll (h : (keys entries).Nodup) :
    keys (putAll more entries) = (keys entries ++ keys more).eraseDups := by
  unfold putAll
  induction more generalizing entries with
  | nil =>
      rw [List.foldl_nil, show keys ([] : Assoc α) = [] from rfl, List.append_nil,
        eraseDups_of_nodup h]
  | cons first rest ih =>
      obtain ⟨key, value⟩ := first
      rw [List.foldl_cons, ih (nodup_keys_put h)]
      change _ = (keys entries ++ key :: keys rest).eraseDups
      by_cases hkey : key ∈ keys entries
      · rw [keys_put_of_mem hkey, eraseDups_append_cons hkey]
      · have hput : keys (put key value entries) = keys entries ++ [key] := by
          rw [put_of_not_mem hkey]
          simp [keys]
        rw [hput, List.append_assoc, List.singleton_append]

/-- The names of a map of pairs are those of the pairs in order of first occurrence. -/
theorem keys_ofList (entries : List (String × α)) :
    keys (ofList entries) = (entries.map Prod.fst).eraseDups :=
  keys_putAll List.nodup_nil

end RecordRecipe.Assoc
