import Mathlib.Data.List.Basic

/-!
# What results give

`Gives P result` says that a result, if there is one, satisfies `P`, and `Refuses P result` says so
of an error. The equations push both through the operations of `Except`, so that a proof about a
computation follows its binds.
-/

namespace RecordRecipe

variable {ε δ α β : Type}

/-- A result, if there is one, satisfies a property. -/
def Gives (P : α → Prop) : Except ε α → Prop
  | .ok a => P a
  | .error _ => True

namespace Gives

variable {P Q : α → Prop} {R : β → Prop}

@[simp] theorem ok_iff {a : α} : Gives P (.ok a : Except ε α) ↔ P a := Iff.rfl

@[simp] theorem error_iff {e : ε} : Gives P (.error e : Except ε α) ↔ True := Iff.rfl

@[simp] theorem pure_iff {a : α} : Gives P (pure a : Except ε α) ↔ P a := Iff.rfl

@[simp] theorem throw_iff {e : ε} : Gives P (throw e : Except ε α) ↔ True := Iff.rfl

/-- A sequence gives what its second part gives after the first. -/
@[simp] theorem bind_iff {result : Except ε α} {next : α → Except ε β} :
    Gives R (result >>= next) ↔ Gives (fun a => Gives R (next a)) result := by
  cases result <;> exact Iff.rfl

@[simp] theorem map_iff {result : Except ε α} {f : α → β} :
    Gives R (f <$> result) ↔ Gives (fun a => R (f a)) result := by
  cases result <;> exact Iff.rfl

@[simp] theorem except_map_iff {result : Except ε α} {f : α → β} :
    Gives R (result.map f) ↔ Gives (fun a => R (f a)) result := by
  cases result <;> exact Iff.rfl

@[simp] theorem except_bind_iff {result : Except ε α} {next : α → Except ε β} :
    Gives R (result.bind next) ↔ Gives (fun a => Gives R (next a)) result := by
  cases result <;> exact Iff.rfl

@[simp] theorem mapError_iff {result : Except ε α} {frame : ε → δ} :
    Gives P (result.mapError frame) ↔ Gives P result := by
  cases result <;> exact Iff.rfl

/-- A weaker property is satisfied as well. -/
theorem imp {result : Except ε α} (h : Gives P result) (himp : ∀ a, P a → Q a) :
    Gives Q result := by
  cases result with
  | ok a => exact himp a h
  | error e => trivial

/-- What all values satisfy, a result satisfies. -/
theorem of_forall {result : Except ε α} (h : ∀ a, P a) : Gives P result := by
  cases result with
  | ok a => exact h a
  | error e => trivial

/-- What every value that may be there satisfies, a result satisfies. -/
theorem of_ok {result : Except ε α} (h : ∀ a, result = .ok a → P a) : Gives P result := by
  cases result with
  | ok a => exact h a rfl
  | error e => trivial

/-- A result that is there satisfies the property. -/
theorem of_eq_ok {result : Except ε α} {a : α} (h : Gives P result) (hok : result = .ok a) :
    P a := by
  subst hok
  exact h

/-- A result that is no error is there. -/
theorem exists_of_isOk {result : Except ε α} (h : result.isOk = true) : ∃ a, result = .ok a := by
  cases result with
  | ok a => exact ⟨a, rfl⟩
  | error e => cases h

/-- What every item gives, all results of a list satisfy. -/
theorem mapM {items : List α} {f : α → Except ε β} (h : ∀ a ∈ items, Gives R (f a)) :
    Gives (fun results => ∀ b ∈ results, R b) (items.mapM f) := by
  induction items with
  | nil => simp
  | cons first rest ih =>
      have hfirst := h first (by simp)
      have hrest := ih fun a ha => h a (by simp [ha])
      rw [List.mapM_cons, bind_iff]
      refine hfirst.imp fun b hb => ?_
      rw [bind_iff]
      refine hrest.imp fun results hresults => ?_
      simpa [hb] using hresults

/-- The items that a filter of results puts before others are among the given ones. -/
theorem filterAuxM {items kept : List α} {keep : α → Except ε Bool}
    (hkept : ∀ a ∈ kept, P a) (h : ∀ a ∈ items, P a) :
    Gives (fun found => ∀ a ∈ found, P a) (List.filterAuxM keep items kept) := by
  induction items generalizing kept with
  | nil => simpa [List.filterAuxM] using hkept
  | cons first rest ih =>
      rw [List.filterAuxM, bind_iff]
      refine of_forall fun keeps => ih ?_ fun a ha => h a (by simp [ha])
      cases keeps
      · exact hkept
      · simpa [h first (by simp)] using hkept

/-- The items that a filter of results keeps are among the given ones. -/
theorem filterM {items : List α} {keep : α → Except ε Bool} (h : ∀ a ∈ items, P a) :
    Gives (fun kept => ∀ a ∈ kept, P a) (items.filterM keep) := by
  rw [List.filterM, bind_iff]
  refine (filterAuxM (by simp) h).imp fun kept hkept => ?_
  simpa using hkept

/-- What a step keeps, a fold of results keeps. -/
theorem foldlM {items : List β} {step : α → β → Except ε α} {a : α} (ha : P a)
    (h : ∀ a, P a → ∀ b ∈ items, Gives P (step a b)) : Gives P (items.foldlM step a) := by
  induction items generalizing a with
  | nil => simpa using ha
  | cons first rest ih =>
      rw [List.foldlM_cons, bind_iff]
      refine (h a ha first (by simp)).imp fun a ha => ?_
      exact ih ha fun a ha b hb => h a ha b (by simp [hb])

end Gives

/-- A list of results holds the result of every item. -/
theorem forall₂_of_mapM {items : List α} {results : List β} {f : α → Except ε β}
    (h : items.mapM f = .ok results) :
    List.Forall₂ (fun a b => f a = .ok b) items results := by
  induction items generalizing results with
  | nil =>
      obtain rfl := Except.ok.inj h
      exact .nil
  | cons first rest ih =>
      rw [List.mapM_cons] at h
      cases hfirst : f first with
      | error e =>
          rw [hfirst] at h
          cases h
      | ok b =>
          rw [hfirst] at h
          cases hrest : rest.mapM f with
          | error e =>
              rw [hrest] at h
              cases h
          | ok others =>
              rw [hrest] at h
              obtain rfl : b :: others = results := Except.ok.inj h
              exact .cons hfirst (ih hrest)

/-- A sequence that gives a value has given one in its first part. -/
theorem bind_eq_ok {result : Except ε α} {next : α → Except ε β} {b : β}
    (h : result >>= next = .ok b) : ∃ a, result = .ok a ∧ next a = .ok b := by
  cases result with
  | ok a => exact ⟨a, rfl, h⟩
  | error e => cases h

/-- An error, if there is one, satisfies a property. -/
def Refuses (P : ε → Prop) : Except ε α → Prop
  | .ok _ => True
  | .error e => P e

namespace Refuses

variable {P Q : ε → Prop} {result : Except ε α}

@[simp] theorem ok_iff {a : α} : Refuses P (.ok a) ↔ True := Iff.rfl

@[simp] theorem error_iff {e : ε} : Refuses P (.error e : Except ε α) ↔ P e := Iff.rfl

@[simp] theorem pure_iff {a : α} : Refuses P (pure a) ↔ True := Iff.rfl

@[simp] theorem throw_iff {e : ε} : Refuses P (throw e : Except ε α) ↔ P e := Iff.rfl

@[simp] theorem except_map_iff {f : α → β} : Refuses P (result.map f) ↔ Refuses P result := by
  cases result <;> exact Iff.rfl

@[simp] theorem mapError_iff {R : δ → Prop} {frame : ε → δ} :
    Refuses R (result.mapError frame) ↔ Refuses (fun e => R (frame e)) result := by
  cases result <;> exact Iff.rfl

/-- The error of a sequence is that of one of its parts, the second one behind what the first one
may give. -/
theorem bindGiven {R : α → Prop} {next : α → Except ε β} (h : Refuses P result)
    (hgives : Gives R result) (hnext : ∀ a, R a → Refuses P (next a)) :
    Refuses P (result >>= next) := by
  cases result with
  | ok a => exact hnext a hgives
  | error e => exact h

/-- The error of a sequence is that of one of its parts. -/
theorem bind {next : α → Except ε β} (h : Refuses P result) (hnext : ∀ a, Refuses P (next a)) :
    Refuses P (result >>= next) :=
  h.bindGiven (Gives.of_forall fun _ => trivial) fun a _ => hnext a

/-- A weaker property is satisfied as well. -/
theorem imp (h : Refuses P result) (himp : ∀ e, P e → Q e) : Refuses Q result := by
  cases result with
  | ok a => trivial
  | error e => exact himp e h

/-- What all errors satisfy, the error of a result satisfies. -/
theorem of_forall (h : ∀ e, P e) : Refuses P result := by
  cases result with
  | ok a => trivial
  | error e => exact h e

/-- An error that is there satisfies the property. -/
theorem of_eq_error {e : ε} (h : Refuses P result) (herror : result = .error e) : P e := by
  subst herror
  exact h

/-- The error of a list of results is that of an item. -/
theorem mapM {items : List α} {f : α → Except ε β} (h : ∀ a ∈ items, Refuses P (f a)) :
    Refuses P (items.mapM f) := by
  induction items with
  | nil => simp
  | cons first rest ih =>
      rw [List.mapM_cons]
      refine bind (h first (by simp)) fun b => bind ?_ fun _ => by simp
      exact ih fun a ha => h a (by simp [ha])

/-- The error of a fold of results is that of a step. -/
theorem foldlM {items : List β} {step : α → β → Except ε α} {a : α}
    (h : ∀ a, ∀ b ∈ items, Refuses P (step a b)) : Refuses P (items.foldlM step a) := by
  induction items generalizing a with
  | nil => simp
  | cons first rest ih =>
      rw [List.foldlM_cons]
      exact bind (h a first (by simp)) fun _ => ih fun a b hb => h a b (by simp [hb])

end Refuses

end RecordRecipe
