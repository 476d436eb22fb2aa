import RecordRecipe.Error

/-!
# Computations that may fail and keep their state

An `Action σ α` changes a state of type `σ` and gives a value or an error. The state stays beside
the error: what was written before a failure is still written. The equations below unfold the
monad operations on a state, so that a proof never has to open a definition.
-/

namespace RecordRecipe

/-- A computation over a state that may fail; the state survives the failure. -/
def Action (σ α : Type) : Type := σ → Except Error α × σ

namespace Action

variable {σ τ α β : Type}

/-- Give a value and leave the state alone. -/
def done (a : α) : Action σ α := fun s => (.ok a, s)

/-- Fail and leave the state alone. -/
def fail (error : Error) : Action σ α := fun s => (.error error, s)

/-- Run one computation and feed its value to the next; an error ends both. -/
def andThen (first : Action σ α) (next : α → Action σ β) : Action σ β := fun s =>
  match first s with
  | (.ok a, s) => next a s
  | (.error error, s) => (.error error, s)

instance : Monad (Action σ) where
  pure := done
  bind := andThen

/-- The state. -/
def get : Action σ σ := fun s => (.ok s, s)

/-- Change the state. -/
def modify (change : σ → σ) : Action σ Unit := fun s => (.ok (), change s)

/-- Change the state and give a value computed on the way. -/
def modifyGet (change : σ → α × σ) : Action σ α := fun s =>
  let (a, s) := change s
  (.ok a, s)

/-- Give a value or fail, as told. -/
def lift (result : Except Error α) : Action σ α := fun s => (result, s)

/-- Pass an error through a frame. -/
def mapError (frame : Error → Error) (action : Action σ α) : Action σ α := fun s =>
  match action s with
  | (.ok a, s) => (.ok a, s)
  | (.error error, s) => (.error (frame error), s)

/-- Do something about an error before it is passed on. -/
def onError (handle : Error → Action σ Unit) (action : Action σ α) : Action σ α := fun s =>
  match action s with
  | (.ok a, s) => (.ok a, s)
  | (.error error, s) => (.error error, (handle error s).2)

/-- Do something for every item of a list, from left to right. -/
def forEach (body : α → Action σ Unit) : List α → Action σ Unit
  | [] => done ()
  | a :: rest => body a >>= fun _ => forEach body rest

/-- Run a computation on a part of the state. -/
def onPart (part : σ → τ) (setPart : τ → σ → σ) (action : Action τ α) : Action σ α := fun s =>
  let (result, t) := action (part s)
  (result, setPart t s)

@[simp] theorem pure_apply (a : α) (s : σ) : (pure a : Action σ α) s = (.ok a, s) := rfl

@[simp] theorem bind_apply (first : Action σ α) (next : α → Action σ β) (s : σ) :
    (first >>= next) s = match first s with
      | (.ok a, s) => next a s
      | (.error error, s) => (.error error, s) := rfl

@[simp] theorem fail_apply (error : Error) (s : σ) :
    (fail error : Action σ α) s = (.error error, s) := rfl

@[simp] theorem get_apply (s : σ) : (get : Action σ σ) s = (.ok s, s) := rfl

@[simp] theorem modify_apply (change : σ → σ) (s : σ) :
    modify change s = (.ok (), change s) := rfl

@[simp] theorem lift_apply (result : Except Error α) (s : σ) :
    lift result s = (result, s) := rfl

theorem bind_assoc {γ : Type} (first : Action σ α) (next : α → Action σ β)
    (last : β → Action σ γ) :
    first >>= next >>= last = first >>= fun a => next a >>= last := by
  funext s
  simp only [bind_apply]
  cases first s with
  | mk result s => cases result <;> rfl

/-- A sequence that gives a value has given one in its first part. -/
theorem bind_eq_ok {first : Action σ α} {next : α → Action σ β} {s last : σ} {b : β}
    (h : (first >>= next) s = (.ok b, last)) :
    ∃ a middle, first s = (.ok a, middle) ∧ next a middle = (.ok b, last) := by
  rw [bind_apply] at h
  split at h
  next a middle hfirst => exact ⟨a, middle, hfirst, h⟩
  next => cases h

end Action

end RecordRecipe
