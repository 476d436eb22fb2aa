import RecordRecipe.Function.Fault
import RecordRecipe.Proofs.Result

/-!
# Places of errors

An error starts bare and takes on what the frames around it know. `Error.Fits` says that it knows no
more and no less about fields than the frames that it has passed, and `Error.Located` that it has
also passed a frame with a line. The frames of fields and of lines lead from the one to the other.
-/

namespace RecordRecipe.Error

/-- An error that has no place at all, or a place of which nothing is known. -/
def Bare (error : Error) : Prop := error.place?.getD {} = {}

/-- An error names the innermost of the fields around it, and a line only with a file. -/
def Fits (fields : List String) (error : Error) : Prop :=
  (error.place?.getD {}).field = fields.head? ∧
    ((error.place?.getD {}).line.isSome → (error.place?.getD {}).file.isSome)

/-- An error has a kind, a file and a line, and it names the innermost of the fields around it. -/
def Located (fields : List String) (error : Error) : Prop :=
  ∃ kind message file line cause,
    error = .placed kind message ⟨some file, some line, fields.head?⟩ cause

variable {error : Error} {fields : List String} {file : String} {line : Nat}

theorem bare_unplaced {kind : ErrorKind} {message : String} : (unplaced kind message).Bare := rfl

/-- An error that is put at a line is located, where no field is around. -/
theorem located_atLine {kind : ErrorKind} {message : String} :
    ((unplaced kind message).atLine file line).Located [] :=
  ⟨kind, message, file, line, none, rfl⟩

/-- A bare error fits where no field is around. -/
theorem Bare.fits (h : error.Bare) : error.Fits [] := by
  unfold Fits
  rw [h]
  exact ⟨rfl, nofun⟩

/-- An error with a line fits. -/
theorem Located.fits (h : error.Located fields) : error.Fits fields := by
  obtain ⟨_, _, _, _, _, rfl⟩ := h
  exact ⟨rfl, fun _ => rfl⟩

/-- A frame with a line locates an error, and keeps the line that it has. -/
theorem Fits.orAtLine (h : error.Fits fields) : (error.orAtLine file line).Located fields := by
  cases error with
  | placed kind message place cause =>
      obtain ⟨known, number, field⟩ := place
      obtain ⟨rfl, hfile⟩ : field = fields.head? ∧ (number.isSome → known.isSome) := h
      cases number with
      | none => exact ⟨kind, message, known.getD file, line, cause, rfl⟩
      | some number =>
          obtain ⟨known, rfl⟩ := Option.isSome_iff_exists.mp (hfile rfl)
          exact ⟨kind, message, known, number, cause, rfl⟩
  | noEncoder kind sink =>
      have hfield : none = fields.head? := h.1
      exact ⟨.general, _, file, line, _, by rw [← hfield]; rfl⟩
  | io reason =>
      have hfield : none = fields.head? := h.1
      exact ⟨.general, _, file, line, _, by rw [← hfield]; rfl⟩

/-- A frame of a field names it, unless a field inside has been named. -/
theorem Fits.inField (h : error.Fits fields) (name : String) :
    (error.inField name).Fits (fields ++ [name]) := by
  have hhead : (fields ++ [name]).head? = some (fields.head?.getD name) := by
    cases fields <;> rfl
  unfold Fits
  rw [hhead, ← h.1]
  cases error with
  | placed kind message place cause => exact ⟨rfl, h.2⟩
  | noEncoder | io => exact ⟨rfl, nofun⟩

end RecordRecipe.Error

namespace RecordRecipe

/-- The fault of a call has no place yet. -/
theorem CallFault.error_bare (fault : CallFault) : fault.error.Bare := Error.bare_unplaced

end RecordRecipe
