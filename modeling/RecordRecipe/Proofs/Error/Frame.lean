import RecordRecipe.Error

/-!
# Frames around errors

On its way out an error passes frames, which know a file and a line or a field. A frame supplies
what neither the error itself nor a frame inside has known, so that for each part of the place the
innermost that knows it wins. `Error.through_settles` says what becomes of any error behind any
frames: an error without a place is wrapped by the first of them, and by no other.
-/

namespace RecordRecipe

/-! ## Frames -/

/-- What an error passes on its way out. -/
inductive Error.Frame where
  | line (file : String) (number : Nat)
  | field (name : String)

namespace Error.Frame

/-- The file and the line that a frame knows. -/
def position? : Frame → Option (String × Nat)
  | line file number => some (file, number)
  | field _ => none

/-- The field that a frame knows. -/
def field? : Frame → Option String
  | line _ _ => none
  | field name => some name

/-- An error behind a frame. -/
def pass : Frame → Error → Error
  | line file number => Error.orAtLine file number
  | field name => Error.inField name

/-- A place behind a frame. -/
def fill : Frame → Place → Place
  | line file number => Place.fill file number
  | field name => Place.fillField name

variable (frame : Frame)

theorem pass_placed (kind : ErrorKind) (message : String) (place : Place) (cause : Option Error) :
    frame.pass (.placed kind message place cause) =
      .placed kind message (frame.fill place) cause := by
  cases frame <;> rfl

/-- A frame gives an error a place before it fills in what it knows. -/
theorem pass_withPlace (error : Error) : frame.pass error.withPlace = frame.pass error := by
  cases frame <;> cases error <;> rfl

/-- There are no frames if there are none of either kind. -/
theorem eq_nil_iff {frames : List Frame} :
    frames = [] ↔ frames.filterMap position? = [] ∧ frames.filterMap field? = [] := by
  cases frames with
  | nil => simp
  | cons frame frames => cases frame <;> simp [position?, field?]

end Error.Frame

/-! ## Places behind frames -/

namespace Place

open Error (Frame)

/-- A place behind some frames, the innermost first. A known part stays. Otherwise line and field
are those of the first frame that knows one, and the file comes with the line. -/
def settled (frames : List Frame) (place : Place) : Place where
  file := place.file.or
    (if place.line.isSome then none else (frames.findSome? Frame.position?).map Prod.fst)
  line := place.line.or ((frames.findSome? Frame.position?).map Prod.snd)
  field := place.field.or (frames.findSome? Frame.field?)

theorem settled_nil (place : Place) : place.settled [] = place := by
  simp [settled]

/-- What a frame has filled in counts as known for the frames around it. -/
theorem settled_fill (frame : Frame) (frames : List Frame) (place : Place) :
    (frame.fill place).settled frames = place.settled (frame :: frames) := by
  obtain ⟨file, line, field⟩ := place
  cases frame with
  | line name number => cases line <;> cases file <;> rfl
  | field name => cases field <;> rfl

end Place

/-! ## Errors behind frames -/

namespace Error

/-- An error behind the frames around it, the innermost first. -/
def through (frames : List Frame) (error : Error) : Error :=
  frames.foldl (fun error frame => frame.pass error) error

variable {error : Error}

theorem through_placed (frames : List Frame) (kind : ErrorKind) (message : String) (place : Place)
    (cause : Option Error) :
    (placed kind message place cause).through frames =
      .placed kind message (place.settled frames) cause := by
  induction frames generalizing place with
  | nil =>
      rw [Place.settled_nil]
      rfl
  | cons frame frames ih =>
      rw [← Place.settled_fill, ← ih, through, List.foldl_cons, frame.pass_placed]
      rfl

theorem through_withPlace (frame : Frame) (frames : List Frame) (error : Error) :
    error.withPlace.through (frame :: frames) = error.through (frame :: frames) := by
  rw [through, through, List.foldl_cons, List.foldl_cons, frame.pass_withPlace]

/-- An error without a place is wrapped by the first frame, which leaves nothing to wrap for the
others. -/
theorem through_of_unplaced (h : error.place? = none) (frame : Frame) (frames : List Frame) :
    error.through (frame :: frames) =
      .placed .general error.text (Place.settled (frame :: frames) {}) (some error) := by
  have hwrapped : error.withPlace = .placed .general error.text {} (some error) := by
    cases error with
    | placed => cases h
    | noEncoder | io => rfl
  rw [← through_withPlace, hwrapped, through_placed]

theorem message_through (frames : List Frame) (error : Error) :
    (error.through frames).message = error.message := by
  cases frames with
  | nil => rfl
  | cons frame frames =>
      cases error with
      | placed =>
          rw [through_placed]
          rfl
      | noEncoder | io =>
          rw [through_of_unplaced rfl]
          rfl

theorem place?_through (frames : List Frame) (error : Error) :
    (error.through frames).place?.getD {} = (error.place?.getD {}).settled frames := by
  cases error with
  | placed =>
      rw [through_placed]
      rfl
  | noEncoder | io =>
      cases frames with
      | nil => exact (Place.settled_nil _).symm
      | cons frame frames =>
          rw [through_of_unplaced rfl]
          rfl

/-- An error with a place keeps its kind, and is not wrapped. -/
theorem through_of_placed (h : error.place?.isSome) (frames : List Frame) :
    (error.through frames).kind? = error.kind? ∧
      (error.through frames).wrapped? = error.wrapped? := by
  cases error with
  | placed =>
      rw [through_placed]
      exact ⟨rfl, rfl⟩
  | noEncoder | io => cases h

/-- What becomes of an error depends on the frames with lines, in their order, and on those with
fields, in theirs, but not on how the two follow each other. -/
theorem through_congr {frames other : List Frame}
    (hlines : frames.filterMap Frame.position? = other.filterMap Frame.position?)
    (hfields : frames.filterMap Frame.field? = other.filterMap Frame.field?) (error : Error) :
    error.through frames = error.through other := by
  have hsettled (place : Place) : place.settled frames = place.settled other := by
    simp only [Place.settled, ← List.head?_filterMap, hlines, hfields]
  have hempty : frames = [] ↔ other = [] := by
    rw [Frame.eq_nil_iff, Frame.eq_nil_iff, hlines, hfields]
  cases error with
  | placed => rw [through_placed, through_placed, hsettled]
  | noEncoder | io =>
      -- Without a place, a frame of either kind wraps; so none may be missing on one side only.
      cases frames with
      | nil => rw [hempty.mp rfl]
      | cons frame frames =>
          cases other with
          | nil => cases hempty.mpr rfl
          | cons => rw [through_of_unplaced rfl, through_of_unplaced rfl, hsettled]

/-- For every error and all frames around it, the innermost first: the line is the error's own or
that of the first frame with a line; the file is the error's own or that of the frame that supplies
the line; the field is the error's own or that of the first frame with a field. Frames with lines may
be moved past frames with fields. The message stays, and an error with a place keeps its kind and
wraps what it has wrapped. An error without a place becomes a general one that says its text and
wraps it, with nothing in between however many frames follow. -/
theorem through_settles (error : Error) (frames : List Frame) :
    let before := error.place?.getD {}
    let after := (error.through frames).place?.getD {}
    let supplied := frames.findSome? Frame.position?
    after.line = before.line.or (supplied.map Prod.snd) ∧
    after.file = before.file.or (if before.line.isSome then none else supplied.map Prod.fst) ∧
    after.field = before.field.or (frames.findSome? Frame.field?) ∧
    (∀ other : List Frame, frames.filterMap Frame.position? = other.filterMap Frame.position? →
      frames.filterMap Frame.field? = other.filterMap Frame.field? →
        error.through frames = error.through other) ∧
    (error.through frames).message = error.message ∧
    (error.place?.isSome → (error.through frames).kind? = error.kind? ∧
      (error.through frames).wrapped? = error.wrapped?) ∧
    (error.place? = none → frames ≠ [] →
      error.through frames = .placed .general error.text after (some error)) := by
  intro before after supplied
  have hafter : after = before.settled frames := place?_through frames error
  refine ⟨congrArg Place.line hafter, congrArg Place.file hafter, congrArg Place.field hafter,
    fun other hlines hfields => through_congr hlines hfields error, message_through frames error,
    fun hplace => through_of_placed hplace frames, fun hplace hframes => ?_⟩
  obtain ⟨frame, rest, rfl⟩ := List.exists_cons_of_ne_nil hframes
  have hbefore : before = {} := congrArg (Option.getD · {}) hplace
  rw [hafter, hbefore]
  exact through_of_unplaced hplace frame rest

/-- A refused value, and a name that is missing in a known file, behind two fields and two lines:
line and field are the inner ones, and the file is taken only where none is known. -/
theorem through_settles_deep :
    let frames := [Frame.field "inner", .line "f.yml" 3, .field "outer", .line "g.yml" 9]
    let sorted := [Frame.line "f.yml" 3, .line "g.yml" 9, .field "inner", .field "outer"]
    let refused := noEncoder "date" "trace"
    let missing := placed .name "no such table" { file := some "a.yml" } none
    refused.through frames = .placed .general refused.text ⟨"f.yml", some 3, "inner"⟩ refused ∧
    missing.through frames = missing.through sorted ∧
    (missing.through frames).kind? = some .name ∧
    (missing.through frames).place?.getD {} = ⟨"a.yml", some 3, "inner"⟩ := by
  intro frames sorted refused missing
  obtain ⟨hline, hfile, hfield, -, -, -, hwraps⟩ := through_settles refused frames
  obtain ⟨hnumber, hknown, hname, hsorted, -, hkeeps, -⟩ := through_settles missing frames
  have hrefused : (refused.through frames).place?.getD {} = ⟨"f.yml", some 3, "inner"⟩ :=
    (Place.mk.injEq ..).mpr ⟨hfile, hline, hfield⟩
  have hmissing : (missing.through frames).place?.getD {} = ⟨"a.yml", some 3, "inner"⟩ :=
    (Place.mk.injEq ..).mpr ⟨hknown, hnumber, hname⟩
  refine ⟨?_, hsorted sorted rfl rfl, (hkeeps rfl).1, hmissing⟩
  rw [← hrefused]
  exact hwraps rfl (List.cons_ne_nil _ _)

end Error

end RecordRecipe
