/-!
# Errors and where they arose

An error has a kind, a message and a place in a recipe. An error raised deep inside an evaluation
starts without a place and picks one up from the frames that it passes on its way out: the first
frame that knows a line sets file and line, and the first field on the way is kept. Errors of the
file system and of encoders have no place of their own; the first frame wraps them once.
-/

namespace RecordRecipe

/-- Where in a recipe an error arose. Every part may be missing. -/
structure Place where
  file : Option String := none
  line : Option Nat := none
  field : Option String := none
deriving DecidableEq, Repr

namespace Place

/-- A file and a line. -/
def ofLine (file : String) (line : Nat) : Place :=
  { file := some file, line := some line }

/-- Take over file and line unless a line is known. A known file stays. -/
def fill (file : String) (line : Nat) (place : Place) : Place :=
  match place.line with
  | some _ => place
  | none => { place with line := some line, file := some (place.file.getD file) }

/-- Take over a field unless one is known. -/
def fillField (field : String) (place : Place) : Place :=
  { place with field := some (place.field.getD field) }

/-- The field, then the file and line on a line of their own. -/
def text (place : Place) : String :=
  let field := match place.field with
    | some name => " (field `" ++ name ++ "`)"
    | none => ""
  let position := match place.file, place.line with
    | some file, some line => "\n near " ++ file ++ ":" ++ toString line
    | none, some line => "\n near <recipe>:" ++ toString line
    | some file, none => "\n in " ++ file
    | none, none => ""
  field ++ position

end Place

/-- The kinds of errors that have a place. -/
inductive ErrorKind where
  /-- The recipe is not well formed. -/
  | grammar
  /-- A name stands for nothing. -/
  | name
  /-- A value cannot be used as it is. -/
  | value
  /-- Anything else. -/
  | general
deriving DecidableEq, Repr

/-- What went wrong. -/
inductive Error where
  /-- An error of the recipe or of its evaluation; the cause is an error that it wraps. -/
  | placed (kind : ErrorKind) (message : String) (place : Place) (cause : Option Error)
  /-- A sink cannot store a kind of value. -/
  | noEncoder (kind sink : String)
  /-- The file system refused, or a writer of CSV, JSON or YAML did. The reason is all that is known
  of the refusal. -/
  | io (reason : String)
deriving Repr

namespace Error

/-- Errors are compared with all that they wrap. -/
protected def decEq : (error other : Error) → Decidable (error = other)
  | .placed kind message place cause, .placed kind₂ message₂ place₂ cause₂ =>
      if h : kind = kind₂ ∧ message = message₂ ∧ place = place₂ then
        match cause, cause₂ with
        | none, none => isTrue (by simp [h])
        | some cause, some cause₂ =>
            have := Error.decEq cause cause₂
            decidable_of_iff (cause = cause₂) (by simp [h])
        | none, some _ | some _, none => isFalse (by simp)
      else isFalse fun heq => h (by cases heq; simp)
  | .noEncoder kind sink, .noEncoder kind₂ sink₂ =>
      decidable_of_iff (kind = kind₂ ∧ sink = sink₂) (by simp)
  | .io reason, .io reason₂ => decidable_of_iff (reason = reason₂) (by simp)
  | .placed .., .noEncoder .. | .placed .., .io .. | .noEncoder .., .placed ..
  | .noEncoder .., .io .. | .io .., .placed .. | .io .., .noEncoder .. => isFalse nofun

instance : DecidableEq Error := Error.decEq

/-- An error that has no place yet. -/
def unplaced (kind : ErrorKind) (message : String) : Error :=
  .placed kind message {} none

/-- A recipe that is not well formed. -/
def grammar (message : String) : Error := .unplaced .grammar message

/-- A name that stands for nothing. -/
def name (message : String) : Error := .unplaced .name message

/-- A value that cannot be used. -/
def value (message : String) : Error := .unplaced .value message

/-- An error of no particular kind. -/
def general (message : String) : Error := .unplaced .general message

/-- The text without the place. -/
def message : Error → String
  | .placed _ message _ _ => message
  | .noEncoder kind sink => "no encoder for type `" ++ kind ++ "` in the " ++ sink ++ " output"
  | .io reason => reason

/-- The place, of those errors that have one. -/
def place? : Error → Option Place
  | .placed _ _ place _ => some place
  | _ => none

/-- The kind, of those errors that have a place. -/
def kind? : Error → Option ErrorKind
  | .placed kind _ _ _ => some kind
  | _ => none

/-- The error that this one wraps. -/
def wrapped? : Error → Option Error
  | .placed _ _ _ cause => cause
  | _ => none

/-- The text with the place. -/
def text (error : Error) : String :=
  match error.place? with
  | some place => error.message ++ place.text
  | none => error.message

/-- The text of the error that this one wraps. -/
def cause? (error : Error) : Option String := error.wrapped?.map text

/-- Put the error at a file and line, whatever was known before. An error without a place of its
own stays as it is. -/
def atLine (file : String) (line : Nat) : Error → Error
  | .placed kind message place cause =>
      .placed kind message { place with file := some file, line := some line } cause
  | other => other

/-- Give an error without a place one, by wrapping it. -/
def withPlace : Error → Error
  | .placed kind message place cause => .placed kind message place cause
  | other => .placed .general other.text {} (some other)

/-- Change the place of an error that has one. -/
def mapPlace (change : Place → Place) : Error → Error
  | .placed kind message place cause => .placed kind message (change place) cause
  | other => other

/-- A frame that knows a file and a line: it supplies them unless an inner frame did. -/
def orAtLine (file : String) (line : Nat) (error : Error) : Error :=
  error.withPlace.mapPlace (Place.fill file line)

/-- A frame that knows the field being rendered: it supplies it unless an inner frame did. -/
def inField (field : String) (error : Error) : Error :=
  error.withPlace.mapPlace (Place.fillField field)

end Error

end RecordRecipe
