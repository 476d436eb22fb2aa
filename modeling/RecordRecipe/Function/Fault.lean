import RecordRecipe.Error

/-!
# Faults of calls

Every way in which calling a template function can go wrong, and the error that it makes.
-/

namespace RecordRecipe

/-- What is wrong with a call. -/
inductive CallFault where
  | missingArgument (function name : String)
  | unreadableInteger (function content : String)
  | noInteger (function typeName : String)
  | noDate (function value : String)
  | emptyRange (min max : Int)
  | invalidDate (year month day : Int)
  | invalidTime (hour minute second : Nat)
  | unknownObject (name : String)
  | noReference (typeName value : String)
  | counterWithoutName
  | fakeWithoutName
  | ancestorWithoutTable
  | unknownFake (name : String)
  | noAncestor (table : String)
  | badWeight (value : String)
  | zeroWeights
  | choiceArgument (name : String)
  | choiceWithoutPick
  | mixedOptions
  | noOptions
  | unevenOptions
  | missingProbability
  | ifArguments
  | ifBranch
  | ifWithoutWhen (branch : Nat)
  | strayChoice
  | unknownFunction (name : String)
  | longPath (name : String)
  | undefinedObject (name : String)
  | missingField (object table field : String)
deriving Repr

namespace CallFault

/-- The kind of error. -/
def kind : CallFault → ErrorKind
  | unknownObject _ | unknownFake _ | noAncestor _ | unknownFunction _ | undefinedObject _
  | missingField _ _ _ => .name
  | longPath _ => .grammar
  | _ => .value

/-- The message. -/
def message : CallFault → String
  | missingArgument function name => s!"`{function}` is missing the `{name}` argument"
  | unreadableInteger function content => s!"`{function}` cannot read `{content}` as an integer"
  | noInteger function typeName => s!"`{function}` cannot read a {typeName} as an integer"
  | noDate function value => s!"`{function}` cannot read `{value}` as a date"
  | emptyRange min max => s!"`random_number` needs min <= max, got {min} and {max}"
  | invalidDate year month day => s!"`{year}-{month}-{day}` is not a valid date"
  | invalidTime hour minute second => s!"`{hour}:{minute}:{second}` is not a valid time"
  | unknownObject name => s!"cannot find an object named `{name}`"
  | noReference typeName value => s!"cannot reference a {typeName} value: `{value}`"
  | counterWithoutName => "`counter` expects a table name"
  | fakeWithoutName => "`fake` expects the name of a generator"
  | ancestorWithoutTable => "`ancestor` expects a table name"
  | unknownFake name => s!"unknown fake data type `{name}`"
  | noAncestor table => s!"no enclosing `{table}` row"
  | badWeight value => s!"cannot use `{value}` as a probability"
  | zeroWeights => "invalid probabilities: All weights are zero in distribution"
  | choiceArgument name => s!"unexpected `choice` argument `{name}`"
  | choiceWithoutPick => "`choice` needs a `pick`"
  | mixedOptions =>
      "`random_choice` takes either a list of options or a mapping of weights, not both"
  | noOptions => "`random_choice` needs at least one option"
  | unevenOptions =>
      "`random_choice` options must either all be `choice` entries or none of them"
  | missingProbability => "every `choice` of a `random_choice` needs a `probability`"
  | ifArguments => "`if` takes a list of `choice` entries"
  | ifBranch => "every branch of an `if` must be a `choice`"
  | ifWithoutWhen branch =>
      s!"only the last `choice` of an `if` may omit `when` (branch {branch} has none)"
  | strayChoice => "`choice` can only be used inside `random_choice` or `if`"
  | unknownFunction name => s!"cannot find a function named `{name}`"
  | longPath name => s!"function names should have only one `.` in them: `{name}`"
  | undefinedObject name => s!"cannot find definition for `{name}`"
  | missingField object table field => s!"`{object}` ({table}) has no field named `{field}`"

/-- The error, which has no place yet. -/
def error (fault : CallFault) : Error := .unplaced fault.kind fault.message

end CallFault

end RecordRecipe
