import RecordRecipe.Expr.Eval
import RecordRecipe.Function.Eager
import RecordRecipe.Value.Coerce

/-!
# Functions inside expressions

An expression calls the functions that receive values, and besides them a random choice between
values and a switch of the locale of fake data. Values pass through the field values on their way
to a function; an error of a function becomes a fault of the expression.
-/

namespace RecordRecipe

open RecordRecipe.Expr (Arguments Drawing Fault Value)
open RecordRecipe.Random (Generator)

namespace Expr

/-- The fault that an error becomes inside an expression. -/
def Fault.ofError (error : Error) : Fault :=
  match error.kind? with
  | some .name => ⟨.undefinedValue, some error.message⟩
  | some .grammar => ⟨.malformed, some error.message⟩
  | _ => .invalid error.message

/-- The call of a template function where no run is known. -/
def Fault.noRun : Fault :=
  .invalid "template functions are only available while rows are generated"

/-- A named value as a named field value. -/
def namedField (entry : String × Value) : Except Error (String × FieldValue) := do
  return (entry.1, ← entry.2.toField)

/-- The arguments of a call as field values. -/
def Arguments.toFields (arguments : Arguments) : Except Error CallArguments := do
  let positional ← arguments.positional.mapM Value.toField
  let named ← arguments.named.mapM namedField
  return { positional, named }

end Expr

/-- Call a function that receives values. -/
def callInline (host : Host) (function : EagerFunction) (arguments : Arguments) : Drawing Value :=
  fun generator =>
    match arguments.toFields with
    | .error error => (.error (Fault.ofError error), generator)
    | .ok values =>
        match function host values generator with
        | (.ok value, generator) => (.ok (Value.ofField value), generator)
        | (.error fault, generator) => (.error (Fault.ofError fault.error), generator)

/-- Choose between names with weights; the name that is drawn becomes a number if it reads as
one. -/
def chooseName (weighted : Assoc FieldValue) (generator : Generator) :
    Except CallFault FieldValue × Generator :=
  match weighted.values.mapM FieldValue.asWeight with
  | .error fault => (.error fault, generator)
  | .ok weights =>
      match drawWeighted weights generator with
      | (.ok index, generator) => (.ok (.ofText (weighted.keys.getD index "")), generator)
      | (.error fault, generator) => (.error fault, generator)

/-- Choose between values, or between names with weights. -/
def chooseInline (arguments : Arguments) : Drawing Value := fun generator =>
  match arguments.toFields with
  | .error error => (.error (Fault.ofError error), generator)
  | .ok values =>
      if !values.named.isEmpty then
        match chooseName values.named generator with
        | (.ok value, generator) => (.ok (Value.ofField value), generator)
        | (.error fault, generator) => (.error (Fault.ofError fault.error), generator)
      else if arguments.positional.isEmpty then
        (.error ⟨.missingArgument, some CallFault.noOptions.message⟩, generator)
      else
        let (index, generator) := Random.index arguments.positional.length generator
        (.ok (arguments.positional.getD index .null), generator)

/-- The locale that fake data is asked for. -/
def localeArgument (arguments : Arguments) : Except Fault String := do
  let locale ← arguments.requireCharacters 0
  arguments.limit 1
  return String.ofList locale

/-- The supply of fake data for a locale. -/
def localizedFake (running : Bool) (arguments : Arguments) : Drawing Value := fun generator =>
  match localeArgument arguments with
  | .error fault => (.error fault, generator)
  | .ok locale =>
      if running then (.ok (.fake (some locale)), generator) else (.error .noRun, generator)

/-- Do something if a run is known. -/
def whenRunning (running : Bool) (call : Drawing Value) : Drawing Value :=
  if running then call else fun generator => (.error .noRun, generator)

/-- The function of a name as expressions call it, with or without a run. -/
def Host.inline? (host : Host) (name : String) : Option (Bool → Arguments → Drawing Value) :=
  if name = "random_choice" then
    some fun running arguments => whenRunning running (chooseInline arguments)
  else if name = "fake_i18n" then some localizedFake
  else (EagerFunction.ofName? name).map fun function running arguments =>
    whenRunning running (callInline host function arguments)

end RecordRecipe
