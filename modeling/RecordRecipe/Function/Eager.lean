import RecordRecipe.Function.Reading
import RecordRecipe.Random.Fake

/-!
# Template functions

The functions that receive values. They may look at the run through a `Host`, which is the run
itself for a call in a recipe's structure and a snapshot of it for a call inside an expression.
-/

namespace RecordRecipe

open Calendar (Date Moment)
open RecordRecipe.Random (Generator)

/-- What a function may ask of the run. -/
structure Host where
  today : Date
  /-- The row of a nickname, or else the latest row of a table. -/
  findObject : String → Option RowRef
  /-- How many rows of a table have been started. -/
  counterTotal : String → Nat
  /-- The nearest enclosing row of a table. -/
  ancestor : String → Option RowRef
  fake : FakeSource

/-- The values that a function is called with. -/
structure CallArguments where
  positional : List FieldValue
  named : Assoc FieldValue

namespace CallArguments

/-- An argument by name, or else by position. -/
def get? (index : Nat) (name : String) (arguments : CallArguments) : Option FieldValue :=
  match arguments.named.find? name with
  | some value => some value
  | none => arguments.positional[index]?

/-- An argument that has to be there. -/
def require (function : String) (index : Nat) (name : String) (arguments : CallArguments) :
    Except CallFault FieldValue :=
  match arguments.get? index name with
  | some value => .ok value
  | none => .error (.missingArgument function name)

/-- An integer argument that has to be there. -/
def integer (function : String) (index : Nat) (name : String) (arguments : CallArguments) :
    Except CallFault Int := do
  (← arguments.require function index name).asInteger function

/-- How many arguments there are. -/
def count (arguments : CallArguments) : Nat :=
  arguments.positional.length + arguments.named.length

/-- The locale, given by name as a text. -/
def locale? (arguments : CallArguments) : Option String :=
  (arguments.named.find? "locale").bind FieldValue.text?

end CallArguments

/-- The result of a call and the random numbers after it. -/
abbrev CallResult := Except CallFault FieldValue × Generator

/-- A function that receives values. -/
abbrev EagerFunction := Host → CallArguments → Generator → CallResult

namespace EagerFunction

/-- A function that draws no random numbers. -/
def pure (f : Host → CallArguments → Except CallFault FieldValue) : EagerFunction :=
  fun host arguments generator => (f host arguments, generator)

/-- Convert to an integer. -/
def int (_ : Host) (arguments : CallArguments) : Except CallFault FieldValue := do
  return .ofInt (← arguments.integer "int" 0 "value")

/-- The bounds of a random number. -/
def numberBounds (arguments : CallArguments) : Except CallFault (Int × Int) := do
  let min ← arguments.integer "random_number" 0 "min"
  let max ← arguments.integer "random_number" 1 "max"
  if max < min then throw (.emptyRange min max)
  return (min, max)

/-- A random integer between two bounds. -/
def randomNumber : EagerFunction := fun _ arguments generator =>
  match numberBounds arguments with
  | .error fault => (.error fault, generator)
  | .ok (min, max) =>
      let (n, generator) := Random.between64 min max generator
      (.ok (.ofInt n), generator)

/-- The date of three numbers, the year reduced to 32 signed bits and month and day to 32 bits. -/
def dateOfParts (year month day : Int) : Except CallFault Date :=
  match Date.of? (Int.bmod year UInt32.size) (month % UInt32.size).toNat
      (day % UInt32.size).toNat with
  | some date => .ok date
  | none => .error (.invalidDate year month day)

/-- A date, given as one or by its parts. -/
def date (host : Host) (arguments : CallArguments) : Except CallFault Date :=
  let single := if arguments.count = 1 then arguments.get? 0 "date" else none
  match single with
  | some value => value.asDate "date" host.today
  | none => do
      let year ← arguments.integer "date" 0 "year"
      let month ← arguments.integer "date" 1 "month"
      let day ← arguments.integer "date" 2 "day"
      dateOfParts year month day

/-- A part of a time of day, zero if it is not given, reduced to 32 bits. -/
def timePart (index : Nat) (name : String) (arguments : CallArguments) :
    Except CallFault Nat :=
  match arguments.get? index name with
  | none => .ok 0
  | some value => do return ((← value.asInteger "datetime") % UInt32.size).toNat

/-- A moment given as a single value. -/
def momentOf (host : Host) (value : FieldValue) : Except CallFault Moment :=
  let written := match value with
    | .moment moment => some moment
    | .text content => Calendar.readMoment? (Text.trimChars content.toList)
    | _ => none
  match written with
  | some moment => .ok moment
  | none => do return (← value.asDate "datetime" host.today).midnight

/-- A moment, given as one or by its parts. -/
def datetime (host : Host) (arguments : CallArguments) : Except CallFault FieldValue :=
  let single := if arguments.count = 1 then arguments.get? 0 "datetime" else none
  match single with
  | some value => do return .moment (← momentOf host value)
  | none => do
      let day ← date host arguments
      let hour ← timePart 3 "hour" arguments
      let minute ← timePart 4 "minute" arguments
      let second ← timePart 5 "second" arguments
      match Moment.of? day hour minute second with
      | some moment => return .moment moment
      | none => throw (.invalidTime hour minute second)

/-- The bounds of a random date. -/
def dateBounds (host : Host) (arguments : CallArguments) : Except CallFault (Date × Date) := do
  let start ← (← arguments.require "date_between" 0 "start_date").asDate "date_between" host.today
  let stop ← (← arguments.require "date_between" 1 "end_date").asDate "date_between" host.today
  return (start, stop)

/-- A random date between two others, both included; null when there is none. -/
def dateBetween : EagerFunction := fun host arguments generator =>
  match dateBounds host arguments with
  | .error fault => (.error fault, generator)
  | .ok (start, stop) =>
      let span := stop.daysSince start
      if span < 0 then (.ok .null, generator)
      else
        let (offset, generator) := Random.between64 0 span generator
        (.ok ((start.addDays? offset).elim .null .date), generator)

/-- A reference to a row, given as one or by name. -/
def reference (host : Host) (arguments : CallArguments) : Except CallFault FieldValue := do
  match ← arguments.require "reference" 0 "x" with
  | .row target => return .row target
  | .text name =>
      match host.findObject name with
      | some target => return .row target
      | none => throw (.unknownObject name)
  | other => throw (.noReference other.typeName other.display)

/-- How many rows of a table have been started. -/
def counter (host : Host) (arguments : CallArguments) : Except CallFault FieldValue := do
  match (← arguments.require "counter" 0 "name").text? with
  | some name => return .ofInt (host.counterTotal name)
  | none => throw .counterWithoutName

/-- The name of a fake generator and the locale. -/
def fakeArguments (arguments : CallArguments) : Except CallFault (String × Option String) := do
  match (← arguments.require "fake" 0 "name").text? with
  | some name => return (name, (arguments.get? 1 "locale").bind FieldValue.text?)
  | none => throw .fakeWithoutName

/-- A fake value. -/
def fake : EagerFunction := fun host arguments generator =>
  match fakeArguments arguments with
  | .error fault => (.error fault, generator)
  | .ok (name, locale) =>
      let (value, generator) := host.fake name locale generator
      match value with
      | some value => (.ok value, generator)
      | none => (.error (.unknownFake name), generator)

/-- The nearest enclosing row of a table. -/
def ancestor (host : Host) (arguments : CallArguments) : Except CallFault FieldValue := do
  match (← arguments.require "ancestor" 0 "table").text? with
  | some table =>
      match host.ancestor table with
      | some target => return .row target
      | none => throw (.noAncestor table)
  | none => throw .ancestorWithoutTable

/-- The function of a name. -/
def ofName? : String → Option EagerFunction
  | "int" => some (pure int)
  | "random_number" => some randomNumber
  | "date" => some (pure fun host arguments => do return .date (← date host arguments))
  | "datetime" => some (pure datetime)
  | "date_between" => some dateBetween
  | "reference" => some (pure reference)
  | "counter" => some (pure counter)
  | "fake" => some fake
  | "ancestor" => some (pure ancestor)
  | _ => none

end EagerFunction

/-- Draw a position with the given weights, of which one at least has to be positive. -/
def drawWeighted (weights : List Float) (generator : Generator) :
    Except CallFault Nat × Generator :=
  if Random.totalWeight weights == 0 then (.error .zeroWeights, generator)
  else
    let (index, generator) := Random.weighted weights generator
    (.ok index, generator)

end RecordRecipe
