import RecordRecipe.Expr.Arguments
import RecordRecipe.Expr.Attribute
import RecordRecipe.Expr.Block
import RecordRecipe.Expr.Operator
import RecordRecipe.Random.Fake

/-!
# Scopes and stores

A `Scope` is what an expression sees from outside: variables, the fields of rows, fake data and
template functions. A template function needs the run, which the scope supplies under a name of
its own; where that name means something else, no template function can be called.

A `Store` is what an evaluation changes: variables in frames, written text and random numbers. A
name is looked up in the frames, innermost first, then in what encloses a running macro, then in the
scope, and last among the functions. Spaces of variables and what loops were asked about are kept by
number, since a value that stands for one may be passed on and outlive the frame it comes from.
-/

namespace RecordRecipe.Expr

open RecordRecipe.Random (Generator)

/-- A function that draws random numbers and may fail. -/
abbrev Drawing (α : Type) := Generator → Except Fault α × Generator

/-- What an expression sees from outside. -/
structure Scope where
  valueOf? : String → Option Value
  fieldOf : FieldLookup
  fake : FakeSource
  /-- A template function of a given name, to be called with or without a run. -/
  function? : String → Option (Bool → Arguments → Drawing Value)

/-- The name under which the scope supplies the run. -/
def runName : String := "__run"

/-- A loop that is running. -/
structure RunningLoop where
  state : Value
  /-- What the body does with an item, if the loop may call itself. -/
  recursion : Option (Target × List Statement)
  /-- The number of recursive loops around this one. -/
  depth : Nat

/-- The name of the state of a loop inside its body. -/
def loopName : String := "loop"

/-- Variables that were set inside a template, in a loop or a macro or at the top. -/
structure Frame where
  locals : Assoc Value := []
  /-- The loop that the frame belongs to. -/
  loop : Option RunningLoop := none
  /-- The number of the closure that macros of this frame share. -/
  closure : Option Nat := none

/-- The state of an evaluation. -/
structure Store where
  generator : Generator
  frames : List Frame := [{}]
  /-- The closure that the running macro sees in front of the scope. -/
  within : Option Nat := none
  closures : List (Assoc Value) := []
  /-- The spaces of variables, which values name by number. -/
  spaces : List (Assoc Value) := []
  /-- How many loops have been run. -/
  loops : Nat := 0
  /-- What loops were last asked about for a change, by their number. -/
  observed : List (Nat × List Value) := []
  /-- The blocks of the running template. -/
  blocks : Assoc (List Statement) := []
  /-- Is a block running? -/
  inBlock : Bool := false
  /-- How deeply the calls around the current frames are nested. -/
  depth : Nat := 0
  /-- The text written so far. -/
  out : String := ""

/-- An evaluation. The store outlives a fault. -/
abbrev Evaluation := EStateM Fault Store

namespace Evaluation

/-- Pass on a result that needs no store. -/
def lift {α : Type} : Except Fault α → Evaluation α
  | .ok a => pure a
  | .error fault => throw fault

/-- Draw random numbers. -/
def draw {α : Type} (drawing : Drawing α) : Evaluation α := do
  let store ← get
  let (result, generator) := drawing store.generator
  set { store with generator := generator }
  lift result

/-- A fake value by the name of its generator. -/
def fakeValue? (scope : Scope) (locale : Option String) (name : String) :
    Evaluation (Option Value) :=
  draw fun generator =>
    let (value, generator) := scope.fake name locale generator
    (.ok (value.map Value.ofField), generator)

/-- The value of a variable in the frames of the store, innermost first. -/
def inFrames? (name : String) : List Frame → Option Value
  | [] => none
  | frame :: rest =>
      match frame.locals.find? name, frame.loop with
      | some value, _ => some value
      | none, some loop => if name = loopName then some loop.state else inFrames? name rest
      | none, none => inFrames? name rest

/-- The value of a variable: in the frames, around them, or a function of that name. -/
def lookup? (scope : Scope) (name : String) : Evaluation (Option Value) := do
  let store ← get
  let enclosed : Option Value := store.within.bind fun number =>
    (store.closures.getD number []).find? name
  let around := enclosed <|> scope.valueOf? name
  let isFunction := languageFunctions.contains name || (scope.function? name).isSome
  return inFrames? name store.frames <|> around <|>
    (if isFunction then some (.function name) else none)

/-- The value with the variables of a space as a map. -/
def resolve (value : Value) : Evaluation Value := do
  match value with
  | .space number =>
      let entries := (← get).spaces.getD number []
      return Value.mapOf (entries.map fun entry => (.text entry.1, entry.2))
  | other => return other

/-- The arguments with the variables of spaces as maps. -/
def resolveAll (arguments : Arguments) : Evaluation Arguments := do
  let positional ← arguments.positional.mapM resolve
  let named ← arguments.named.mapM fun entry => do return (entry.1, ← resolve entry.2)
  return { arguments with positional, named }

/-- Does a value hold as a condition? Undefined values do not answer. -/
def holds (value : Value) : Evaluation Bool := do
  match ← resolve value with
  | .undefined false => throw .undefinedValue
  | other => return other.isTrue

/-- An attribute of a value. Those of fake data are made up. -/
def attribute? (scope : Scope) (value : Value) (name : String) : Evaluation (Option Value) := do
  match ← resolve value with
  | .fake locale => fakeValue? scope locale name
  | other => return other.attribute? scope.fieldOf name

/-- The value under a subscript. -/
def subscript? (scope : Scope) (value index : Value) : Evaluation (Option Value) := do
  match ← resolve value, index with
  | .fake locale, .text name => fakeValue? scope locale name
  | found, _ => return found.subscript? scope.fieldOf index

/-- What is found in a value, or nothing; an undefined value cannot be looked into. -/
def orMissing (base : Value) (found : Option Value) : Evaluation Value :=
  match found with
  | some value => return value
  | none => if base.isUndefined then throw .undefinedValue else return .missing

/-- Is a value contained in another? Opaque ones contain the names of their fields. -/
def contains (scope : Scope) (container item : Value) : Evaluation Bool :=
  match container, item with
  | .row _, .text name | .date _, .text name | .moment _, .text name | .fake _, .text name
  | .loop _ _ _ _ _ _, .text name | .routine _ _ _ _, .text name => do
      return (← attribute? scope container name).isSome
  | _, _ => lift (container.contains item)

/-- Does a comparison hold? Values that are not there cannot be compared. -/
def compare (scope : Scope) (comparison : Comparison) (a b : Value) : Evaluation Bool := do
  lift (Value.bothPresent a b)
  let a ← resolve a
  let b ← resolve b
  match comparison with
  | .within => contains scope b a
  | .notWithin => do return !(← contains scope b a)
  | other => return Value.related other a b

/-- The innermost loop that is running. -/
def runningLoop? : Evaluation (Option RunningLoop) := do
  return (← get).frames.findSome? Frame.loop

/-- Run something and take the text that it writes. -/
def capture (body : Evaluation Unit) : Evaluation String := do
  let before := (← get).out
  modify ({ · with out := "" })
  body
  let written := (← get).out
  modify ({ · with out := before })
  return written

end Evaluation

end RecordRecipe.Expr
