import RecordRecipe.Expr.Filter
import RecordRecipe.Expr.Store

/-!
# Calls

What can be called: the functions of the scope and of the language, macros, blocks, a loop that
calls itself, and the methods of loops and of fake data. Macros, blocks, included texts and loops
that call themselves run code that lies elsewhere; a `Handler` runs it.
-/

namespace RecordRecipe.Expr

/-- Runs the code of macros, of blocks, of included texts and of loops that call themselves. -/
structure Handler where
  /-- Run a macro with a closure; its parameters and, if it finds it, its caller have values. -/
  runMacro : List Parameter → List Statement → Nat → List Value → Option Value → Evaluation Value
  runBlock : List Statement → Evaluation Unit
  runSource : String → Evaluation Unit
  runLoop : Target → List Statement → Value → Evaluation Unit

/-- What is called: something by its name, by the name of a method, or as a value. -/
inductive Callee where
  | named (name : String)
  | method (base : Value) (name : String)
  | value (callee : Value)

/-- The number of integers from one bound up or down to another, which is left out. -/
def rangeLength (start stop step : Int) : Nat :=
  if 0 < step then ((stop - start + step - 1) / step).toNat
  else ((start - stop - step - 1) / (-step)).toNat

/-- The range from zero or a lower bound, in steps of one or of a given size. -/
def rangeValue (arguments : Arguments) : Except Fault Value := do
  let first ← (← arguments.require 0).toInteger .offset
  let upper ← arguments.int? .offset 1
  let step := (← arguments.int? .offset 2).getD 1
  arguments.limit 3
  let (start, stop) := match upper with
    | some upper => (first, upper)
    | none => (0, first)
  if step = 0 then throw (.invalid "cannot create range with step of 0")
  let count := rangeLength start stop step
  if 100000 < count then throw (.invalid "range has too many elements")
  return .iterable count fun i => .ofInt (start + i * step)

/-- The map of another map and of the arguments by name. -/
def dictValue (arguments : Arguments) : Except Fault Value := do
  if 1 < arguments.positional.length then throw ⟨.tooManyArguments, none⟩
  let base ← match arguments.positional.head? with
    | none | some (.undefined _) | some .null => pure []
    | some value =>
        if value.kind = .map then pure value.mapEntries else throw ⟨.invalidOperation, none⟩
  return .mapOf (base ++ arguments.named.map fun entry => (.text entry.1, entry.2))

/-- The variables that a new space starts with: the entries of a map, or the arguments by name. -/
def spaceVariables (arguments : Arguments) : Except Fault (Assoc Value) := do
  arguments.limit 1
  match arguments.at? 0 with
  | none => return []
  | some value =>
      if value.kind = .map then
        return value.mapEntries.filterMap fun entry => entry.1.text?.map fun name => (name, entry.2)
      else
        throw (.invalid ("expected object or keyword arguments, got " ++ value.kind.words))

namespace Evaluation

/-- Put a space of variables into the store. -/
def makeSpace (entries : Assoc Value) : Evaluation Value := do
  let number := (← get).spaces.length
  modify fun store => { store with spaces := store.spaces ++ [entries] }
  return .space number

/-- Call a function of the language. -/
def callLanguage (name : String) (arguments : Arguments) : Evaluation Value := do
  match name with
  | "dict" => lift (dictValue arguments)
  | "namespace" => makeSpace (← lift (spaceVariables arguments))
  | _ => lift (rangeValue arguments)

/-- The values of parameters, from the arguments by position and then those by name. -/
def fillParameters (named : Assoc Value) : List Parameter → List Value →
    Except Fault (List Value)
  | [], _ => .ok []
  | parameter :: rest, given =>
      match given, named.find? parameter.name with
      | _ :: _, some _ =>
          .error
            ⟨.tooManyArguments, some ("duplicate argument \x60" ++ parameter.name ++ "\x60")⟩
      | value :: more, none => do return value :: (← fillParameters named rest more)
      | [], found => do return found.getD .missing :: (← fillParameters named rest [])

/-- The arguments of a macro, in the order of its parameters; the flag tells whether it finds what
calls it with a body. -/
def macroArguments (parameters : List Parameter) (withCaller : Bool) (arguments : Arguments) :
    Except Fault (List Value) := do
  if parameters.length < arguments.positional.length then throw ⟨.tooManyArguments, none⟩
  let values ← fillParameters arguments.named parameters arguments.positional
  let isKnown (name : String) : Bool :=
    parameters.any (·.name == name) || (withCaller && name == callerName)
  match arguments.named.keys.find? (!isKnown ·) with
  | some name =>
      throw ⟨.tooManyArguments, some ("unknown keyword argument \x60" ++ name ++ "\x60")⟩
  | none => return values

/-- Call a value. -/
def call (scope : Scope) (handler : Handler) (callee : Value) (arguments : Arguments) :
    Evaluation Value :=
  match callee with
  | .function name => do
      let arguments ← resolveAll arguments
      match scope.function? name with
      | some function => do
          let run ← lookup? scope runName
          draw (function (run matches some .run) arguments)
      | none => callLanguage name arguments
  | .routine _ parameters body closure => do
      let withCaller := findsCaller parameters body
      let values ← lift (macroArguments parameters withCaller arguments)
      let caller := (arguments.named.find? callerName).getD .missing
      handler.runMacro parameters body closure values (if withCaller then some caller else none)
  | .loop _ _ _ _ _ _ =>
      throw ⟨.unknownFunction,
        some "loop cannot be called if reassigned to different variable"⟩
  | .list _ | .iterable _ _ | .map _ | .row _ | .date _ | .moment _ | .fake _ | .run | .space _ =>
      throw (.invalid "object is not callable")
  | other => throw (.invalid ("value of type " ++ other.kind.words ++ " is not callable"))

/-- The name that calls the block which a block replaces. No block replaces another. -/
def outerBlockName : String := "super"

/-- The fault of such a call. -/
def outerBlockFault (inBlock : Bool) (arguments : Arguments) : Fault :=
  .invalid <|
    if !arguments.values.isEmpty then "super() takes no arguments"
    else if inBlock then "no parent block exists"
    else "cannot super outside of block"

/-- The name of the template itself, whose methods are its blocks. -/
def templateName : String := "self"

/-- Write a block of the running template; the text that this writes is the value. -/
def callBlock (handler : Handler) (name : String) : Evaluation Value := do
  match (← get).blocks.find? name with
  | some body => return .text (← capture (handler.runBlock body))
  | none => throw ⟨.unknownBlock, some ("block '" ++ name ++ "' not found")⟩

/-- Has something changed since a loop was last asked about it? -/
def hasChanged (loop : Nat) (values : List Value) : Evaluation Bool := do
  let before := (← get).observed.find? (·.1 == loop)
  let same := before.any fun observed => (Value.list observed.2).equal (.list values)
  if !same then
    modify fun store =>
      { store with observed := (loop, values) :: store.observed.filter (·.1 != loop) }
  return !same

/-- Call a method of a loop: the one of some values whose turn it is, or whether there was a
change. -/
def callLoopMethod (loop index : Nat) (name : String) (values : List Value) : Evaluation Value :=
  match name with
  | "changed" => do return .bool (← hasChanged loop values)
  | "cycle" => return values.getD (index % values.length) .missing
  | _ => throw ⟨.unknownMethod, some ("loop object has no method named " ++ name)⟩

/-- Run the innermost loop once more over other items; the text that this writes is the value. -/
def callLoop (handler : Handler) (arguments : Arguments) : Evaluation Value := do
  match arguments.values with
  | [items] =>
      match ← runningLoop? with
      | none => throw (.invalid "cannot recurse outside of loop")
      | some loop =>
          match loop.recursion with
          | none => throw (.invalid "cannot recurse outside of recursive loop")
          | some (target, body) => return .text (← capture (handler.runLoop target body items))
  | _ => throw (.invalid "loop() takes one argument")

/-- Call a method of a value: a fake generator, or something callable among its fields. -/
def callMethod (scope : Scope) (handler : Handler) (base : Value) (name : String)
    (arguments : Arguments) : Evaluation Value := do
  match base with
  | .fake locale =>
      match ← fakeValue? scope locale name with
      | some value => return value
      | none =>
          throw
            ⟨.unknownMethod, some ("no fake data generator named \x60" ++ name ++ "\x60")⟩
  | .loop identity index _ _ _ _ => callLoopMethod identity index name arguments.values
  | _ =>
      match ← attribute? scope base name with
      | some value => call scope handler value arguments
      | none =>
          throw ⟨.unknownMethod, some (base.kind.words ++ " has no method named " ++ name)⟩

/-- Call something. -/
def callTo (scope : Scope) (handler : Handler) (callee : Callee) (arguments : Arguments) :
    Evaluation Value := do
  match callee with
  | .method base name => callMethod scope handler base name arguments
  | .value value => call scope handler value arguments
  | .named name =>
      if name = loopName then callLoop handler arguments
      else if name = outerBlockName then throw (outerBlockFault (← get).inBlock arguments)
      else
        match ← lookup? scope name with
        | some value => call scope handler value arguments
        | none => throw ⟨.unknownFunction, some (name ++ " is unknown")⟩

/-- The entries of a map as arguments by name; keys that are no texts are left out. -/
def namedEntries (value : Value) : Except Fault (Assoc Value) :=
  match value with
  | .undefined false => .error .undefinedValue
  | other =>
      if other.kind = .map then
        .ok (other.mapEntries.filterMap fun entry =>
          entry.1.text?.map fun name => (name, entry.2))
      else .error (.invalid ("attempted to apply keyword arguments from non map (got " ++
        other.kind.words ++ ")"))

/-- Add evaluated arguments by name to others. -/
def addNamed : List (Passing × Value) → Assoc Value → Except Fault (Assoc Value)
  | [], named => .ok named
  | (.name name, value) :: rest, named => addNamed rest (named.put name value)
  | (_, value) :: rest, named => do addNamed rest (named.putAll (← namedEntries value))

/-- The items of evaluated arguments by position. -/
def placedItems : List (Passing × Value) → Except Fault (List Value)
  | [] => .ok []
  | (.spread, value) :: rest => do return (← value.items) ++ (← placedItems rest)
  | (_, value) :: rest => do return value :: (← placedItems rest)

/-- Is an argument passed by name? -/
def isNamed : Passing → Bool
  | .name _ | .spreadNamed => true
  | .position | .spread => false

/-- Evaluate arguments one after the other. -/
def evaluateAll : List (Passing × Evaluation Value) → Evaluation (List (Passing × Value))
  | [] => return []
  | (passing, action) :: rest => do
      let value ← action
      return (passing, value) :: (← evaluateAll rest)

/-- An argument, a space that passes many at once as a map. -/
def resolveSpread (argument : Passing × Value) : Evaluation (Passing × Value) := do
  match argument.1 with
  | .spread | .spreadNamed => return (argument.1, ← resolve argument.2)
  | _ => return argument

/-- Evaluate the arguments of a call: first those by position, then those by name, which are sorted
by their names. What is passed many at once is taken apart at the end. -/
def evaluateArguments (actions : List (Passing × Evaluation Value)) : Evaluation Arguments := do
  let (byName, byPosition) := actions.partition fun action => isNamed action.1
  let placed ← (← evaluateAll byPosition).mapM resolveSpread
  let given ← (← evaluateAll byName).mapM resolveSpread
  let named ← lift (addNamed given [])
  let positional ← lift (placedItems placed)
  return {
    positional, keyed := !byName.isEmpty
    named := named.mergeSort fun a b => decide (a.1 ≤ b.1) }

end Evaluation

end RecordRecipe.Expr
