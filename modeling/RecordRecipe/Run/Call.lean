import RecordRecipe.Action
import RecordRecipe.Run.Scope

/-!
# Calls in the structure of a recipe

A call sees its arguments as operands that have not been rendered. Most functions render all of
them and go by the values. The functions that choose render what decides the choice and then
nothing but the chosen operand, so that what is not chosen leaves no trace.
-/

namespace RecordRecipe

open RecordRecipe.Random (Generator)

/-- The state of a run: its registry and the sink's state. -/
structure Machine (σ : Type) where
  registry : Registry
  out : σ

/-- A part of a run. -/
abbrev Running (σ α : Type) := Action (Machine σ) α

namespace Running

variable {σ α : Type}

/-- The registry. -/
def registry : Running σ Registry := fun machine => (.ok machine.registry, machine)

/-- Change the registry and give something. -/
def onRegistry (change : Registry → α × Registry) : Running σ α := fun machine =>
  let (result, registry) := change machine.registry
  (.ok result, { machine with registry })

/-- Draw random numbers for something that may go wrong. -/
def draw (drawing : Generator → Except Error α × Generator) : Running σ α := fun machine =>
  let (result, generator) := drawing machine.registry.generator
  (result, { machine with registry := { machine.registry with generator } })

/-- Fail with the fault of a call. -/
def fault (fault : CallFault) : Running σ α := Action.fail fault.error

/-- Draw random numbers for a call. -/
def drawCall (drawing : Generator → Except CallFault α × Generator) : Running σ α :=
  draw fun generator =>
    let (result, generator) := drawing generator
    (result.mapError CallFault.error, generator)

/-- Do some things in order and collect what they give. -/
def inOrder : List (Running σ α) → Running σ (List α)
  | [] => return []
  | first :: rest => do
      let a ← first
      let others ← inOrder rest
      return a :: others

/-- Do some named things in order and collect what they give. -/
def namedInOrder : Assoc (Running σ α) → Running σ (Assoc α)
  | [] => return []
  | (name, first) :: rest => do
      let a ← first
      let others ← namedInOrder rest
      return (name, a) :: others

end Running

/-- An entry of a choice, with its arguments not yet rendered. -/
structure ChoiceEntry (σ : Type) where
  positional : List (Running σ FieldValue)
  named : Assoc (Running σ FieldValue)
  file : String
  line : Nat

/-- An argument of a call. -/
structure Operand (σ : Type) where
  /-- Renders the argument. -/
  render : Running σ FieldValue
  /-- The entry, if the argument is one of a choice. -/
  entry : Option (ChoiceEntry σ) := none

/-- What an entry of a choice says. -/
structure Choice (σ : Type) where
  probability : Option (Running σ FieldValue)
  condition : Option (Running σ FieldValue)
  pick : Running σ FieldValue

namespace ChoiceEntry

variable {σ : Type}

/-- The arguments that an entry may have. -/
def argumentNames : List String := ["probability", "when", "pick"]

/-- What is wrong with an entry, at its line. -/
def fault (entry : ChoiceEntry σ) (fault : CallFault) : Error :=
  fault.error.atLine entry.file entry.line

/-- Read an entry. -/
def choice (entry : ChoiceEntry σ) : Except Error (Choice σ) :=
  match entry.named.keys.find? fun name => !argumentNames.contains name with
  | some name => .error (entry.fault (.choiceArgument name))
  | none =>
      match entry.named.find? "pick" <|> entry.positional.head? with
      | some pick =>
          .ok {
            probability := entry.named.find? "probability"
            condition := entry.named.find? "when"
            pick }
      | none => .error (entry.fault .choiceWithoutPick)

end ChoiceEntry

namespace Operand

variable {σ : Type}

/-- The choice that an operand is, if it is one. -/
def choice? (operand : Operand σ) : Except Error (Option (Choice σ)) :=
  match operand.entry with
  | some entry => entry.choice.map some
  | none => .ok none

end Operand

namespace Call

variable {σ : Type}

/-- Render the weights of some choices and keep what they pick. -/
def weigh : List (Option (Choice σ)) → Running σ (List (Float × Running σ FieldValue))
  | [] => return []
  | none :: _ => Running.fault .unevenOptions
  | some choice :: rest => do
      match choice.probability with
      | none => Running.fault .missingProbability
      | some probability => do
          let value ← probability
          let weight ← Action.lift (value.asWeight.mapError CallFault.error)
          let others ← weigh rest
          return (weight, choice.pick) :: others

/-- Render one of some things. -/
def renderAt (things : List (Running σ FieldValue)) (index : Nat) : Running σ FieldValue :=
  things.getD index (return .null)

/-- Choose between operands, all equally likely or all with weights. -/
def chooseListed (operands : List (Operand σ)) : Running σ FieldValue := do
  if operands.isEmpty then Running.fault .noOptions
  let choices ← Action.lift (operands.mapM Operand.choice?)
  if choices.all Option.isNone then
    let index ← Running.draw fun generator =>
      let (index, generator) := Random.index operands.length generator
      (.ok index, generator)
    renderAt (operands.map Operand.render) index
  else
    let weighed ← weigh choices
    let index ← Running.drawCall (drawWeighted (weighed.map Prod.fst))
    renderAt (weighed.map Prod.snd) index

/-- Render the weights of some names. -/
def nameWeights : Assoc (Operand σ) → Running σ (List Float)
  | [] => return []
  | (_, operand) :: rest => do
      let value ← operand.render
      let weight ← Action.lift (value.asWeight.mapError CallFault.error)
      let others ← nameWeights rest
      return weight :: others

/-- Choose between names with weights. -/
def chooseNamed (named : Assoc (Operand σ)) : Running σ FieldValue := do
  let weights ← nameWeights named
  let index ← Running.drawCall (drawWeighted weights)
  return .ofText (named.keys.getD index "")

/-- A random choice. -/
def randomChoice (positional : List (Operand σ)) (named : Assoc (Operand σ)) :
    Running σ FieldValue :=
  if named.isEmpty then chooseListed positional
  else if positional.isEmpty then chooseNamed named
  else Running.fault .mixedOptions

/-- The branches of a condition. -/
def branches : List (Operand σ) → Except Error (List (Choice σ))
  | [] => .ok []
  | operand :: rest => do
      match ← operand.choice? with
      | none => throw CallFault.ifBranch.error
      | some choice => return choice :: (← branches rest)

/-- Render the pick of the first branch whose condition holds. -/
def firstBranch : List (Choice σ) → Running σ FieldValue
  | [] => return .null
  | choice :: rest =>
      match choice.condition with
      | none => choice.pick
      | some condition => do
          let value ← condition
          if value.isTruthy then choice.pick else firstBranch rest

/-- A condition: only its last branch may do without one. -/
def conditional (positional : List (Operand σ)) (named : Assoc (Operand σ)) :
    Running σ FieldValue := do
  if !named.isEmpty then Running.fault .ifArguments
  let branches ← Action.lift (branches positional)
  match branches.dropLast.findIdx? fun branch => branch.condition.isNone with
  | some index => Running.fault (.ifWithoutWhen (index + 1))
  | none => firstBranch branches

/-- Render all arguments. -/
def values (positional : List (Operand σ)) (named : Assoc (Operand σ)) :
    Running σ CallArguments := do
  let positional ← Running.inOrder (positional.map Operand.render)
  let named ← Running.namedInOrder (named.map fun entry => (entry.1, entry.2.render))
  return { positional, named }

/-- A field of a row, or a fake value. -/
def dotted (setting : Setting) (activation : Activation) (object method : String)
    (positional : List (Operand σ)) (named : Assoc (Operand σ)) : Running σ FieldValue := do
  if object = "fake" then
    let arguments ← values positional named
    Running.drawCall fun generator =>
      let (value, generator) := setting.fake method arguments.locale? generator
      (value.elim (.error (.unknownFake method)) .ok, generator)
  else
    let registry ← Running.registry
    match activation.rowNamed? registry object with
    | none => Running.fault (.undefinedObject object)
    | some row =>
        match registry.field? row method with
        | some value => return value
        | none => Running.fault (.missingField object row.table method)

/-- Call a function that receives values. -/
def eager (setting : Setting) (activation : Activation) (function : EagerFunction)
    (positional : List (Operand σ)) (named : Assoc (Operand σ)) : Running σ FieldValue := do
  let arguments ← values positional named
  let registry ← Running.registry
  Running.drawCall (function (activation.host setting registry) arguments)

/-- Call a function by its name. -/
def plain (setting : Setting) (activation : Activation) (function : String)
    (positional : List (Operand σ)) (named : Assoc (Operand σ)) : Running σ FieldValue :=
  match function with
  | "random_choice" => randomChoice positional named
  | "if" => conditional positional named
  | "choice" => Running.fault .strayChoice
  | name =>
      match EagerFunction.ofName? name with
      | some function => eager setting activation function positional named
      | none => Running.fault (.unknownFunction name)

/-- Call a function, or a method behind a dot. -/
def run (setting : Setting) (activation : Activation) (function : String)
    (positional : List (Operand σ)) (named : Assoc (Operand σ)) : Running σ FieldValue :=
  match Text.splitOnce '.' function.toList with
  | none => plain setting activation function positional named
  | some (object, method) =>
      if method.contains '.' then Running.fault (.longPath function)
      else dotted setting activation (String.ofList object) (String.ofList method) positional named

end Call

end RecordRecipe
