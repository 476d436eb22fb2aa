import RecordRecipe.Expr.Arguments
import RecordRecipe.Expr.Operator
import RecordRecipe.Text.Case
import RecordRecipe.Text.Cased

/-!
# Tests

A test asks a question about a value, some of them with an argument. Their names form a fixed
vocabulary, and any other name is a fault at the moment of use.
-/

namespace RecordRecipe.Expr

namespace Value

/-- Is the value an integer with some remainder modulo two? -/
def hasParity (odd : Bool) (value : Value) : Bool :=
  match value.number?.bind Number.int128? with
  | some n => (n % 2 != 0) == odd
  | none => false

/-- Is a number a multiple of another? -/
def isDivisibleBy (value other : Value) : Bool :=
  match (do Number.operands? (← value.number?) (← other.number?) : Option Operands) with
  | some (.ints m n) => n != 0 && m % n == 0
  | some (.floats x y) => (Number.floatResult floatRemainder x y).isZero
  | none => false

/-- Can a loop go through the value? -/
def isIterable (value : Value) : Bool :=
  [Kind.undefined, .null, .text, .list, .map, .iterable].contains value.kind

/-- Does a value that is a text hold letters of one case alone? -/
def isInCase (change : Char → List Char) (value : Value) : Bool :=
  value.display.toList.all fun c => Text.isCased c && change c = [c]

/-- The tests without arguments. -/
def plainTest? : String → Option (Value → Bool)
  | "defined" => some fun value => !value.isUndefined
  | "undefined" => some isUndefined
  | "none" => some fun value => value.kind = .null
  | "number" => some fun value => value.kind = .number
  | "string" => some fun value => value.kind = .text
  | "sequence" => some fun value => value.kind = .list
  | "mapping" => some fun value => value.kind = .map
  | "boolean" => some fun value => value.kind = .bool
  | "iterable" => some isIterable
  | "lower" => some (isInCase Text.lowerChars)
  | "upper" => some (isInCase Text.upperChars)
  | "safe" | "escaped" => some fun _ => false
  | "odd" => some (hasParity true)
  | "even" => some (hasParity false)
  | "true" => some fun value => (value matches bool true)
  | "false" => some fun value => (value matches bool false)
  | "integer" => some fun value => (value matches number (.int _ _))
  | "float" => some fun value => (value matches number (.float _) | number (.notANumber _))
  | _ => none

/-- Apply a test. -/
def applyTest (name : String) (value : Value) (arguments : Arguments) : Except Fault Bool := do
  match plainTest? name with
  | some holds =>
      arguments.limit 0
      return holds value
  | none =>
  match name with
  | "eq" | "equalto" => return equal value (← arguments.require 0)
  | "ne" => return !(equal value (← arguments.require 0))
  | "lt" | "lessthan" => return (order value (← arguments.require 0)).isLT
  | "le" => return (order value (← arguments.require 0)).isLE
  | "gt" | "greaterthan" => return (order value (← arguments.require 0)).isGT
  | "ge" => return (order value (← arguments.require 0)).isGE
  | "in" => return ((← arguments.require 0).contains value).toOption.getD false
  | "sameas" =>
      let other ← arguments.require 0
      return value.kind = other.kind && equal value other
  | "divisibleby" => return value.isDivisibleBy (← arguments.require 0)
  | "startingwith" => return (← arguments.requireCharacters 0).isPrefixOf (← value.characters)
  | "endingwith" => return (← arguments.requireCharacters 0).isSuffixOf (← value.characters)
  | unknown => throw ⟨.unknownTest, some ("test " ++ unknown ++ " is unknown")⟩

end Value

end RecordRecipe.Expr
