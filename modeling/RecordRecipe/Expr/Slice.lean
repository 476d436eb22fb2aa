import RecordRecipe.Expr.Arguments
import RecordRecipe.Expr.Order

/-!
# Slices

The part of a text or a list between two bounds, every item of it or some at equal distances, from
the front or from the back. A negative bound counts from the end, and one beyond either end stands
for that end.
-/

namespace RecordRecipe.Expr

/-- The position that a bound stands for among a number of items; negative ones count from the
end. -/
def boundPosition (length : Nat) (bound : Int) : Nat :=
  if bound < 0 then (length + bound).toNat else bound.toNat

/-- How many positions there are from one bound up to another, which is left out, at equal
distances, and each of them by its number. -/
def forwardPositions (length : Nat) (start stop : Option Int) (step : Nat) : Nat × (Nat → Nat) :=
  let first := (start.map (boundPosition length)).getD 0
  let last := min length ((stop.map (boundPosition length)).getD length)
  ((last - first + step - 1) / step, fun i => first + i * step)

/-- How many positions there are from one bound down to another at equal distances, and each of them
by its number. The lower bound is left out unless it is the first item. -/
def backwardPositions (length : Nat) (start stop : Option Int) (step : Nat) : Nat × (Nat → Nat) :=
  let first := min (length - 1) ((start.map (boundPosition length)).getD (length - 1))
  let last := (stop.map (boundPosition length)).getD 0
  let count :=
    if length = 0 then 0
    else if last = 0 then (first + step) / step
    else (first - last + step - 1) / step
  (count, fun i => first - i * step)

/-- The positions of a slice of a number of items. -/
def slicePositions (length : Nat) (start stop : Option Int) (step : Int) : Nat × (Nat → Nat) :=
  if 0 < step then forwardPositions length start stop step.toNat
  else backwardPositions length start stop step.natAbs

/-- A bound of a slice, which may be left open. -/
def sliceBound? (bound : Value) : Except Fault (Option Int) :=
  match bound with
  | .null => .ok none
  | other => (other.toInteger .bits64).map some

/-- The part of a text or a list between bounds. -/
def sliceValue (value start stop step : Value) : Except Fault Value := do
  if value.isUndefined then throw .undefinedValue
  let start ← sliceBound? start
  let stop ← sliceBound? stop
  let step := (← sliceBound? step).getD 1
  if step = 0 then throw (.invalid "cannot slice by step size of 0")
  match value, value.indexed? with
  | .null, _ => return .list []
  | .text content, _ =>
      let characters := content.toList.toArray
      let (count, position) := slicePositions characters.size start stop step
      let chosen := (List.range count).map fun i => characters.getD (position i) ' '
      return .text (String.ofList chosen)
  | _, some (length, item) =>
      let (count, position) := slicePositions length start stop step
      return .iterable count fun i => item (position i)
  | other, none =>
      throw (.invalid ("value of type " ++ other.kind.words ++ " cannot be sliced"))

end RecordRecipe.Expr
