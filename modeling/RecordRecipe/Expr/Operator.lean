import RecordRecipe.Expr.Order

/-!
# Operators

Arithmetic, joining and comparison of values. An integer calculation that has no result within 128
signed bits is a fault. A value that is not there cannot be joined or compared, unless it may pass
in silence.
-/

namespace RecordRecipe.Expr

/-- The most bytes that a repeated text may have. -/
def repeatedTextLimit : Nat := 100000000

/-- A text repeated a number of times, by doubling. -/
def repeatText (content : String) (times : Nat) : String :=
  if _h : times = 0 then ""
  else
    let half := repeatText content (times / 2)
    if times % 2 = 0 then half ++ half else half ++ half ++ content
termination_by times
decreasing_by omega

namespace Value

/-- A calculation that has no result. -/
def failed (sign : String) (a b : Value) : Fault :=
  .invalid ("unable to calculate " ++ a.display ++ " " ++ sign ++ " " ++ b.display)

/-- An operator that does not work on such operands. -/
def unsupported (sign : String) (a b : Value) : Fault :=
  .invalid ("tried to use " ++ sign ++ " operator on unsupported types " ++ a.kind.words ++
    " and " ++ b.kind.words)

/-- The result of an integer calculation, if there is one that fits. -/
def checked (sign : String) (a b : Value) (result : Option Int) : Except Fault Value :=
  match result with
  | some n => if fitsInt128 n then .ok (ofInt n) else .error (failed sign a b)
  | none => .error (failed sign a b)

/-- Calculate with numbers. -/
def arithmetic (sign : String) (ints : Int → Int → Option Int)
    (floats : Number → Number → Number) (a b : Value) : Except Fault Value :=
  let operands := do Number.operands? (← a.number?) (← b.number?)
  match operands with
  | some (.ints m n) => checked sign a b (ints m n)
  | some (.floats x y) => .ok (number (floats x y))
  | none => .error (unsupported sign a b)

/-- The sum of numbers, or texts or lists one after the other. -/
def add (a b : Value) : Except Fault Value :=
  match a, b with
  | text s, text t => .ok (text (s ++ t))
  | _, _ =>
      match a.indexed?, b.indexed? with
      | some (m, first), some (n, second) =>
          .ok (iterable (m + n) fun position =>
            if position < m then first position else second (position - m))
      | _, _ => arithmetic "+" (fun m n => some (m + n)) (Number.floatResult (· + ·)) a b

/-- How often something is to be repeated; the message names what it is. -/
def repetitions (repeated : String) (value : Value) : Except Fault Nat :=
  match value.int? with
  | some n =>
      if 0 ≤ n && n < UInt64.size then .ok n.toNat
      else .error (.invalid (repeated ++ " can only be multiplied with integers"))
  | none => .error (.invalid (repeated ++ " can only be multiplied with integers"))

/-- A text repeated. -/
def repeated (content : String) (times : Value) : Except Fault Value := do
  let count ← repetitions "strings" times
  if repeatedTextLimit < content.utf8ByteSize * count then
    throw (.invalid "repeated string is too large")
  return text (repeatText content count)

/-- Items repeated. Their number is counted in 64 bits. -/
def repeatedItems (count : Nat) (item : Nat → Value) (times : Value) : Except Fault Value := do
  let repetitions ← repetitions "sequences and iterables" times
  return iterable (count * repetitions % UInt64.size) fun position => item (position % count)

/-- The product of numbers, or a text or a list repeated. A map in front of a list does not
repeat it. -/
def multiply (a b : Value) : Except Fault Value :=
  match a, b with
  | text s, _ => repeated s b
  | _, text s => repeated s a
  | _, _ =>
      match a.indexed?, b.indexed? with
      | some (count, item), _ => repeatedItems count item b
      | none, some (count, item) =>
          if a.kind = .map || a.kind = .plain then .error (unsupported "*" a b)
          else repeatedItems count item a
      | none, none => arithmetic "*" (fun m n => some (m * n)) (Number.floatResult (· * ·)) a b

/-- The quotient, always a floating-point number. -/
def divide (a b : Value) : Except Fault Value :=
  match a.number?, b.number? with
  | some x, some y => .ok (number (Number.floatResult (· / ·) x y))
  | _, _ => .error (unsupported "/" a b)

/-- The value with its sign turned. -/
def negate (value : Value) : Except Fault Value :=
  match value with
  | number n =>
      match n.negate?, n.int128? with
      | some turned, _ => .ok (number turned)
      | none, some _ => .error (.invalid "overflow")
      | none, none => .error ⟨.invalidOperation, none⟩
  | _ => .error ⟨.invalidOperation, none⟩

/-- Check that two operands are there. -/
def bothPresent (a b : Value) : Except Fault Unit :=
  if a.isMissing || b.isMissing then .error .undefinedValue else .ok ()

/-- Apply an operator. -/
def operate (operator : Operator) (a b : Value) : Except Fault Value :=
  match operator with
  | .add => add a b
  | .subtract => arithmetic "-" (fun m n => some (m - n)) (Number.floatResult (· - ·)) a b
  | .multiply => multiply a b
  | .divide => divide a b
  | .floorDivide =>
      arithmetic "//" (fun m n => if n = 0 then none else some (m / n))
        (Number.floatResult floatQuotient) a b
  | .remainder =>
      arithmetic "%" (fun m n => if n = 0 then none else some (m % n))
        (Number.floatResult floatRemainder) a b
  | .power => arithmetic "**" intPower Number.floatPower a b
  | .join => do
      bothPresent a b
      return text (a.display ++ b.display)

/-- Does a value contain another? A text contains its parts, a list its items, a map its keys. -/
def contains (container item : Value) : Except Fault Bool :=
  match container with
  | text content => .ok (Text.contains content item.display)
  | list items => .ok (items.any (equal · item))
  | iterable count member =>
      .ok !(holdsAtAll (fun position => !(equal (member position) item)) count 0)
  | map entries => .ok (findValue? item entries).isSome
  | null | bool _ | number _ =>
      .error (.invalid "cannot perform a containment check on this value")
  | _ => .ok false

/-- Does a comparison other than containment hold? -/
def related (comparison : Comparison) (a b : Value) : Bool :=
  match comparison with
  | .equal => equal a b
  | .unequal => !(equal a b)
  | .less => (order a b).isLT
  | .lessEqual => (order a b).isLE
  | .greater => (order a b).isGT
  | .greaterEqual => (order a b).isGE
  | .within | .notWithin => false

end Value

end RecordRecipe.Expr
