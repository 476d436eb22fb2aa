import RecordRecipe.Expr.Value

/-!
# Arguments of calls

The evaluated arguments of a function, a filter or a test. Those by position come first; those by
name stand together in one further place, as a map. What a place has to hold differs between
callees, and so do the messages for what does not fit.
-/

namespace RecordRecipe.Expr

/-- The arguments of a call: those by position, and those by name in the order of the names. -/
structure Arguments where
  positional : List Value := []
  named : Assoc Value := []
  /-- Were arguments passed by name, be it none of them? -/
  keyed : Bool := false

/-- What stands at a place of the arguments. -/
inductive Slot where
  | absent
  | value (value : Value)
  | names (entries : Assoc Value)

/-- A range of integers with its name in messages. -/
structure IntRange where
  name : String
  lo : Int
  hi : Int

namespace IntRange

/-- Integers of 32 signed bits. -/
def bits32 : IntRange := ⟨"i32", -(Nat.pow 2 31), Nat.pow 2 31 - 1⟩

/-- Integers of 64 signed bits. -/
def bits64 : IntRange := ⟨"i64", -(Nat.pow 2 63), Nat.pow 2 63 - 1⟩

/-- The integers that count items. -/
def size : IntRange := ⟨"usize", 0, Nat.pow 2 64 - 1⟩

/-- The integers that number the items of a list and can be negative. -/
def offset : IntRange := ⟨"isize", -(Nat.pow 2 63), Nat.pow 2 63 - 1⟩

end IntRange

namespace Value

/-- A value of a kind that is not the one called for. -/
def unsuited (kind : String) (goal : String) : Fault :=
  .invalid ("cannot convert " ++ kind ++ " to " ++ goal)

/-- The value as an integer of a range. -/
def toInteger (range : IntRange) (value : Value) : Except Fault Int :=
  match value.int? with
  | some n =>
      if range.lo ≤ n && n ≤ range.hi then .ok n
      else .error (unsuited value.kind.words range.name)
  | none => .error (unsuited value.kind.words range.name)

/-- The characters that a function of texts works on: those of any value that is there. -/
def characters (value : Value) : Except Fault (List Char) :=
  if value.isMissing then .error .undefinedValue else .ok value.display.toList

/-- The text that a value has to be. -/
def requireText (value : Value) : Except Fault String :=
  match value with
  | text content => .ok content
  | _ => .error (.invalid "value is not a string")

/-- Does the value count as absent where an argument may be absent? -/
def isBlankArgument : Value → Bool
  | undefined _ | null => true
  | _ => false

end Value

namespace Arguments

/-- The map of the arguments by name. -/
def entries (named : Assoc Value) : Value :=
  .map (named.map fun entry => (.text entry.1, entry.2))

/-- All arguments in order; those by name are one map at the end. -/
def values (arguments : Arguments) : List Value :=
  arguments.positional ++ if arguments.keyed then [entries arguments.named] else []

/-- The arguments with one more by name. -/
def withNamed (name : String) (value : Value) (arguments : Arguments) : Arguments :=
  let named := arguments.named.put name value
  { arguments with named := named.mergeSort fun a b => decide (a.1 ≤ b.1), keyed := true }

/-- What stands at a place. -/
def slot (index : Nat) (arguments : Arguments) : Slot :=
  match arguments.positional[index]? with
  | some value => .value value
  | none =>
      if index = arguments.positional.length && arguments.keyed then .names arguments.named
      else .absent

/-- Allow a number of places and no more. -/
def limit (most : Nat) (arguments : Arguments) : Except Fault Unit :=
  if most < arguments.values.length then .error ⟨.tooManyArguments, none⟩ else .ok ()

/-- A value that has to be there. -/
def require (index : Nat) (arguments : Arguments) : Except Fault Value :=
  match arguments.values[index]? with
  | some value => .ok value
  | none => .error ⟨.missingArgument, none⟩

/-- The characters of a value that has to be there. -/
def requireCharacters (index : Nat) (arguments : Arguments) : Except Fault (List Char) :=
  match arguments.slot index with
  | .absent => .error ⟨.missingArgument, none⟩
  | .names _ => .error (Value.unsuited "kwargs" "string")
  | .value value => value.characters

/-- The characters of a value that may be absent. -/
def characters? (index : Nat) (arguments : Arguments) : Except Fault (Option (List Char)) :=
  match arguments.slot index with
  | .absent => .ok none
  | .names _ => .error (Value.unsuited "kwargs" "string")
  | .value value =>
      if value.isBlankArgument then .ok none else .ok (some value.display.toList)

/-- A value that may be absent. -/
def at? (index : Nat) (arguments : Arguments) : Option Value :=
  match arguments.values[index]? with
  | some value => if value.isBlankArgument then none else some value
  | none => none

/-- An integer that may be absent. -/
def int? (range : IntRange) (index : Nat) (arguments : Arguments) : Except Fault (Option Int) :=
  match arguments.at? index with
  | none => .ok none
  | some value => (value.toInteger range).map some

/-- A text that may be absent and has to be one otherwise. -/
def text? (index : Nat) (arguments : Arguments) : Except Fault (Option String) :=
  match arguments.at? index with
  | none => .ok none
  | some value => value.requireText.map some

/-- A truth value that may be absent. -/
def truth : Option Value → Except Fault Bool
  | none | some (.undefined _) | some .null => .ok false
  | some (.bool flag) => .ok flag
  | some other => .error (Value.unsuited other.kind.words "bool")

/-- A truth value at a place that may be absent. -/
def flagAt (index : Nat) (arguments : Arguments) : Except Fault Bool :=
  truth arguments.values[index]?

/-- A truth value by name that may be absent. -/
def flag (name : String) (arguments : Arguments) : Except Fault Bool :=
  truth (arguments.named.find? name)

/-- A text by name that may be absent. -/
def namedText? (name : String) (arguments : Arguments) : Except Fault (Option String) :=
  match arguments.named.find? name with
  | none | some (.undefined _) | some .null => .ok none
  | some value => value.requireText.map some

/-- Allow no names but the given ones. -/
def limitNames (allowed : List String) (arguments : Arguments) : Except Fault Unit :=
  match arguments.named.keys.find? fun name => !allowed.contains name with
  | some name =>
      .error ⟨.tooManyArguments, some ("unknown keyword argument '" ++ name ++ "'")⟩
  | none => .ok ()

end Arguments

end RecordRecipe.Expr
