import RecordRecipe.Expr.Filter.Sequence
import RecordRecipe.Expr.Filter.Text
import RecordRecipe.Expr.Test

/-!
# Filters

A filter makes a new value out of one, with further arguments. The names of filters form a fixed
vocabulary, and any other name is a fault at the moment of use.
-/

namespace RecordRecipe.Expr

namespace Value

/-- Round to a number of decimal places, a half away from zero. -/
def round (places : Int) : Value → Except Fault Value
  | number n => .ok (number (n.round places))
  | other => .error (.invalid ("cannot round value (" ++ other.kind.words ++ ")"))

/-- The absolute value. -/
def abs : Value → Except Fault Value
  | number n =>
      match n.abs? with
      | some size => .ok (number size)
      | none => .error (.invalid "overflow on abs")
  | _ => .error (.invalid "cannot get absolute value")

/-- The message for a text that is no floating-point number. -/
def floatReason (content : String) : String :=
  if content.isEmpty then "cannot parse float from empty string" else "invalid float literal"

/-- The value made an integer. -/
def toInt : Value → Except Fault Value
  | undefined false => .error .undefinedValue
  | undefined true | null => .ok (ofNat 0)
  | bool flag => .ok (ofNat (if flag then 1 else 0))
  | number n => .ok (number n.truncated)
  | text content =>
      match Numeral.readInt? content.toList, Number.readFloat? content.toList with
      | some n, _ =>
          if fitsInt128 n then .ok (number (.int n .signed128))
          else .ok (number (Number.float (Decimal.ofInt n)).truncated)
      | none, some x => .ok (number x.truncated)
      | none, none => .error (.invalid (floatReason content))
  | other => .error (.invalid ("cannot convert " ++ other.kind.words ++ " to integer"))

/-- The value made a floating-point number. -/
def toFloat : Value → Except Fault Value
  | undefined false => .error .undefinedValue
  | undefined true | null => .ok (number (.float 0))
  | text content =>
      match Number.readFloat? content.toList with
      | some x => .ok (number x)
      | none => .error (.invalid (floatReason content))
  | number (.notANumber negative) => .ok (number (.notANumber negative))
  | other =>
      match other.number? with
      | some n => .ok (number (.ofFloat n.toFloat))
      | none => .error (.invalid ("cannot convert " ++ other.kind.words ++ " to float"))

/-- A value, or another in the place of one that is not defined. If told so, anything that does not
hold as a condition is replaced too. -/
def orDefault (value : Value) (arguments : Arguments) : Except Fault Value := do
  arguments.limit 2
  let other := (arguments.values[0]?).getD (text "")
  if value.isUndefined then return other
  match arguments.values[1]? with
  | none => return value
  | some lax =>
      if lax.isMissing then throw .undefinedValue
      return if lax.isTrue && !value.isTrue then other else value

/-- A sorted list of the items of a value. -/
def sort (fieldOf : FieldLookup) (value : Value) (arguments : Arguments) :
    Except Fault Value := do
  if !arguments.positional.isEmpty then throw ⟨.tooManyArguments, none⟩
  let items ← value.listItems
  let caseSensitive ← arguments.flag "case_sensitive"
  let paths ← arguments.namedText? "attribute"
  let reverse ← arguments.flag "reverse"
  arguments.limitNames ["attribute", "case_sensitive", "reverse"]
  let upward := match paths with
    | none => sortOrder caseSensitive
    | some paths => sortOrderAt fieldOf (sortPaths paths) caseSensitive
  return list (sorted (if reverse then fun a b => (upward a b).swap else upward) items)

/-- What a filter makes of a value with further arguments. Fields of rows can be looked up. -/
abbrev FilterRule := FieldLookup → Value → Arguments → Except Fault Value

/-- A filter that changes the characters of a text. -/
def onCharacters (change : List Char → List Char) : FilterRule := fun _ value arguments => do
  let chars ← value.characters
  arguments.limit 0
  return text (String.ofList (change chars))

/-- A filter without further arguments. -/
def alone (change : Value → Except Fault Value) : FilterRule := fun _ value arguments => do
  arguments.limit 0
  change value

/-- A filter of the items of a value without further arguments. -/
def onItems (change : List Value → Except Fault Value) : FilterRule := fun _ value arguments => do
  let items ← value.listItems
  arguments.limit 0
  change items

/-- The text without blanks, or other characters, at either end. -/
def trimFilter : FilterRule := fun _ value arguments => do
  let chars ← value.characters
  let marks ← arguments.characters? 0
  arguments.limit 1
  match marks with
  | some marks =>
      return text (String.ofList
        (Text.trimEnd marks.contains (Text.trimStart marks.contains chars)))
  | none => return text (String.ofList (Text.trimChars chars))

/-- The text with a pattern replaced. -/
def replaceFilter : FilterRule := fun _ value arguments => do
  let chars ← value.characters
  let pattern ← arguments.requireCharacters 0
  let new ← arguments.requireCharacters 1
  arguments.limit 2
  return text (String.ofList (replaceChars pattern new (chars.length + 1) chars))

/-- The pieces of the text. -/
def splitFilter : FilterRule := fun _ value arguments => do
  let content ← value.requireText
  let separator ← arguments.text? 0
  let most ← arguments.int? .bits64 1
  arguments.limit 2
  return split separator most content

/-- The text with its lines moved in. -/
def indentFilter : FilterRule := fun _ value arguments => do
  let chars ← value.characters
  let width ← (← arguments.require 0).toInteger .size
  let firstLine ← arguments.flagAt 1
  let blankLines ← arguments.flagAt 2
  arguments.limit 3
  return text (indent width.toNat firstLine blankLines (String.ofList chars))

/-- How many items the value has. -/
def lengthFilter (value : Value) : Except Fault Value :=
  match value.length? with
  | some n => .ok (ofNat n)
  | none => .error (.invalid ("cannot calculate length of value of type " ++ value.kind.words))

/-- The number rounded to some decimal places. -/
def roundFilter : FilterRule := fun _ value arguments => do
  let places ← arguments.int? .bits32 0
  arguments.limit 1
  value.round (places.getD 0)

/-- The texts of the items with a separator between them. -/
def joinFilter : FilterRule := fun _ value arguments => do
  let separator ← arguments.characters? 0
  arguments.limit 1
  match value with
  | undefined _ | null => return text ""
  | _ =>
      let items ← value.items.mapError fun _ =>
        .invalid ("cannot join value of type " ++ value.kind.words)
      return text (Text.joinWith (String.ofList (separator.getD [])) (items.map display))

/-- The items in groups. -/
def groupFilter (group : Nat → Option Value → List Value → List Value) : FilterRule :=
  fun _ value arguments => do
    let count ← (← arguments.require 0).toInteger .size
    let filler := arguments.at? 1
    arguments.limit 2
    if count = 0 then throw (.invalid "count cannot be 0")
    return list (group count.toNat filler (← value.items))

/-- What the value holds under a key. -/
def attributeFilter : FilterRule := fun fieldOf value arguments => do
  let key ← arguments.require 0
  arguments.limit 1
  if value.isUndefined then throw .undefinedValue
  return (value.subscript? fieldOf key).getD missing

/-- The entries of a map as pairs, sorted by their keys or values. -/
def sortedPairsFilter : FilterRule := fun _ value arguments => do
  if !arguments.positional.isEmpty then throw ⟨.tooManyArguments, none⟩
  let entries ← value.pairs
  let byValue := (← arguments.namedText? "by") = some "value"
  let caseSensitive ← arguments.flag "case_sensitive"
  let reverse ← arguments.flag "reverse"
  arguments.limitNames ["by", "case_sensitive", "reverse"]
  let side : Value → Value
    | list [key, value] => if byValue then value else key
    | other => other
  let upward (a b : Value) := sortOrder caseSensitive (side a) (side b)
  let pairs := entries.map ofPair
  return list (sorted (if reverse then fun a b => (upward a b).swap else upward) pairs)

/-- The items without those that are like an earlier one. -/
def distinctFilter : FilterRule := fun fieldOf value arguments => do
  if !arguments.positional.isEmpty then throw ⟨.tooManyArguments, none⟩
  let path ← arguments.namedText? "attribute"
  let caseSensitive ← arguments.flag "case_sensitive"
  arguments.limitNames ["attribute", "case_sensitive"]
  let compared (item : Value) : Value :=
    let found := match path with
      | some path => item.atPathOr fieldOf path missing
      | none => item
    match found, caseSensitive with
    | text content, false => text (String.ofList (Text.lower content.toList))
    | other, _ => other
  return list (distinct compared [] (← value.items))

/-- The items that a test accepts or, the other way round, refuses; without a test, those that hold
as a condition. With a path, what lies at its end is tested. -/
def choiceFilter (accepted withPath : Bool) : FilterRule := fun fieldOf value arguments => do
  let path ← if withPath then (arguments.requireCharacters 0).map some else pure none
  let others := arguments.positional.drop (if withPath then 1 else 0)
  let further := { arguments with positional := others.drop 1 }
  let chosen ← (← value.items).filterM fun item => do
    let tested ← match path with
      | none => pure item
      | some chars =>
          match atPath? fieldOf ((String.ofList chars).splitOn ".") item with
          | some found => pure found
          | none => throw .undefinedValue
    let passed ← match others with
      | [] => pure tested.isTrue
      | test :: _ => tested.applyTest test.display further
    return passed == accepted
  return list chosen

/-- The filters by name, apart from those that apply other filters. -/
def filterRule? : String → Option FilterRule
  | "upper" => some (onCharacters Text.upper)
  | "lower" => some (onCharacters Text.lower)
  | "title" => some (onCharacters (titleChars true))
  | "capitalize" => some (onCharacters capitalizeChars)
  | "string" => some (onCharacters id)
  | "safe" => some (onCharacters id)
  | "escape" | "e" =>
      some (alone fun value => .ok (text (String.ofList (escapeChars value.display.toList))))
  | "trim" => some trimFilter
  | "replace" => some replaceFilter
  | "split" => some splitFilter
  | "indent" => some indentFilter
  | "lines" => some (alone fun value => do return lines (← value.requireText))
  | "length" | "count" => some (alone lengthFilter)
  | "default" | "d" => some fun _ => orDefault
  | "round" => some roundFilter
  | "abs" => some (alone abs)
  | "int" => some (alone toInt)
  | "float" => some (alone toFloat)
  | "bool" => some (alone fun value => .ok (bool value.isTrue))
  | "sort" => some sort
  | "join" => some joinFilter
  | "first" => some (alone first)
  | "last" => some (alone last)
  | "min" => some (onItems fun items => .ok (least items))
  | "max" => some (onItems fun items => .ok (greatest items))
  | "sum" => some (alone fun value => do total (← value.items))
  | "list" => some (onItems fun items => .ok (list items))
  | "reverse" => some (alone reversed)
  | "batch" => some (groupFilter fun size filler items => batches size filler items.length items)
  | "slice" => some (groupFilter slices)
  | "items" => some (alone fun value => do return list ((← value.pairs).map ofPair))
  | "dictsort" => some sortedPairsFilter
  | "attr" => some attributeFilter
  | "unique" => some distinctFilter
  | "select" => some (choiceFilter true false)
  | "reject" => some (choiceFilter false false)
  | "selectattr" => some (choiceFilter true true)
  | "rejectattr" => some (choiceFilter false true)
  | "chain" => some fun _ value arguments => chained (value :: arguments.values)
  | "zip" => some fun _ value arguments => do
      let lists ← (value :: arguments.values).mapM items
      return produced (sideBySide ((lists.map List.length).foldl max 0) lists)
  | _ => none

/-- The items with something done to each: what lies at the end of a path, or a filter applied. -/
def mapItems (apply : String → Value → Arguments → Except Fault Value) (fieldOf : FieldLookup)
    (value : Value) (arguments : Arguments) : Except Fault Value := do
  match arguments.named.find? "attribute" with
  | some path =>
      if !arguments.positional.isEmpty then throw ⟨.tooManyArguments, none⟩
      let other := (arguments.named.find? "default").getD missing
      let found ← (← value.items).mapM fun item =>
        match path with
        | text path =>
            match atPath? fieldOf (path.splitOn ".") item with
            | some found => .ok (if found.isUndefined then other else found)
            | none => if other.isUndefined then .error .undefinedValue else .ok other
        | key => .ok ((item.subscript? fieldOf key).getD other)
      arguments.limitNames ["attribute", "default"]
      return list found
  | none =>
      match arguments.positional with
      | [] => throw (.invalid "filter name is required")
      | text name :: further =>
          return list (← (← value.items).mapM fun item =>
            apply name item { arguments with positional := further })
      | _ => throw (.invalid "filter name must be a string")

/-- Apply a filter. One that applies others takes their names from the arguments, so that their
number bounds the nesting. -/
def applyFilterWithin (fieldOf : FieldLookup) : Nat → String → Value → Arguments →
    Except Fault Value
  | 0, name, _, _ => .error ⟨.unknownFilter, some ("filter " ++ name ++ " is unknown")⟩
  | fuel + 1, name, value, arguments =>
      if name = "map" then mapItems (applyFilterWithin fieldOf fuel) fieldOf value arguments
      else match filterRule? name with
        | some rule => rule fieldOf value arguments
        | none => .error ⟨.unknownFilter, some ("filter " ++ name ++ " is unknown")⟩

/-- Apply a filter. -/
def applyFilter (fieldOf : FieldLookup) (name : String) (value : Value) (arguments : Arguments) :
    Except Fault Value :=
  applyFilterWithin fieldOf (arguments.positional.length + 1) name value arguments

end Value

end RecordRecipe.Expr
