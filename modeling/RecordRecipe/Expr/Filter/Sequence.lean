import RecordRecipe.Expr.Arguments
import RecordRecipe.Expr.Attribute
import RecordRecipe.Expr.Operator
import RecordRecipe.Text.Case

/-!
# Filters of sequences

What filters make of the items of a value: an order, a choice, groups, sums. Any value that a loop
can go through has items.
-/

namespace RecordRecipe.Expr

namespace Value

/-- The items that a loop over the value goes through: characters of a text, keys of a map. -/
def items (value : Value) : Except Fault (List Value) :=
  match value with
  | undefined false => .error .undefinedValue
  | undefined true | null => .ok []
  | text content => .ok (content.toList.map ofChar)
  | other =>
      match other.members? with
      | some items => .ok items
      | none => .error (.invalid (other.kind.words ++ " is not iterable"))

/-- How many items a value has. -/
def length? : Value → Option Nat
  | text content => some content.length
  | list items => some items.length
  | iterable count _ => some count
  | other => if other.kind = .map then some other.mapEntries.length else none

/-- The items of a value that a filter takes for a list. -/
def listItems (value : Value) : Except Fault (List Value) :=
  value.items.mapError fun _ => .invalid "cannot convert value to list"

/-- The order in sorting. Unless told so, the case of ASCII letters does not matter. -/
def sortOrder (caseSensitive : Bool) (a b : Value) : Ordering :=
  match a, b, caseSensitive with
  | text s, text t, false => compare (s.map Char.toLower) (t.map Char.toLower)
  | _, _, _ => order a b

/-- The order in sorting by what lies at the ends of paths, the first path that tells the values
apart; where there is nothing, all are alike. -/
def sortOrderAt (fieldOf : FieldLookup) (paths : List (List String)) (caseSensitive : Bool)
    (a b : Value) : Ordering :=
  match paths with
  | [] => .eq
  | path :: rest =>
      let first := match atPath? fieldOf path a, atPath? fieldOf path b with
        | some x, some y => sortOrder caseSensitive x y
        | _, _ => .eq
      first.then (sortOrderAt fieldOf rest caseSensitive a b)

/-- The paths in the list of them that a text is. Blanks around a path do not count, and one of
blanks alone is none. -/
def sortPaths (content : String) : List (List String) :=
  (((content.splitOn ",").map Text.trim).filter (!·.isEmpty)).map (·.splitOn ".")

/-- Put a value behind the last of some values, given from the back, that it does not come before.
-/
def insertFromBack (compareTo : Value → Value → Ordering) (value : Value) : List Value → List Value
  | [] => [value]
  | last :: before =>
      if (compareTo value last).isLT then last :: insertFromBack compareTo value before
      else value :: last :: before

/-- The most values that are sorted by inserting one after the other. -/
def insertionLimit : Nat := 20

/-- Sort a list; values that are alike in order stay as they are. The way of sorting shows only
where being alike is not transitive, as it is not among values some of which lack what lies at the
end of a path. -/
def sorted (compareTo : Value → Value → Ordering) (items : List Value) : List Value :=
  if items.length ≤ insertionLimit then
    (items.foldl (fun done item => insertFromBack compareTo item done) []).reverse
  else items.mergeSort fun a b => (compareTo a b).isLE

/-- The first item. -/
def first : Value → Except Fault Value
  | text content => .ok ((content.toList.head?.map ofChar).getD missing)
  | other =>
      match other.indexed? with
      | some (count, item) => .ok (if count = 0 then missing else item 0)
      | none =>
          if other.kind = .map then .ok ((other.mapEntries.head?.map Prod.fst).getD missing)
          else .error (.invalid "cannot get first item from value")

/-- The last item. -/
def last : Value → Except Fault Value
  | text content => .ok ((content.toList.getLast?.map ofChar).getD missing)
  | other =>
      match other.indexed? with
      | some (count, item) => .ok (if count = 0 then missing else item (count - 1))
      | none => .error (.invalid "cannot get last item from value")

/-- The item that comes first in the order of values, the first of several. -/
def least (items : List Value) : Value :=
  match items with
  | [] => missing
  | first :: rest =>
      rest.foldl (fun found item => if (order item found).isLT then item else found) first

/-- The item that comes last in the order of values, the last of several. -/
def greatest (items : List Value) : Value :=
  match items with
  | [] => missing
  | first :: rest =>
      rest.foldl (fun found item => if (order item found).isLT then found else item) first

/-- The value in the opposite order; a map gives its keys. -/
def reversed (value : Value) : Except Fault Value :=
  match value with
  | undefined _ | null => .ok value
  | text content => .ok (text (String.ofList content.toList.reverse))
  | number _ | bool _ | function _ =>
      .error (.invalid ("cannot reverse values of type " ++ value.kind.words))
  | other => do return produced (← other.items).reverse

/-- Items in groups of a size, the last of which is filled up if there is something to fill it
with. -/
def batches (size : Nat) (filler : Option Value) : Nat → List Value → List Value
  | 0, _ => []
  | fuel + 1, items =>
      if items.isEmpty then []
      else
        let group := items.take size
        let filling := match filler with
          | some value => List.replicate (size - group.length) value
          | none => []
        list (group ++ filling) :: batches size filler fuel (items.drop size)

/-- Items in a number of groups of the same size, of which the first ones have one more if need be;
if there is something to fill with, the others get one of it. -/
def slices (count : Nat) (filler : Option Value) (items : List Value) : List Value :=
  let size := items.length / count
  let larger := items.length % count
  (List.range count).map fun group =>
    let start := group * size + min group larger
    let own := (items.drop start).take (if group < larger then size + 1 else size)
    match filler with
    | some value => list (if group < larger then own else own ++ [value])
    | none => list own

/-- The items without those that are like an earlier one; what is compared of an item is given. -/
def distinct (compared : Value → Value) : List Value → List Value → List Value
  | _, [] => []
  | seen, item :: rest =>
      let mark := compared item
      if seen.any fun other => order mark other = .eq then distinct compared seen rest
      else item :: distinct compared (mark :: seen) rest

/-- The items of several lists side by side, up to the end of the shortest. -/
def sideBySide : Nat → List (List Value) → List Value
  | 0, _ => []
  | fuel + 1, lists =>
      match lists.mapM List.head? with
      | some heads => list heads :: sideBySide fuel (lists.map List.tail)
      | none => []

/-- Several values as one: maps joined, of which the last has a key, and other values one behind the
other. -/
def chained (values : List Value) : Except Fault Value :=
  if values.all (·.kind = .map) then .ok (mapOf (values.flatMap mapEntries))
  else do
    let items := (← values.mapM items).flatten
    return if values.all (·.kind = .list) then list items else produced items

/-- The keys of a map, each with its value. -/
def pairs (value : Value) : Except Fault (List (Value × Value)) :=
  if value.kind = .map then .ok value.mapEntries
  else .error (.invalid "cannot convert value into pair list")

/-- A pair as a list. -/
def ofPair (pair : Value × Value) : Value := list [pair.1, pair.2]

/-- The sum of numbers. -/
def total (items : List Value) : Except Fault Value :=
  items.foldlM (fun sum item =>
    match item with
    | undefined true => .ok sum
    | undefined false => .error .undefinedValue
    | number _ => add sum item
    | other => .error (.invalid ("can only sum numbers, got " ++ other.kind.words))) (ofNat 0)

/-- What lies at the end of a path, or else another value. -/
def atPathOr (fieldOf : FieldLookup) (path : String) (other value : Value) : Value :=
  match atPath? fieldOf (path.splitOn ".") value with
  | some found => if found.isUndefined then other else found
  | none => other

end Value

end RecordRecipe.Expr
