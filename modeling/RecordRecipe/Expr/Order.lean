import RecordRecipe.Expr.Names
import RecordRecipe.Expr.Value

/-!
# Equality and order of values

All values have a place in one order: first by kind, then numbers by their exact size, texts by
their characters, and lists and maps by their first difference. Equality is wider than that: it
takes truth values for the numbers one and zero, and a list for anything with the same items. Keys
of maps are found by their order, so that there a truth value is no number.
-/

namespace RecordRecipe.Expr

/-- The name of the variable in which a macro finds what calls it with a body. -/
def callerName : String := "caller"

/-- Does a macro find what calls it with a body? It does if it mentions it. -/
def findsCaller (parameters : List Parameter) (body : List Statement) : Bool :=
  (Statement.macroNames parameters body).contains callerName

/-- The fields of a macro. -/
def routineFields (name : String) (parameters : List Parameter) (body : List Statement) :
    List (String × Value) :=
  [("name", .text name),
   ("arguments", .list (parameters.map fun parameter => .text parameter.name)),
   ("caller", .bool (findsCaller parameters body))]

/-- The fields of a loop that are counted. What depends on the number of items is missing where it
is not known, and no item is then the last. -/
def loopCounters (index : Nat) (length : Option Nat) (depth : Nat) : List (String × Value) :=
  let known (count : Nat → Nat) : Value :=
    (length.map fun n => Value.ofNat (count n)).getD .missing
  [("index0", .ofNat index), ("index", .ofNat (index + 1)), ("length", known id),
   ("revindex", known (· - index)), ("revindex0", known (· - index - 1)),
   ("first", .bool (index == 0)), ("last", .bool (length == some (index + 1))),
   ("depth", .ofNat (depth + 1)), ("depth0", .ofNat depth)]

/-- The names of the fields of a loop that hold the items next to the current one. -/
def previousName : String := "previtem"

@[inherit_doc previousName]
def nextName : String := "nextitem"

/-- The first difference between items at the same positions, a number of them from a position
on. -/
def firstDifference (compareAt : Nat → Ordering) : Nat → Nat → Ordering
  | 0, _ => .eq
  | count + 1, position =>
      (compareAt position).then (firstDifference compareAt count (position + 1))

/-- Does something hold at all of a number of positions, from one on? -/
def holdsAtAll (holds : Nat → Bool) : Nat → Nat → Bool
  | 0, _ => true
  | count + 1, position => holds position && holdsAtAll holds count (position + 1)

/-- The names of the functions of the language itself. -/
def languageFunctions : List String := ["dict", "namespace", "range"]

/-- What functions are told apart and ordered by: those of the language by name and in front of all
others, which are alike. -/
def functionMark (name : String) : Nat :=
  (languageFunctions.idxOf? name).getD languageFunctions.length

namespace Value

/-- The items of a list or of something iterable: how many there are, and each of them by its
position. -/
def indexed? : Value → Option (Nat × (Nat → Value))
  | list items =>
      let array := items.toArray
      some (array.size, fun position => array.getD position null)
  | iterable count item => some (count, item)
  | _ => none

/-- All items of a list or of something iterable. -/
def sequenceItems? : Value → Option (List Value)
  | list items => some items
  | iterable count item => some ((List.range count).map item)
  | _ => none

/-- The entries of a map in the order in which they are gone through; those of values that keep
their fields to themselves are none. -/
def mapEntries : Value → List (Value × Value)
  | map entries => entries
  | routine name parameters body _ =>
      (routineFields name parameters body).map fun field => (text field.1, field.2)
  | loop _ index length depth previous next =>
      ((loopCounters index length depth).map fun field => (text field.1, field.2)) ++
        [(text previousName, previous), (text nextName, next)]
  | _ => []

/-- What a value holds one by one: the items of a list or of something iterable, the keys of a
map. -/
def members? (value : Value) : Option (List Value) :=
  match value.sequenceItems? with
  | some items => some items
  | none => if value.kind = .map then some (value.mapEntries.map Prod.fst) else none

/-- The number that tells a loop from all others. -/
def loopIdentity? : Value → Option Nat
  | loop identity _ _ _ _ _ => some identity
  | _ => none

/-- The order of two values that hold no further values. -/
def orderPlain (a b : Value) : Ordering :=
  match a, b with
  | bool p, bool q => compare p q
  | text s, text t => compare s t
  | number m, number n => m.order n
  | function f, function g => compare (functionMark f) (functionMark g)
  | _, _ => compare a.kind.rank b.kind.rank

/-- The order of entries that hold plain values. -/
def orderPlainEntries : List (Value × Value) → List (Value × Value) → Ordering
  | [], ys => if ys.isEmpty then .eq else .lt
  | (key, value) :: xs, ys =>
      match ys with
      | [] => .gt
      | y :: ys =>
          ((orderPlain key y.1).then (orderPlain value y.2)).then (orderPlainEntries xs ys)

/-- The order of a number of items and another sequence, given how it compares a position with one
of its items: by the first difference, and else the shorter one comes first. -/
def orderSequence (count : Nat) (other : Value) (compareAt : Nat → Value → Ordering) : Ordering :=
  match other.indexed? with
  | none => .eq
  | some (others, item) =>
      (firstDifference (fun position => compareAt position (item position))
        (min count others) 0).then (compare count others)

mutual

/-- The order of values. -/
def order : Value → Value → Ordering
  | list xs, b =>
      (compare Kind.list.rank b.kind.rank).then <|
        match b.indexed? with
        | none => .eq
        | some (others, item) => orderItems xs others item 0
  | iterable count item, b =>
      (compare Kind.iterable.rank b.kind.rank).then
        (orderSequence count b fun position other => order (item position) other)
  | map xs, b => (compare Kind.map.rank b.kind.rank).then (orderEntries xs b.mapEntries)
  | a, b =>
      (compare a.kind.rank b.kind.rank).then <|
        if a.kind = .map then orderPlainEntries a.mapEntries b.mapEntries else orderPlain a b
termination_by structural a => a

/-- The order of items and those of another sequence from a position on, of which there are as many
as given. -/
def orderItems : List Value → Nat → (Nat → Value) → Nat → Ordering
  | [], others, _, _ => if others = 0 then .eq else .lt
  | x :: xs, others, item, position =>
      if others = 0 then .gt
      else (order x (item position)).then (orderItems xs (others - 1) item (position + 1))
termination_by structural xs => xs

/-- The order of maps, by their first difference. -/
def orderEntries : List (Value × Value) → List (Value × Value) → Ordering
  | [], ys => if ys.isEmpty then .eq else .lt
  | (key, value) :: xs, ys =>
      match ys with
      | [] => .gt
      | y :: ys => ((order key y.1).then (order value y.2)).then (orderEntries xs ys)
termination_by structural xs => xs

end

/-- The value under a key of a map. -/
def findValue? (key : Value) : List (Value × Value) → Option Value
  | [] => none
  | entry :: rest => if order key entry.1 = .eq then some entry.2 else findValue? key rest

/-- Put an entry into a map at its place in the order of keys; an equal key takes the new value. -/
def insertEntry (key value : Value) : List (Value × Value) → List (Value × Value)
  | [] => [(key, value)]
  | entry :: rest =>
      match order key entry.1 with
      | .lt => (key, value) :: entry :: rest
      | .eq => (entry.1, value) :: rest
      | .gt => entry :: insertEntry key value rest

/-- The map of some entries. -/
def mapOf (entries : List (Value × Value)) : Value :=
  map (entries.foldl (fun found entry => insertEntry entry.1 entry.2 found) [])

/-- Equality of two values that hold no further values. -/
def equalPlain (a b : Value) : Bool :=
  match a, b with
  | undefined _, _ => b.isUndefined
  | null, null => true
  | text s, text t => s == t
  | function f, function g => functionMark f == functionMark g
  | _, _ =>
      match a.number?, b.number? with
      | some m, some n => m.equal n
      | _, _ => false

/-- Equality of the fields of a macro or of a loop, which are plain or lists of plain values, with
those that a map holds under the same names. -/
def equalFields (fields : List (String × Value)) (entries : List (Value × Value)) : Bool :=
  fields.all fun field =>
    (findValue? (text field.1) entries).any fun found =>
      match field.2, found.sequenceItems? with
      | list items, some others =>
          items.length = others.length &&
            (items.zip others).all fun pair => equalPlain pair.1 pair.2
      | plain, _ => equalPlain plain found

/-- Is a number of items equal to another sequence, given whether a position holds the same as one
of its items? -/
def equalSequence (count : Nat) (other : Value) (equalAt : Nat → Value → Bool) : Bool :=
  match other.indexed? with
  | none => false
  | some (others, item) =>
      count = others && holdsAtAll (fun position => equalAt position (item position)) count 0

mutual

/-- Are two values equal? Lists are compared item by item and maps key by key. -/
def equal : Value → Value → Bool
  | list xs, b =>
      match b.indexed? with
      | none => false
      | some (others, item) => xs.length = others && equalItems xs item 0
  | iterable count item, b =>
      equalSequence count b fun position other => equal (item position) other
  | map xs, b => b.kind = .map && xs.length = b.mapEntries.length && equalEntries xs b.mapEntries
  | routine name parameters body _, b =>
      let fields := routineFields name parameters body
      b.kind = .map && fields.length = b.mapEntries.length && equalFields fields b.mapEntries
  | loop identity index length depth previous next, b =>
      let fields := loopCounters index length depth
      b.loopIdentity? = some identity ||
        (fields.length + 2 = b.mapEntries.length && equalFields fields b.mapEntries &&
          (match findValue? (text previousName) b.mapEntries with
            | none => false
            | some found => equal previous found) &&
          (match findValue? (text nextName) b.mapEntries with
            | none => false
            | some found => equal next found))
  | a, b =>
      if a.kind = .map then b.kind = .map && b.mapEntries.isEmpty else equalPlain a b
termination_by structural a => a

/-- Are items equal to those from a position on in another sequence? -/
def equalItems : List Value → (Nat → Value) → Nat → Bool
  | [], _, _ => true
  | x :: xs, item, position => equal x (item position) && equalItems xs item (position + 1)
termination_by structural xs => xs

/-- Does the second map hold every entry of the first? -/
def equalEntries : List (Value × Value) → List (Value × Value) → Bool
  | [], _ => true
  | (key, value) :: rest, ys =>
      (match findValue? key ys with
        | none => false
        | some found => equal value found) && equalEntries rest ys
termination_by structural xs => xs

end

end Value

end RecordRecipe.Expr
