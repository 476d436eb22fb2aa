import RecordRecipe.Random.Draw
import RecordRecipe.Value

/-!
# Fake data

Realistic-looking values by the name of a generator and an optional locale. A `FakeSource` is any
such supply; `FakeSource.builtin` is the one used unless a caller brings another.
-/

namespace RecordRecipe

open RecordRecipe.Random

/-- A supply of fake values: no value when the name is unknown. -/
abbrev FakeSource := String → Option String → Generator → Option FieldValue × Generator

namespace Fake

def firstNames : List String :=
  ["Alice", "Bashir", "Carmen", "Dmitri", "Esther", "Farah", "Gustavo", "Hana", "Ivan", "Jonas",
   "Keiko", "Liam", "Maya", "Nadia", "Oscar", "Priya", "Quentin", "Rosa", "Samir", "Tara"]

def lastNames : List String :=
  ["Anders", "Baptiste", "Chen", "Dubois", "Eriksen", "Fernandez", "Garcia", "Haddad", "Ito",
   "Jensen", "Kowalski", "Lopez", "Moreau", "Nakamura", "Okafor", "Patel", "Quinn", "Rossi"]

def frenchFirstNames : List String :=
  ["Amélie", "Baptiste", "Camille", "Élodie", "François", "Hélène", "Juliette", "Mathieu"]

def frenchLastNames : List String :=
  ["Bernard", "Dubois", "Fontaine", "Girard", "Lefèvre", "Martin"]

def germanFirstNames : List String :=
  ["Anja", "Bernd", "Claudia", "Dieter", "Jürgen", "Lena", "Ulrike"]

def germanLastNames : List String :=
  ["Becker", "Fischer", "Hoffmann", "Müller", "Schmidt", "Weber"]

def companyWords : List String :=
  ["Acme", "Blue Harbor", "Cedar", "Northwind", "Summit", "Tidewater", "Vertex", "Willow"]

def companySuffixes : List String := ["Inc", "LLC", "Group", "and Sons", "Ltd"]

def cities : List String :=
  ["Austin", "Bergen", "Curitiba", "Dakar", "Edinburgh", "Fukuoka", "Gdańsk", "Halifax"]

def countries : List String :=
  ["Canada", "Norway", "Brazil", "Senegal", "Japan", "Poland", "Kenya"]

def states : List String := ["Alberta", "Bavaria", "Ceará", "Ontario", "Oregon", "Victoria"]

def streets : List String :=
  ["Birch", "Harbor", "Juniper", "Maple", "Mill", "Orchard", "Station"]

def streetKinds : List String := ["Street", "Avenue", "Road", "Lane", "Way"]

def words : List String :=
  ["amber", "bridge", "canvas", "delta", "ember", "forest", "granite", "harvest", "island",
   "lantern", "meadow", "nimbus", "orbit", "prairie", "quartz", "river", "signal", "timber"]

def jobs : List String :=
  ["Accountant", "Architect", "Chemist", "Editor", "Nurse", "Pilot", "Welder"]

def domains : List String := ["example.com", "example.org", "example.net"]

/-- The first names of a locale; an unknown locale has the names of none. -/
def firstNamesOf : Option String → List String
  | some "fr_FR" => frenchFirstNames
  | some "de_DE" => germanFirstNames
  | _ => firstNames

/-- The last names of a locale. -/
def lastNamesOf : Option String → List String
  | some "fr_FR" => frenchLastNames
  | some "de_DE" => germanLastNames
  | _ => lastNames

/-- A computation that draws from the stream. -/
abbrev Draws (α : Type) := StateM Generator α

/-- Draw an item of a list. -/
def pickOne (items : List String) : Draws String := fun g => pick items "" g

/-- Draw a number between two bounds. -/
def pickNumber (lo hi : Nat) : Draws Nat := fun g =>
  let (n, g) := between32 lo hi g
  (n.toNat, g)

/-- Draw a number of words. -/
def pickWords : Nat → Draws (List String)
  | 0 => pure []
  | n + 1 => do
      let first ← pickOne words
      let rest ← pickWords n
      pure (first :: rest)

/-- The text with its first letter in upper case. -/
def capitalize (text : String) : String :=
  match text.toList with
  | [] => ""
  | c :: rest => String.ofList (c.toUpper :: rest)

/-- A sentence of a number of words. -/
def sentence (count : Nat) : Draws String := do
  let chosen ← pickWords count
  pure (capitalize (Text.joinWith " " chosen) ++ ".")

/-- A first name, a dot, a last name and a domain, the names in lower case. -/
def email : Draws String := do
  let first ← pickOne firstNames
  let last ← pickOne lastNames
  let domain ← pickOne domains
  pure (first.map Char.toLower ++ "." ++ last.map Char.toLower ++ "@" ++ domain)

/-- Two items with a space between them. -/
def pickPair (left right : List String) : Draws String := do
  let first ← pickOne left
  let second ← pickOne right
  pure (first ++ " " ++ second)

/-- A house number, a street and its kind. -/
def streetAddress : Draws String := do
  let number ← pickNumber 1 9999
  let street ← pickOne streets
  let kind ← pickOne streetKinds
  pure (toString number ++ " " ++ street ++ " " ++ kind)

/-- An area code in parentheses and two groups of digits. -/
def phoneNumber : Draws String := do
  let area ← pickNumber 200 999
  let exchange ← pickNumber 200 999
  let line ← pickNumber 0 9999
  pure ("(" ++ Text.padded 3 area ++ ") " ++ Text.padded 3 exchange ++ "-" ++ Text.padded 4 line)

/-- Three sentences. -/
def paragraph : Draws String := do
  let first ← sentence 8
  let second ← sentence 8
  let third ← sentence 8
  pure (first ++ " " ++ second ++ " " ++ third)

/-- The text of a named generator. -/
def text? (name : String) (locale : Option String) : Option (Draws String) :=
  match name with
  | "first_name" | "FirstName" => some (pickOne (firstNamesOf locale))
  | "last_name" | "LastName" => some (pickOne (lastNamesOf locale))
  | "name" => some (pickPair (firstNamesOf locale) (lastNamesOf locale))
  | "email" => some email
  | "company" => some (pickPair companyWords companySuffixes)
  | "city" => some (pickOne cities)
  | "country" => some (pickOne countries)
  | "state" => some (pickOne states)
  | "street_address" | "address" => some streetAddress
  | "postalcode" | "postcode" | "zipcode" => some do
      let code ← pickNumber 501 99950
      pure (Text.padded 5 code)
  | "phone_number" => some phoneNumber
  | "job" => some (pickOne jobs)
  | "word" => some (pickOne words)
  | "sentence" | "catch_phrase" => some (sentence 6)
  | "paragraph" | "text" => some paragraph
  | _ => none

end Fake

/-- The supply that is used unless a caller brings another. -/
def FakeSource.builtin : FakeSource := fun name locale g =>
  match name with
  | "boolean" =>
      let (flag, g) := coin g
      (some (.bool flag), g)
  | "random_int" =>
      let (n, g) := between64 0 9999 g
      (some (.ofInt n), g)
  | _ =>
      match Fake.text? name locale with
      | some draws =>
          let (text, g) := draws g
          (some (.text text), g)
      | none => (none, g)

/-- A supply that shows what it is asked for: a few names stand for values of each type, and any
other name is echoed with its locale. It never draws. -/
def FakeSource.echo : FakeSource := fun name locale g =>
  let value : Option FieldValue := match name with
    | "missing" => none
    | "null" => some .null
    | "digits" => some (.text "0042")
    | "float" => some (.float 2.5)
    | "flag" => some (.bool true)
    | "birthday" => (Calendar.Date.of? 2001 2 3).map .date
    | _ => some (.text (name ++ "/" ++ locale.getD "-"))
  (value, g)

end RecordRecipe
