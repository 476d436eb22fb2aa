import Mathlib
import RecordRecipe.Proofs.Recipe.Recorded
import RecordRecipe.Proofs.Yaml.Building
import RecordRecipe.Recipe.Source

/-!
# Documents settled on lines

A recipe is collected from documents before its templates are read. Collecting settled documents
gives settled declarations, and so a recipe of settled documents is the same, or one of two checks
complains astray: `Recipe.lines_settle`. `Recipe.friendBehindAlias_astray` is such a complaint.
-/

namespace RecordRecipe

open Yaml (Node)

namespace Declaration

variable {file : String} {node : Node}

theorem names_settled {around : Nat} (kind : DeclarationKind) :
    names (node.settled .object around) kind = names node kind := by
  rw [names, names, Node.get?_settled]
  cases node.get? kind.key with
  | none => rfl
  | some value => simp only [Option.map_some, Node.value?_settled]

theorem classify_settled : classify file (node.settled .object 1) = classify file node := by
  have hentries : (node.settled .object 1).entries?.isNone = node.entries?.isNone := by
    cases node <;> rfl
  have hnames : names (node.settled .object 1) = names node := funext names_settled
  simp only [classify, hentries, hnames, Node.lineOr_settled, Node.typeName_settled]

theorem checkKeys_settled_one (kind : DeclarationKind) :
    checkKeys file kind (node.settled .object 1) = checkKeys file kind node := by
  rw [checkKeys_settled, checkKeys_eq]

theorem textUnder_settled_one (key : String) :
    textUnder file (node.settled .object 1) key = textUnder file node key := by
  rw [textUnder_settled, textUnder_eq]

theorem readOption_settled : readOption file (node.settled .object 1) = readOption file node := by
  -- The first line is what all checks of a declaration fall back to, and here that is right.
  have hdefault (name : String) : readDefault file name (node.lineOr 1) (node.settled .object 1) =
      readDefault file name (node.lineOr 1) node := by
    rw [readDefault, readDefault, Node.get?_settled]
    cases node.get? "default" with
    | none => rfl
    | some value =>
        simp only [Option.map_some, Node.value?_settled, Node.typeName_settled,
          Node.lineOr_settled]
  simp only [readOption, checkKeys_settled_one, textUnder_settled_one, Node.lineOr_settled,
    hdefault]

end Declaration

/-- A document whose declarations are settled. -/
def Yaml.Node.settledDocument : Node → Node
  | .sequence line items => .sequence line (items.map (Node.settled .object 1))
  | other => other

section Changes

variable {α β γ δ : Type}

/-- If a second part commutes with a change, so does the sequence. -/
theorem bind_map_comm {first : Except Error α} {next : α → Except Error β}
    {other : γ → Except Error δ} {change : α → γ} {last : β → δ}
    (h : ∀ a, other (change a) = (next a).map last) :
    first.map change >>= other = (first >>= next).map last := by
  cases first with
  | error error => rfl
  | ok a => exact h a

/-- If a step commutes with changes of its parts, so does the fold of it. -/
theorem foldlM_map_comm {step : α → β → Except Error α} {other : γ → δ → Except Error γ}
    {change : α → γ} {place : β → δ}
    (h : ∀ a b, other (change a) (place b) = (step a b).map change) (items : List β) (a : α) :
    (items.map place).foldlM other (change a) = (items.foldlM step a).map change := by
  induction items generalizing a with
  | nil => rfl
  | cons first rest ih =>
      rw [List.map_cons, List.foldlM_cons, List.foldlM_cons, h]
      exact bind_map_comm ih

end Changes

namespace Declarations

/-- A declaration of a document, settled. -/
def settledAt (declared : DeclarationKind × Node) : DeclarationKind × Node :=
  (declared.1, declared.2.settled .object 1)

theorem classifyAll_settled (file : String) (root : Option Node) :
    classifyAll file (root.map Node.settledDocument) =
      (classifyAll file root).map (List.map settledAt) := by
  have hitems (items : List Node) :
      (items.map (Node.settled .object 1)).mapM (fun node => do
        return (← Declaration.classify file node, node)) =
      (items.mapM fun node => do
        return (← Declaration.classify file node, node)).map (List.map settledAt) := by
    induction items with
    | nil => rfl
    | cons first rest ih =>
        rw [List.map_cons, List.mapM_cons, List.mapM_cons, ih, Declaration.classify_settled]
        cases Declaration.classify file first with
        | error error => rfl
        | ok kind =>
            cases rest.mapM fun node => do
              return (← Declaration.classify file node, node) with
            | error error => rfl
            | ok declared => rfl
  cases root with
  | none => rfl
  | some node =>
      cases node with
      | scalar | mapping => rfl
      | sequence line items => exact hitems items

theorem openIncluded_settled (fs : Files) (path : List Location) (file : String) (node : Node) :
    openIncluded fs path file (node.settled .object 1) = openIncluded fs path file node := by
  rw [openIncluded, openIncluded]
  simp only [Declaration.checkKeys_settled_one, Declaration.textUnder_settled_one,
    Node.lineOr_settled]

theorem settledGroups_put (groups : Assoc Declaration) (name : String)
    (declaration : Declaration) :
    (Reading.settledGroups groups).put name declaration.settled =
      Reading.settledGroups (groups.put name declaration) := by
  unfold Reading.settledGroups
  induction groups with
  | nil => rfl
  | cons first rest ih =>
      obtain ⟨key, old⟩ := first
      by_cases hkey : key = name
      · simp [Assoc.put, hkey]
      · simpa [Assoc.put, hkey] using ih

theorem add_settled (file : String) (declarations : Declarations)
    (declared : DeclarationKind × Node) :
    add file declarations.settled (settledAt declared) =
      (add file declarations declared).map settled := by
  obtain ⟨kind, node⟩ := declared
  cases kind with
  | option =>
      simp only [add, settledAt, Declaration.readOption_settled]
      cases Declaration.readOption file node <;> rfl
  | group =>
      simp only [add, settledAt, Declaration.textUnder_settled_one]
      cases Declaration.textUnder file node "macro" with
      | error error => rfl
      | ok name =>
          exact congrArg (fun groups => Except.ok { declarations.settled with groups := groups })
            (settledGroups_put declarations.groups (name.getD "") ⟨file, node⟩)
  | template =>
      have htemplates : (declarations.templates ++ [Declaration.mk file node]).map
          Declaration.settled = declarations.settled.templates ++
            [(Declaration.mk file node).settled] := List.map_append
      exact congrArg (fun templates => Except.ok
        { declarations.settled with templates := templates }) htemplates.symm
  | inclusion => rfl

/-- Declarations are collected from documents that are arranged in some way first. -/
def collectAs (arrange : Node → Node) (fs : Files) : Nat → List Location → String → Option Node →
    Declarations → Except Error Declarations
  | 0, _, file, _, _ => .error (RecipeFault.recursiveInclude file).error
  | depth + 1, path, file, root, found => do
      let declared ← classifyAll file (root.map arrange)
      let included := declared.filter fun declaration => declaration.1 = .inclusion
      let found ← included.foldlM
        (fun found declaration => do
          let included ← openIncluded fs path file declaration.2
          collectAs arrange fs depth (included.location :: path) included.path included.root found)
        found
      declared.foldlM (add file) found

theorem collectAs_id (fs : Files) : collectAs id fs = collect fs := by
  funext depth
  induction depth with
  | zero => rfl
  | succ depth ih =>
      funext path file root found
      rw [collectAs, collect, ih, Option.map_id, id]

/-- From settled documents settled declarations are collected. -/
theorem collectAs_settled (fs : Files) (depth : Nat) (path : List Location) (file : String)
    (root : Option Node) (found : Declarations) :
    collectAs Node.settledDocument fs depth path file root found.settled =
      (collect fs depth path file root found).map settled := by
  induction depth generalizing path file root found with
  | zero => rfl
  | succ depth ih =>
      -- Included files are collected before the declarations of this one, with a smaller depth.
      have hincluded (declared : List (DeclarationKind × Node)) :
          (declared.map settledAt).filter (fun declaration => declaration.1 = .inclusion) =
            (declared.filter fun declaration => declaration.1 = .inclusion).map settledAt := by
        rw [List.filter_map]
        rfl
      have hstep (found : Declarations) (declaration : DeclarationKind × Node) :
          (do
            let included ← openIncluded fs path file (settledAt declaration).2
            collectAs Node.settledDocument fs depth (included.location :: path) included.path
              included.root found.settled) =
          (do
            let included ← openIncluded fs path file declaration.2
            collect fs depth (included.location :: path) included.path included.root found).map
              settled := by
        rw [settledAt, openIncluded_settled]
        cases openIncluded fs path file declaration.2 with
        | error error => rfl
        | ok included => exact ih _ _ _ _
      rw [collectAs, collect, classifyAll_settled]
      refine bind_map_comm fun declared => ?_
      simp only [hincluded]
      rw [foldlM_map_comm hstep]
      exact bind_map_comm fun found => foldlM_map_comm (add_settled file) declared found

/-- The declarations of a recipe whose documents are arranged in some way first. -/
def ofTextAs (arrange : Node → Node) (fs : Files) (location : Option Location)
    (file text : String) : Except Error Declarations := do
  let root ← readDocument file text
  collectAs arrange fs (fs.files.length + 1) location.toList file root {}

theorem ofTextAs_id (fs : Files) (location : Option Location) (file text : String) :
    ofTextAs id fs location file text = ofText fs location file text := by
  rw [ofTextAs, ofText, collectAs_id]

theorem ofTextAs_settled (fs : Files) (location : Option Location) (file text : String) :
    ofTextAs Node.settledDocument fs location file text =
      (ofText fs location file text).map settled := by
  rw [ofTextAs, ofText]
  cases readDocument file text with
  | error error => rfl
  | ok root => exact collectAs_settled fs _ _ file root {}

/-- A node lies in a template or a group of a text, or of the files that the text includes. -/
def InText (fs : Files) (location : Option Location) (file text : String) (part : Node) : Prop :=
  ∃ declarations, ofText fs location file text = .ok declarations ∧ declarations.Has part

/-- A node lies in a template or a group of a file, or of the files that it includes. -/
def InFile (fs : Files) (path : String) (part : Node) : Prop :=
  ∃ location text, fs.read path = .ok (location, text) ∧
    InText fs (some location) path text part

end Declarations

namespace Recipe

/-- A recipe in a text, with all documents arranged in some way first. -/
def ofTextAs (arrange : Node → Node) (fs : Files) (file text : String) : Except Error Recipe := do
  ofDeclarations file (← Declarations.ofTextAs arrange fs none file text)

/-- A recipe in a file, with all documents arranged in some way first. -/
def ofFileAs (arrange : Node → Node) (fs : Files) (path : String) : Except Error Recipe :=
  match fs.read path with
  | .error refusal => .error refusal.error
  | .ok (location, text) => do
      ofDeclarations path (← Declarations.ofTextAs arrange fs (some location) path text)

theorem ofTextAs_id (fs : Files) (file text : String) :
    ofTextAs id fs file text = ofText fs file text := by
  rw [ofTextAs, ofText, Declarations.ofTextAs_id]

theorem ofFileAs_id (fs : Files) (path : String) : ofFileAs id fs path = ofFile fs path := by
  unfold ofFileAs ofFile
  cases fs.read path with
  | error refusal => rfl
  | ok found => simp only [Declarations.ofTextAs_id]

/-- A recipe of settled documents is the same, or a check complains astray. -/
theorem ofDeclarations_ofTextAs (fs : Files) (location : Option Location) (file text : String) :
    Settles (Declarations.InText fs location file text)
      (Declarations.ofText fs location file text >>= ofDeclarations file)
      (Declarations.ofTextAs Node.settledDocument fs location file text >>=
        ofDeclarations file) := by
  rw [Declarations.ofTextAs_settled]
  cases hdeclarations : Declarations.ofText fs location file text with
  | error error => exact .same _
  | ok declarations =>
      exact (ofDeclarations_settles file declarations).imp
        fun _ hpart => ⟨declarations, hdeclarations, hpart⟩

/-- A recipe records the same lines, and its errors are at the same ones, as if its documents were
settled: what is reached through an alias counts as written on the line of the innermost construct
around the alias, and nothing in it is recorded on another line. Two checks differ. They report a
key that an object may not have, or a text that is none, at the first line if the object is reached
through an alias. -/
theorem lines_settle (fs : Files) :
    (∀ file text, Settles (Declarations.InText fs none file text) (ofText fs file text)
      (ofTextAs Node.settledDocument fs file text)) ∧
    (∀ path, Settles (Declarations.InFile fs path) (ofFile fs path)
      (ofFileAs Node.settledDocument fs path)) ∧
    ∀ declared file around (node : Node),
      Reading.LiesAround declared file around node.unplaced := by
  refine ⟨fun file text => ofDeclarations_ofTextAs fs none file text, fun path => ?_,
    Reading.unplaced_liesAround⟩
  unfold ofFile ofFileAs
  cases hread : fs.read path with
  | error refusal => exact .same _
  | ok found =>
      exact (ofDeclarations_ofTextAs fs (some found.1) path found.2).imp
        fun _ hpart => ⟨found.1, found.2, hread, hpart⟩

end Recipe

/-- A recipe with a child record whose nickname is a list, and with a friend that is an alias of the
record. -/
def Recipe.friendBehindAlias : String :=
  "- macro: m\n  fields:\n    f: &bad\n      object: A\n      nickname: [x]\n" ++
    "- object: B\n  friends:\n    - *bad\n"

namespace Yaml.Construct

/-- A record whose nickname is a list. -/
def listedNickname : Construct :=
  .mapping 4 1 [(.scalar 4 true "object" 0, .scalar 4 true "A" 0),
    (.scalar 5 true "nickname" 0, .sequence 5 0 [.scalar 5 true "x" 0] 5)] 6

/-- What the recipe writes. -/
def friendBehindAlias : Construct :=
  .sequence 1 0 [
    .mapping 1 0 [(.scalar 1 true "macro" 0, .scalar 1 true "m" 0),
      (.scalar 2 true "fields" 0, .mapping 3 0 [(.scalar 3 true "f" 0, listedNickname)] 6)] 6,
    .mapping 6 0 [(.scalar 6 true "object" 0, .scalar 6 true "B" 0),
      (.scalar 7 true "friends" 0, .sequence 8 0 [.aliasOf 8 1] 9)] 9] 9

-- The scanner takes a few steps for every character of the text.
set_option maxRecDepth 4000 in
theorem events_friendBehindAlias :
    Event.ofText Recipe.friendBehindAlias = .ok friendBehindAlias.events := by
  cbv

end Yaml.Construct

namespace Yaml.Node

/-- A plain scalar. -/
def word (line : Nat) (content : String) : Node := Construct.scalarNode line true content

/-- A record whose nickname is a list. -/
def listedNickname : Node :=
  .mapping (some 4) [(word 4 "object", word 4 "A"),
    (word 5 "nickname", .sequence (some 5) [word 5 "x"])]

/-- What the recipe stands for. -/
def friendBehindAlias : Node :=
  .sequence (some 1) [
    .mapping (some 1) [(word 1 "macro", word 1 "m"),
      (word 2 "fields", .mapping (some 3) [(word 3 "f", listedNickname)])],
    .mapping (some 6) [(word 6 "object", word 6 "B"),
      (word 7 "friends", .sequence (some 8) [listedNickname.unplaced])]]

theorem ofText_friendBehindAlias :
    ofText Recipe.friendBehindAlias = .ok (some friendBehindAlias) := by
  have hnode : ofEvents Construct.friendBehindAlias.events = some friendBehindAlias := rfl
  rw [ofText, Construct.events_friendBehindAlias, Except.map, hnode]

end Yaml.Node

/-- The nickname of the friend is reported at the first line, although the list of friends around
the alias begins at line eight. -/
theorem Recipe.friendBehindAlias_astray :
    let fault := RecipeFault.notText "nickname" "list"
    ofText ⟨[], []⟩ "recipe.yml" friendBehindAlias = .error (fault.errorAt "recipe.yml" 1) ∧
      ofTextAs Node.settledDocument ⟨[], []⟩ "recipe.yml" friendBehindAlias =
        .error (fault.errorAt "recipe.yml" 8) := by
  have hread : Declarations.readDocument "recipe.yml" friendBehindAlias =
      .ok (some Node.friendBehindAlias) := by
    unfold Declarations.readDocument
    rw [Node.ofText_friendBehindAlias]
  constructor
  · unfold ofText Declarations.ofText
    rw [hread]
    rfl
  · unfold ofTextAs Declarations.ofTextAs
    rw [hread]
    rfl

end RecordRecipe
