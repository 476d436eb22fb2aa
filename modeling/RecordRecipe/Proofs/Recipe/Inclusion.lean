import Mathlib
import RecordRecipe.Proofs.Recipe.Faults
import RecordRecipe.Proofs.Yaml.Construct

/-!
# Trees of included files

Files are collected by a search that is bounded by the number of files. `Collects` is the search
without the bound: a document leads to the files that it includes, and a file that is on the way
already is refused. The bound cuts nothing off, so every such search ends, also where files include
each other in a circle, and it ends in the one result that the bounded search gives.

What a search has found is read off a tree that knows nothing of bounds or of files on the way:
`IncludeTree.Fits` says which tree the files make up, and `IncludeTree.contents` puts the
declarations of included files before those of the file that includes them. The main result is
`Recipe.inclusions_flatten`.
-/

namespace RecordRecipe

open Yaml (Node)

namespace Declarations

/-- The declarations of a document that name files to include. -/
def inclusions (declared : List (DeclarationKind × Node)) : List (DeclarationKind × Node) :=
  declared.filter fun declaration => declaration.1 = .inclusion

/-- A search for declarations adds what it finds to others. -/
abbrev Search := Declarations → Except Error Declarations

/-- The search in a document, given how to search the files that it includes. -/
def searchWith (fs : Files) (path : List Location) (file : String) (root : Option Node)
    (inner : Included → Search) : Search := fun found => do
  let declared ← classifyAll file root
  let found ← (inclusions declared).foldlM
    (fun found declaration => do inner (← openIncluded fs path file declaration.2) found) found
  declared.foldlM (add file) found

/-- A document includes a file that can be opened: it is there and not on the way already. -/
def Opens (fs : Files) (path : List Location) (file : String) (root : Option Node)
    (included : Included) : Prop :=
  ∃ declared, classifyAll file root = .ok declared ∧
    ∃ declaration ∈ inclusions declared, openIncluded fs path file declaration.2 = .ok included

/-- The search in a document, and in every file that it opens, without a bound. A derivation is
finite, so a search that has one ends. -/
inductive Collects (fs : Files) : List Location → String → Option Node → Search → Prop where
  | document {path file root} {inner : Included → Search} :
      (∀ included, Opens fs path file root included →
        Collects fs (included.location :: path) included.path included.root (inner included)) →
      Collects fs path file root (searchWith fs path file root inner)

variable {fs : Files} {path : List Location} {file : String} {root : Option Node}

/-- A search depends only on those of the files that are opened. -/
theorem searchWith_congr {inner other : Included → Search}
    (h : ∀ included, Opens fs path file root included → inner included = other included) :
    searchWith fs path file root inner = searchWith fs path file root other := by
  funext found
  unfold searchWith
  cases hdeclared : classifyAll file root with
  | error error => rfl
  | ok declared =>
      have hstep : ∀ declaration ∈ inclusions declared, ∀ found,
          (do inner (← openIncluded fs path file declaration.2) found) =
            (do other (← openIncluded fs path file declaration.2) found) := by
        intro declaration hdeclaration found
        cases hopened : openIncluded fs path file declaration.2 with
        | error error => rfl
        | ok included =>
            exact congrFun (h included ⟨declared, hdeclared, declaration, hdeclaration, hopened⟩)
              found
      have hall : ∀ entries ⊆ inclusions declared, ∀ found,
          entries.foldlM (fun found declaration => do
            inner (← openIncluded fs path file declaration.2) found) found =
          entries.foldlM (fun found declaration => do
            other (← openIncluded fs path file declaration.2) found) found := by
        intro entries
        induction entries with
        | nil => exact fun _ _ => rfl
        | cons first rest ih =>
            intro hentries found
            obtain ⟨hfirst, hrest⟩ := List.cons_subset.mp hentries
            rw [List.foldlM_cons, List.foldlM_cons, hstep first hfirst]
            exact congrArg _ (funext (ih hrest))
      exact congrArg (· >>= declared.foldlM (add file)) (hall _ (List.Subset.refl _) found)

/-- A search without a bound ends in one way only. -/
theorem Collects.unique {search other : Search} (h : Collects fs path file root search)
    (hother : Collects fs path file root other) : search = other := by
  induction h generalizing other with
  | document _ ih =>
      cases hother with
      | document hinner =>
          exact searchWith_congr fun included hopens => ih included hopens (hinner included hopens)

/-- The bound on a search cuts nothing off. -/
theorem collect_collects {depth : Nat} (hway : Way fs path)
    (hdepth : fs.files.length < depth + path.length) :
    Collects fs path file root (collect fs depth path file root) := by
  induction depth generalizing path file root with
  | zero =>
      have hlength := hway.length_le
      omega
  | succ depth ih =>
      have hinner : ∀ included, Opens fs path file root included →
          Collects fs (included.location :: path) included.path included.root
            (collect fs depth (included.location :: path) included.path included.root) := by
        rintro included ⟨_, _, _, _, hopened⟩
        refine ih (hway.cons (openIncluded_gives.of_eq_ok hopened)) ?_
        rw [List.length_cons]
        omega
      exact .document hinner

/-- The search for the declarations of a text has one end, and that is what the bounded search
gives. -/
def SearchEnds (fs : Files) (location : Option Location) (file text : String) : Prop :=
  ∀ root, readDocument file text = .ok root →
    ∃ search, Collects fs location.toList file root search ∧
      (∀ other, Collects fs location.toList file root other → other = search) ∧
      ofText fs location file text = search {}

theorem ofText_eq_collect {location : Option Location} {text : String}
    (hroot : readDocument file text = .ok root) :
    ofText fs location file text =
      collect fs (fs.files.length + 1) location.toList file root {} := by
  rw [ofText, hroot]
  rfl

theorem searchEnds {location : Option Location} {text : String}
    (h : ∀ here ∈ location, here ∈ fs.files.map Prod.fst) :
    SearchEnds fs location file text := by
  intro root hroot
  have hcollects : Collects fs location.toList file root
      (collect fs (fs.files.length + 1) location.toList file root) :=
    collect_collects (Way.start h) (by omega)
  exact ⟨_, hcollects, fun other hother => hother.unique hcollects, ofText_eq_collect hroot⟩

end Declarations

namespace Declaration

/-- The name of the group that a declaration declares. -/
def groupName (declaration : Declaration) : String :=
  ((textUnder declaration.file declaration.node "macro").toOption.bind id).getD ""

end Declaration

namespace Declarations

/-- The declarations of a kind in a list. -/
def ofKind (kind : DeclarationKind) (contents : List (DeclarationKind × Declaration)) :
    List Declaration :=
  (contents.filter fun entry => entry.1 = kind).map Prod.snd

@[simp] theorem ofKind_append (kind : DeclarationKind)
    (contents others : List (DeclarationKind × Declaration)) :
    ofKind kind (contents ++ others) = ofKind kind contents ++ ofKind kind others := by
  simp [ofKind]

/-- A search has added some declarations in their order to what had been found before. -/
structure Adds (contents : List (DeclarationKind × Declaration)) (found result : Declarations) :
    Prop where
  options : result.options.map Except.ok = found.options.map Except.ok ++
    (ofKind .option contents).map fun entry => Declaration.readOption entry.file entry.node
  templates : result.templates = found.templates ++ ofKind .template contents
  groups : result.groups =
    Assoc.putAll ((ofKind .group contents).map fun entry => (entry.groupName, entry)) found.groups

namespace Adds

variable {contents others : List (DeclarationKind × Declaration)}
  {found middle result : Declarations}

theorem refl : Adds [] found found := ⟨by simp [ofKind], by simp [ofKind], rfl⟩

theorem trans (h : Adds contents found middle) (hothers : Adds others middle result) :
    Adds (contents ++ others) found result where
  options := by rw [hothers.options, h.options, ofKind_append, List.map_append, List.append_assoc]
  templates := by rw [hothers.templates, h.templates, ofKind_append, List.append_assoc]
  groups := by
    rw [hothers.groups, h.groups, ofKind_append, List.map_append, Assoc.putAll, Assoc.putAll,
      Assoc.putAll, List.foldl_append]

end Adds

variable {file : String} {found result : Declarations}

/-- One declaration is added. -/
theorem adds_add {declared : DeclarationKind × Node} (h : add file found declared = .ok result) :
    Adds [(declared.1, ⟨file, declared.2⟩)] found result := by
  obtain ⟨kind, node⟩ := declared
  cases kind with
  | option =>
      obtain ⟨option, hoption, hresult⟩ := bind_eq_ok h
      cases hresult
      exact ⟨by simp [ofKind, hoption], by simp [ofKind], rfl⟩
  | group =>
      obtain ⟨name, hname, hresult⟩ := bind_eq_ok h
      cases hresult
      have hgroup : (Declaration.mk file node).groupName = name.getD "" := by
        rw [Declaration.groupName, hname]
        rfl
      exact ⟨by simp [ofKind], by simp [ofKind], by simp [ofKind, hgroup, Assoc.putAll]⟩
  | template =>
      cases h
      exact ⟨by simp [ofKind], by simp [ofKind], rfl⟩
  | inclusion =>
      cases h
      exact ⟨by simp [ofKind], by simp [ofKind], rfl⟩

/-- The declarations of a document are added in their order. -/
theorem adds_foldlM {declared : List (DeclarationKind × Node)}
    (h : declared.foldlM (add file) found = .ok result) :
    Adds (declared.map fun entry => (entry.1, ⟨file, entry.2⟩)) found result := by
  induction declared generalizing found with
  | nil =>
      cases h
      exact .refl
  | cons first rest ih =>
      rw [List.foldlM_cons] at h
      obtain ⟨middle, hfirst, hrest⟩ := bind_eq_ok h
      exact (adds_add hfirst).trans (ih hrest)

end Declarations

/-- A file, what it declares, and the files that it includes. -/
inductive IncludeTree where
  | file (path : String) (location : Location) (declared : List (DeclarationKind × Node))
      (included : List IncludeTree)

namespace IncludeTree

/-- The path by which the file is read. -/
def path : IncludeTree → String
  | file path _ _ _ => path

mutual

/-- The declarations of the files that a file includes, in order, and then its own. -/
def contents : IncludeTree → List (DeclarationKind × Declaration)
  | file path _ declared included =>
      contentsAll included ++ declared.map fun entry => (entry.1, ⟨path, entry.2⟩)

/-- The declarations of some files, in order. -/
def contentsAll : List IncludeTree → List (DeclarationKind × Declaration)
  | [] => []
  | first :: rest => contents first ++ contentsAll rest

end

/-- The declarations of a kind. -/
def contentsOf (kind : DeclarationKind) (tree : IncludeTree) : List Declaration :=
  Declarations.ofKind kind tree.contents

/-- Locations of files each of which includes the next one. -/
inductive Chain : IncludeTree → List Location → Prop where
  | last {path location declared included} : Chain (file path location declared included) [location]
  | next {path location declared included tree locations} : tree ∈ included →
      Chain tree locations → Chain (file path location declared included) (location :: locations)

/-- A declaration in a file names another file, by a path that starts where the first one lies. -/
def Includes (path : String) (declared : DeclarationKind × Node) (tree : IncludeTree) : Prop :=
  ∃ relative, Declaration.textUnder path declared.2 "include_file" = .ok relative ∧
    tree.path = Path.join (Path.parent path) (relative.getD "")

/-- The files are there and have these declarations, which include these files. -/
inductive Fits (fs : Files) : IncludeTree → Prop where
  | file {path location text root declared included} :
      fs.read path = .ok (location, text) →
      Declarations.readDocument path text = .ok root →
      Declarations.classifyAll path root = .ok declared →
      List.Forall₂ (Includes path) (Declarations.inclusions declared) included →
      (∀ tree ∈ included, Fits fs tree) →
      Fits fs (file path location declared included)

theorem eq_of_includes {path : String} {declared : List (DeclarationKind × Node)}
    {trees others : List IncludeTree} (h : List.Forall₂ (Includes path) declared trees)
    (hothers : List.Forall₂ (Includes path) declared others)
    (hsame : ∀ tree ∈ trees, ∀ other ∈ others, tree.path = other.path → tree = other) :
    trees = others := by
  induction h generalizing others with
  | nil =>
      cases hothers
      rfl
  | cons hfirst _ ih =>
      cases hothers with
      | cons hother hothers =>
          obtain ⟨relative, hrelative, hpath⟩ := hfirst
          obtain ⟨_, hagain, hotherPath⟩ := hother
          obtain rfl := Except.ok.inj (hrelative.symm.trans hagain)
          congr 1
          · exact hsame _ List.mem_cons_self _ List.mem_cons_self (hpath.trans hotherPath.symm)
          · refine ih hothers fun tree htree other hother => ?_
            exact hsame tree (List.mem_cons_of_mem _ htree) other (List.mem_cons_of_mem _ hother)

/-- The files make up one tree at every path. -/
theorem Fits.unique {fs : Files} {tree other : IncludeTree} (h : tree.Fits fs)
    (hother : other.Fits fs) (hpath : tree.path = other.path) : tree = other := by
  induction h generalizing other with
  | file hread hroot hdeclared hincludes _ ih =>
      cases hother with
      | file hreadOther hrootOther hdeclaredOther hincludesOther hfits =>
          obtain rfl : _ = _ := hpath
          obtain ⟨rfl, rfl⟩ := Prod.mk.inj (Except.ok.inj (hread.symm.trans hreadOther))
          obtain rfl := Except.ok.inj (hroot.symm.trans hrootOther)
          obtain rfl := Except.ok.inj (hdeclared.symm.trans hdeclaredOther)
          congr 1
          exact eq_of_includes hincludes hincludesOther fun tree htree other hother =>
            ih tree htree (hfits other hother)

/-- No file that is on the way already lies on a chain, and none lies on it twice. -/
def Fresh (path : List Location) (tree : IncludeTree) : Prop :=
  ∀ chain, tree.Chain chain → chain.Nodup ∧ ∀ location ∈ chain, location ∉ path

theorem Fresh.file {file : String} {path : List Location} {location : Location}
    {declared : List (DeclarationKind × Node)} {included : List IncludeTree}
    (hnew : location ∉ path) (h : ∀ tree ∈ included, tree.Fresh (location :: path)) :
    (IncludeTree.file file location declared included).Fresh path := by
  intro chain hchain
  cases hchain with
  | last => exact ⟨List.nodup_singleton location, by simpa using hnew⟩
  | next htree hrest =>
      obtain ⟨hnodup, haway⟩ := h _ htree _ hrest
      refine ⟨List.nodup_cons.mpr ⟨fun hagain => ?_, hnodup⟩, ?_⟩
      · exact haway location hagain List.mem_cons_self
      · intro other hother
        rcases List.mem_cons.mp hother with rfl | hother
        · exact hnew
        · exact fun hpath => haway other hother (List.mem_cons_of_mem _ hpath)

end IncludeTree

namespace Declarations

variable {fs : Files} {path : List Location} {file : String} {found result : Declarations}

/-- What a search has found in a document is what the trees of the included files hold, and then
what the document declares. -/
structure Flattens (fs : Files) (path : List Location) (file : String)
    (declared : List (DeclarationKind × Node)) (found result : Declarations)
    (included : List IncludeTree) : Prop where
  includes : List.Forall₂ (IncludeTree.Includes file) declared included
  fits : ∀ tree ∈ included, tree.Fits fs
  fresh : ∀ tree ∈ included, tree.Fresh path
  adds : Adds (IncludeTree.contentsAll included) found result

theorem Collects.flattens {root : Option Node} {search : Search}
    (h : Collects fs path file root search) (hsearch : search found = .ok result) :
    ∃ declared middle included, classifyAll file root = .ok declared ∧
      Flattens fs path file (inclusions declared) found middle included ∧
      Adds (declared.map fun entry => (entry.1, ⟨file, entry.2⟩)) middle result := by
  induction h generalizing found result with
  | @document path file root inner _ ih =>
      obtain ⟨declared, hdeclared, hsearch⟩ := bind_eq_ok hsearch
      obtain ⟨middle, hincluded, hown⟩ := bind_eq_ok hsearch
      -- The included files are searched one after the other; each search is a smaller derivation.
      have hall : ∀ entries ⊆ inclusions declared, ∀ found,
          entries.foldlM (fun found declaration => do
            inner (← openIncluded fs path file declaration.2) found) found = .ok middle →
          ∃ included, Flattens fs path file entries found middle included := by
        intro entries
        induction entries with
        | nil =>
            intro _ found hfold
            cases hfold
            exact ⟨[], .nil, by simp, by simp, .refl⟩
        | cons first rest ihRest =>
            intro hentries found hfold
            obtain ⟨hfirst, hrest⟩ := List.cons_subset.mp hentries
            rw [List.foldlM_cons] at hfold
            obtain ⟨next, hnext, hfold⟩ := bind_eq_ok hfold
            obtain ⟨opened, hopened, hnext⟩ := bind_eq_ok hnext
            obtain ⟨hnamed, hnew, text, hread, hroot⟩ := openIncluded_gives.of_eq_ok hopened
            obtain ⟨theirs, inside, below, htheirs, hbelow, hadds⟩ :=
              ih opened ⟨declared, hdeclared, first, hfirst, hopened⟩ hnext
            obtain ⟨included, hrestIncluded⟩ := ihRest hrest next hfold
            let tree := IncludeTree.file opened.path opened.location theirs below
            refine ⟨tree :: included, .cons hnamed hrestIncluded.includes, ?_, ?_, ?_⟩
            · refine List.forall_mem_cons.mpr ⟨?_, hrestIncluded.fits⟩
              exact .file hread hroot htheirs hbelow.includes hbelow.fits
            · refine List.forall_mem_cons.mpr ⟨?_, hrestIncluded.fresh⟩
              exact .file hnew hbelow.fresh
            · exact (hbelow.adds.trans hadds).trans hrestIncluded.adds
      obtain ⟨included, hflattens⟩ := hall _ (List.Subset.refl _) found hincluded
      exact ⟨declared, middle, included, hdeclared, hflattens, adds_foldlM hown⟩

/-- What a search that starts at a file has found is what the tree of the file holds. -/
theorem ofText_flattens {location : Location} {text : String}
    (hread : fs.read file = .ok (location, text))
    (h : ofText fs (some location) file text = .ok result) :
    ∃ tree : IncludeTree, tree.path = file ∧ tree.Fits fs ∧ tree.Fresh [] ∧
      Adds tree.contents {} result := by
  obtain ⟨root, hroot, hcollect⟩ := bind_eq_ok h
  have hway : Way fs (some location).toList := .start (by simpa using mem_files_of_read hread)
  have hcollects : Collects fs [location] file root
      (collect fs (fs.files.length + 1) [location] file root) := collect_collects hway (by omega)
  obtain ⟨declared, middle, included, hdeclared, hflattens, hown⟩ := hcollects.flattens hcollect
  refine ⟨.file file location declared included, rfl, ?_, ?_, ?_⟩
  · exact .file hread hroot hdeclared hflattens.includes hflattens.fits
  · exact .file List.not_mem_nil hflattens.fresh
  · exact hflattens.adds.trans hown

end Declarations

namespace Reading

/-- The templates of some declarations are read one after the other. -/
theorem templates_forall {groups : GroupSource} {declarations : List Declaration}
    {templates : List Template} {kept later : Assoc FieldGroup}
    (h : Reading.templates groups declarations kept = (.ok templates, later)) :
    List.Forall₂ (fun declaration template => ∃ kept later,
      object groups declaration.file 1 declaration.node kept = (.ok template, later))
      declarations templates := by
  induction declarations generalizing templates kept with
  | nil =>
      cases h
      exact .nil
  | cons first rest ih =>
      obtain ⟨template, middle, hfirst, h⟩ := Action.bind_eq_ok h
      obtain ⟨others, _, hrest, h⟩ := Action.bind_eq_ok h
      cases h
      exact .cons ⟨kept, middle, hfirst⟩ (ih hrest)

end Reading

namespace Recipe

/-- A recipe has the options that are declared, and its templates are read from what is declared,
one after the other. -/
theorem ofDeclarations_reads {file : String} {declarations : Declarations} {recipe : Recipe}
    (h : ofDeclarations file declarations = .ok recipe) :
    recipe.options = declarations.options ∧
      List.Forall₂ (fun declaration template => ∃ kept later,
        Reading.object (Reading.findGroup declarations.groups) declaration.file 1
          declaration.node kept = (.ok template, later))
        declarations.templates recipe.templates := by
  unfold ofDeclarations at h
  dsimp only at h
  split at h
  next => cases h
  next templates groups hreading =>
    cases h
    obtain ⟨read, _, htemplates, hreading⟩ := Action.bind_eq_ok hreading
    obtain ⟨_, _, _, hreading⟩ := Action.bind_eq_ok hreading
    cases hreading
    exact ⟨rfl, Reading.templates_forall htemplates⟩

/-- The search for included files ends, also where files include each other. If a recipe is read
from a file, no file lies twice on a chain of included files. The options and templates are those
of the tree of included files, the files that a file includes coming before its own declarations;
of several groups of a name the last one in that order counts. -/
theorem inclusions_flatten (fs : Files) :
    (∀ file text, Declarations.SearchEnds fs none file text) ∧
    (∀ path location text, fs.read path = .ok (location, text) →
      Declarations.SearchEnds fs (some location) path text) ∧
    ∀ path recipe, ofFile fs path = .ok recipe →
      ∃ (tree : IncludeTree) (declarations : Declarations),
        tree.path = path ∧ tree.Fits fs ∧
        (∀ other : IncludeTree, other.path = path → other.Fits fs → other = tree) ∧
        (∀ chain, tree.Chain chain → chain.Nodup) ∧
        recipe.options.map Except.ok = (tree.contentsOf .option).map
          (fun declaration => Declaration.readOption declaration.file declaration.node) ∧
        declarations.templates = tree.contentsOf .template ∧
        List.Forall₂ (fun declaration template => ∃ kept later,
          Reading.object (Reading.findGroup declarations.groups) declaration.file 1
            declaration.node kept = (.ok template, later))
          (tree.contentsOf .template) recipe.templates ∧
        (∀ name, declarations.groups.find? name =
          ((tree.contentsOf .group).filter fun declaration =>
            declaration.groupName = name).getLast?) ∧
        ofDeclarations path declarations = .ok recipe := by
  refine ⟨fun file text => Declarations.searchEnds (by simp), fun path location text hread => ?_,
    fun path recipe hrecipe => ?_⟩
  · refine Declarations.searchEnds fun here hhere => ?_
    obtain rfl : location = here := by simpa using hhere
    exact Declarations.mem_files_of_read hread
  · unfold ofFile at hrecipe
    split at hrecipe
    next => cases hrecipe
    next location text hread =>
      obtain ⟨declarations, hcollected, hrecipe⟩ := bind_eq_ok hrecipe
      obtain ⟨tree, hpath, hfits, hfresh, hadds⟩ :=
        Declarations.ofText_flattens hread hcollected
      obtain ⟨hoptions, htemplates⟩ := ofDeclarations_reads hrecipe
      have hdeclared : declarations.templates = tree.contentsOf .template := hadds.templates
      refine ⟨tree, declarations, hpath, hfits,
        fun other hother hotherFits => hotherFits.unique hfits (hother.trans hpath.symm),
        fun chain hchain => (hfresh chain hchain).1, hoptions ▸ hadds.options, hdeclared,
        hdeclared ▸ htemplates, ?_, hrecipe⟩
      intro name
      rw [hadds.groups, Assoc.find?_putAll_reverse, Assoc.find?_reverse_map]
      exact Option.or_none

end Recipe

namespace Yaml

/-- A mapping with one entry, on a line of its own. -/
def Construct.keyed (line : Nat) (key value : String) : Construct :=
  .mapping line 0 [(.scalar line true key 0, .scalar line true value 0)] (line + 1)

/-- A mapping with one entry, on a line of its own. -/
def Node.keyed (line : Nat) (key value : String) : Node :=
  .mapping (some line)
    [(.scalar (some line) key (.text key), .scalar (some line) value (.text value))]

end Yaml

open Yaml (Construct Event)

theorem Declarations.readDocument_of_events {file text : String} {construct : Construct}
    {node : Node} (hevents : Event.ofText text = .ok construct.events)
    (hnode : Node.ofEvents construct.events = some node) :
    readDocument file text = .ok (some node) := by
  unfold readDocument Node.ofText
  rw [hevents, Except.map, hnode]

theorem Declarations.openIncluded_of_read {fs : Files} {path : List Location}
    {file target text relative : String} {line : Nat} {location : Location} {root : Option Node}
    (hrelative : Path.isAbsolute relative = false)
    (htarget : Path.join (Path.parent file) relative = target)
    (hread : fs.read target = .ok (location, text)) (hnew : location ∉ path)
    (hroot : readDocument target text = .ok root) :
    openIncluded fs path file (.keyed line "include_file" relative) =
      .ok ⟨target, location, root⟩ := by
  have hkeys : Declaration.checkKeys file .inclusion (.keyed line "include_file" relative) =
      .ok () := rfl
  have htext : Declaration.textUnder file (.keyed line "include_file" relative) "include_file" =
      .ok (some relative) := rfl
  unfold openIncluded
  rw [hkeys, htext]
  simp [bind, Except.bind, pure, Except.pure, hrelative, htarget, hread, hnew, hroot]

namespace Recipe

/-- A file that includes another one twice, and declares a template before. -/
def repeated : Files :=
  { files := [(["top"], "- object: B\n- include_file: a\n- include_file: a\n"),
      (["a"], "- object: A\n")] }

theorem ofFile_of_declarations {fs : Files} {path text : String} {location : Location}
    {declarations : Declarations} (hread : fs.read path = .ok (location, text))
    (hdeclarations : Declarations.ofText fs (some location) path text = .ok declarations) :
    ofFile fs path = ofDeclarations path declarations := by
  unfold ofFile
  rw [hread]
  dsimp only
  rw [hdeclarations]
  rfl

/-- What it declares. -/
def repeatedRecipe : Recipe :=
  { file := "top", options := [], groups := [], templates := [
      .mk "A" none none [] [] "a" 1, .mk "A" none none [] [] "a" 1,
      .mk "B" none none [] [] "top" 1] }

theorem ofFile_repeated : ofFile repeated "top" = .ok repeatedRecipe := by
  have hevents : Event.ofText "- object: B\n- include_file: a\n- include_file: a\n" =
      .ok (Construct.sequence 1 0 [.keyed 1 "object" "B", .keyed 2 "include_file" "a",
        .keyed 3 "include_file" "a"] 4).events := by
    cbv
  have heventsIncluded : Event.ofText "- object: A\n" =
      .ok (Construct.sequence 1 0 [.keyed 1 "object" "A"] 2).events := by
    cbv
  have hopen (line : Nat) :
      Declarations.openIncluded repeated [["top"]] "top" (.keyed line "include_file" "a") =
        .ok ⟨"a", ["a"], some (.sequence (some 1) [.keyed 1 "object" "A"])⟩ := by
    have hroot : Declarations.readDocument "a" "- object: A\n" =
        .ok (some (.sequence (some 1) [.keyed 1 "object" "A"])) :=
      Declarations.readDocument_of_events heventsIncluded rfl
    exact Declarations.openIncluded_of_read rfl rfl rfl (by decide) hroot
  have hread : repeated.read "top" =
      .ok (["top"], "- object: B\n- include_file: a\n- include_file: a\n") := rfl
  have hinner (found : Declarations) : Declarations.collect repeated 2 [["a"], ["top"]] "a"
      (some (.sequence (some 1) [.keyed 1 "object" "A"])) found =
      .ok { found with templates := found.templates ++ [⟨"a", .keyed 1 "object" "A"⟩] } := rfl
  have hcollect : Declarations.collect repeated 3 [["top"]] "top" (some (.sequence (some 1)
      [.keyed 1 "object" "B", .keyed 2 "include_file" "a", .keyed 3 "include_file" "a"])) {} =
      .ok { templates := [⟨"a", .keyed 1 "object" "A"⟩, ⟨"a", .keyed 1 "object" "A"⟩,
        ⟨"top", .keyed 1 "object" "B"⟩] } := by
    show Declarations.searchWith repeated [["top"]] "top" _ (fun included =>
      Declarations.collect repeated 2 (included.location :: [["top"]]) included.path
        included.root) {} = _
    have hclassified : Declarations.classifyAll "top" (some (.sequence (some 1)
        [.keyed 1 "object" "B", .keyed 2 "include_file" "a", .keyed 3 "include_file" "a"])) =
        .ok [(.template, .keyed 1 "object" "B"), (.inclusion, .keyed 2 "include_file" "a"),
          (.inclusion, .keyed 3 "include_file" "a")] := rfl
    unfold Declarations.searchWith
    rw [hclassified]
    simp [Declarations.inclusions, bind, Except.bind, pure, Except.pure, hopen, hinner,
      Declarations.add]
  have hroot : Declarations.readDocument "top"
      "- object: B\n- include_file: a\n- include_file: a\n" = .ok (some (.sequence (some 1)
        [.keyed 1 "object" "B", .keyed 2 "include_file" "a", .keyed 3 "include_file" "a"])) :=
    Declarations.readDocument_of_events hevents rfl
  have hdeclarations : Declarations.ofText repeated (some ["top"]) "top"
      "- object: B\n- include_file: a\n- include_file: a\n" =
      .ok { templates := [⟨"a", .keyed 1 "object" "A"⟩, ⟨"a", .keyed 1 "object" "A"⟩,
        ⟨"top", .keyed 1 "object" "B"⟩] } := by
    rw [Declarations.ofText_eq_collect hroot]
    exact hcollect
  rw [ofFile_of_declarations hread hdeclarations]
  rfl

/-- The included file contributes twice, and before the file that includes it. -/
theorem inclusions_flatten_repeated :
    ofFile repeated "top" = .ok repeatedRecipe ∧
    ∃ (tree : IncludeTree) (declarations : Declarations),
      tree.path = "top" ∧ (∀ chain, tree.Chain chain → chain.Nodup) ∧
      declarations.templates = tree.contentsOf .template ∧
      ofDeclarations "top" declarations = .ok repeatedRecipe := by
  obtain ⟨tree, declarations, hpath, -, -, hchains, -, htemplates, -, -, hrecipe⟩ :=
    (inclusions_flatten repeated).2.2 "top" repeatedRecipe ofFile_repeated
  exact ⟨ofFile_repeated, tree, declarations, hpath, hchains, htemplates, hrecipe⟩

end Recipe

end RecordRecipe
