import RecordRecipe.Function.Fault
import RecordRecipe.Proofs.Expr.Path

/-!
# Evaluating a path of two names

An expression that takes a field out of a variable gives the field of the row that the variable is.
Where the row lacks the field, its error tells so. `Program.evaluate_path` says this of the
definition that is a single value tag around the two names.
-/

namespace RecordRecipe

namespace Text

variable {mark : Char} {before behind : List Char}

/-- Characters are split at the first mark. -/
theorem splitOnce_append (h : mark ∉ before) :
    splitOnce mark (before ++ mark :: behind) = some (before, behind) := by
  induction before with
  | nil => simp [splitOnce]
  | cons c rest ih =>
      have hne : c ≠ mark := fun heq => h (by simp [heq])
      have hrest : mark ∉ rest := fun hmem => h (List.mem_cons_of_mem _ hmem)
      rw [List.cons_append, splitOnce, if_neg hne, ih hrest]
      rfl

/-- A piece ends at the first character that satisfies the test. -/
theorem splitWhere_append {test : Char → Bool} (hbefore : ∀ c ∈ before, test c = false)
    (hmark : test mark = true) :
    splitWhere test (before ++ mark :: behind) = before :: splitWhere test behind := by
  induction before with
  | nil => simp [splitWhere, hmark]
  | cons c rest ih =>
      have hrest : splitWhere test (rest ++ mark :: behind) = rest :: splitWhere test behind :=
        ih fun d hd => hbefore d (List.mem_cons_of_mem _ hd)
      have hc : test c = false := hbefore c (by simp)
      rw [List.cons_append, splitWhere, hc, hrest]
      rfl

end Text

namespace Expr

open RecordRecipe.Random (Generator)

variable {scope : Scope} {object field : String} {target : RowRef}

/-! ## Fields that rows lack -/

/-- A field that a row lacks is a name that stands for nothing. -/
theorem exists_name_of_missingRowField? {definition : String} {error : Error}
    (h : missingRowField? scope definition = some error) : ∃ message, error = .name message := by
  obtain ⟨path, _, hpath⟩ := List.exists_of_findSome?_eq_some h
  obtain ⟨mentioned, _, hmissing⟩ := Option.bind_eq_some_iff.mp hpath
  unfold missingField? at hmissing
  split at hmissing
  next =>
    split at hmissing
    next => cases hmissing
    next =>
      cases hmissing
      exact ⟨_, rfl⟩
  next => cases hmissing

/-- The error of a fault has the kind of the fault and no place, also where a missing field explains
it. -/
theorem evaluationError_eq (scope : Scope) (definition : String) (fault : Fault) :
    ∃ message, evaluationError scope definition fault =
      .unplaced fault.kind.errorKind message := by
  unfold evaluationError
  by_cases hkind : fault.kind = .undefinedValue
  · rw [if_pos hkind]
    cases hmissing : missingRowField? scope definition with
    | none => exact ⟨_, rfl⟩
    | some error =>
        obtain ⟨message, rfl⟩ := exists_name_of_missingRowField? hmissing
        exact ⟨message, by rw [hkind]; rfl⟩
  · rw [if_neg hkind]
    exact ⟨_, rfl⟩

/-- The characters of names are letters and digits, and lines. -/
theorem isAlphanumeric_of_isNameChar {c : Char} (h : isNameChar c = true) :
    (Text.isAlphanumeric c || decide (c = '_')) = true := by
  by_cases hline : c = '_'
  · simp [hline]
  · have halphanum : c.isAlphanum = true := by simpa [isNameChar, hline] using h
    have hkinds : c.isAlpha = true ∨ c.isDigit = true := Bool.or_eq_true_iff.mp halphanum
    have hsmall : c.toNat < 128 := by
      rcases hkinds with halpha | hdigit
      · have hrange := isAlpha_range halpha
        omega
      · have hrange := isDigit_iff.mp hdigit
        omega
    have hword : Text.isAlphanumeric c = true := by
      unfold Text.isAlphanumeric
      rw [if_pos hsmall, halphanum]
    rw [hword, Bool.true_or]

/-- No name holds a point. -/
theorem IsName.point_not_mem {name : String} (h : IsName name) : '.' ∉ name.toList := by
  intro hmem
  have hpoint : isNameChar '.' = true := List.all_eq_true.mp h.chars '.' hmem
  exact absurd hpoint (by decide)

/-- The path of two names mentions the object and the field. -/
theorem fieldPath?_path (hobject : IsName object) (hfield : IsName field) :
    fieldPath? (object ++ "." ++ field).toList = some (object, field) := by
  have hsome : field.toList.isEmpty = false := by
    cases hempty : field.toList with
    | nil =>
        have hstart := hfield.start
        rw [hempty] at hstart
        cases hstart
    | cons => rfl
  unfold fieldPath?
  rw [toList_path, Text.splitOnce_append hobject.point_not_mem]
  simp [hsome, hfield.point_not_mem]

/-- In a tag around a path of two names, it is the field of this path that may be missing. -/
theorem missingRowField?_path (hobject : IsName object) (hfield : IsName field) :
    missingRowField? scope (pathDefinition object field) = missingField? scope object field := by
  have hchars : (pathDefinition object field).toList = [] ++ '<' ::
      ([] ++ '<' :: ((object ++ "." ++ field).toList ++ '>' :: ([] ++ '>' :: []))) :=
    toList_pathDefinition
  have hinside : ∀ c ∈ (object ++ "." ++ field).toList,
      (!(Text.isAlphanumeric c || decide (c = '_') || decide (c = '.'))) = false := by
    intro c hc
    rcases isNameChar_or_of_mem_path hobject hfield c hc with hname | rfl
    · rw [isAlphanumeric_of_isNameChar hname]
      rfl
    · rfl
  have hpath := fieldPath?_path hobject hfield
  unfold missingRowField?
  generalize object ++ "." ++ field = inner at hchars hinside hpath
  dsimp only
  rw [hchars, Text.splitWhere_append (by simp) (by decide),
    Text.splitWhere_append (by simp) (by decide), Text.splitWhere_append hinside (by decide),
    Text.splitWhere_append (by simp) (by decide)]
  have hnothing : fieldPath? [] = none := rfl
  simp only [Text.splitWhere, List.findSome?_cons, hnothing, hpath,
    Option.bind_none, Option.bind_some]
  cases missingField? scope object field <;> rfl

/-! ## Evaluating paths -/

/-- What an expression finds under the name of a field in a row. -/
def found (scope : Scope) (target : RowRef) (field : String) : Value :=
  ((scope.fieldOf target field).map Value.ofField).getD .missing

/-- What an expression gives that a field's value has passed through. -/
def passed (value : FieldValue) : Except Error FieldValue :=
  (Value.ofField value).toField.map settle

/-- A field's value passes through an expression. Texts that are numbers and floats that are whole
may come out as numbers and integers, and nothing else changes. -/
theorem passed_ok (value : FieldValue) :
    ∃ result, passed value = .ok result ∧
      ((∀ content, value ≠ .text content) → (∀ x, value ≠ .float x) → result = value) := by
  cases value with
  | null | bool | date | moment | row => exact ⟨_, rfl, fun _ _ => rfl⟩
  | text content => exact ⟨_, rfl, fun htext _ => absurd rfl (htext content)⟩
  | float x =>
      have hfield : ∃ field, (Value.ofField (.float x)).toField = .ok field := by
        unfold Value.ofField Value.toField
        dsimp only
        cases (Number.ofFloat x).int? <;> exact ⟨_, rfl⟩
      obtain ⟨field, hfield⟩ := hfield
      refine ⟨settle field, ?_, fun _ hfloat => absurd rfl (hfloat x)⟩
      unfold passed
      rw [hfield]
      rfl
  | int n =>
      have hfits : Numeral.fitsInt64 n.toInt = true := by
        unfold Numeral.fitsInt64
        have hlow := n.le_toInt
        have hhigh := n.toInt_lt
        simp only [Bool.and_eq_true, decide_eq_true_eq]
        constructor
        · exact hlow
        · exact hhigh
      refine ⟨.int n, ?_, fun _ _ => rfl⟩
      show Except.ok (settle (if Numeral.fitsInt64 n.toInt then .ofInt n.toInt else _)) = _
      rw [if_pos hfits, FieldValue.ofInt, Int64.ofInt_toInt]
      rfl

namespace Evaluation

variable {α β : Type} {first : Evaluation α} {next : α → Evaluation β} {store between : Store}
  {a : α}

/-- What follows something that succeeds goes on from its store. -/
theorem bind_of_eq_ok (h : first store = .ok a between) :
    (first >>= next) store = next a between := by
  show EStateM.bind first next store = _
  unfold EStateM.bind
  rw [h]

/-- A variable of the scope that no frame hides. -/
theorem lookup?_scope {name : String} {value : Value} (hframes : inFrames? name store.frames = none)
    (hwithin : store.within = none) (hvalue : scope.valueOf? name = some value) :
    lookup? scope name store = .ok (some value) store := by
  show EStateM.Result.ok (inFrames? name store.frames <|> (store.within.bind _ <|>
    scope.valueOf? name) <|> _) _ = _
  rw [hframes, hwithin, hvalue]
  rfl

/-- What is found in a row is no space of variables. -/
theorem resolve_found : resolve (found scope target field) = pure (found scope target field) := by
  unfold found
  cases scope.fieldOf target field with
  | none => rfl
  | some value => cases value <;> rfl

/-- The term for a field of a variable that is a row. -/
theorem term_field {handler : Handler} (hframes : inFrames? object store.frames = none)
    (hwithin : store.within = none) (hrow : scope.valueOf? object = some (.row target)) :
    term scope handler (.field (.name object) field) store =
      .ok (found scope target field) store := by
  have hobject : term scope handler (.name object) store = .ok (.row target) store :=
    bind_of_eq_ok (lookup?_scope hframes hwithin hrow)
  show (term scope handler (.name object) >>= _) store = _
  rw [bind_of_eq_ok hobject]
  show orMissing (.row target) ((scope.fieldOf target field).map Value.ofField) store = _
  unfold found
  cases scope.fieldOf target field <;> rfl

end Evaluation

/-- A definition that is a single value tag gives the value of its term. -/
theorem runBody_result {definition : String} {generator : Generator} {term : Term} {value : Value}
    (hterm : Evaluation.term scope (Evaluation.handler scope Evaluation.depthLimit) term
      { generator } = .ok value { generator })
    (hresolve : Evaluation.resolve value = pure value) :
    runBody scope definition [.set (.name resultName) term] generator =
      (.ok (value, ""), generator) := by
  -- The store in which the result has been set.
  let after : Store := { generator, frames := [{ locals := [(resultName, value)] }] }
  have hset : Evaluation.template scope [.set (.name resultName) term] { generator } =
      .ok () after := by
    show Evaluation.statements scope (Evaluation.handler scope Evaluation.depthLimit)
      [.set (.name resultName) term] { generator } = _
    unfold Evaluation.statements Evaluation.statement
    rw [bind_assoc, Evaluation.bind_of_eq_ok hterm]
    rfl
  have hlookup : Evaluation.lookup? scope resultName after = .ok (some value) after := rfl
  unfold runBody
  dsimp only [EStateM.run]
  rw [Evaluation.bind_of_eq_ok hset, Evaluation.bind_of_eq_ok hlookup, Option.getD_some, hresolve,
    pure_bind]
  rfl

/-- What has been a field's value is defined. -/
theorem resultValue_ofField (definition : String) (value : FieldValue) :
    resultValue scope definition (Value.ofField value) = passed value := by
  have hdefined : (Value.ofField value).isUndefined = false := by cases value <;> rfl
  show (if (Value.ofField value).isUndefined then _ else _) = _
  rw [hdefined]
  rfl

/-- The program that gives a variable. It draws no random numbers. -/
theorem Program.evaluate_name {name : String} {value : FieldValue}
    (hvalue : scope.valueOf? name = some (Value.ofField value)) (definition : String)
    (generator : Generator) :
    (Program.expression [.set (.name resultName) (.name name)]).evaluate scope definition generator =
      (passed value, generator) := by
  have hterm : Evaluation.term scope (Evaluation.handler scope Evaluation.depthLimit) (.name name)
      { generator } = .ok (Value.ofField value) { generator } :=
    Evaluation.bind_of_eq_ok (Evaluation.lookup?_scope rfl rfl hvalue)
  have hresolve : Evaluation.resolve (Value.ofField value) = pure (Value.ofField value) := by
    cases value <;> rfl
  unfold evaluate
  dsimp only
  rw [runBody_result hterm hresolve]
  show (resultValue scope definition (Value.ofField value), generator) = _
  rw [resultValue_ofField]

/-- The definition that takes a field out of a variable, where the variable is a row: it gives the
field, or it fails since the row lacks the field. It draws no random numbers. -/
theorem Program.evaluate_path (hobject : IsName object) (hfield : IsName field)
    (hrow : scope.valueOf? object = some (.row target)) (generator : Generator) :
    (Program.expression [.set (.name resultName) (.field (.name object) field)]).evaluate scope
        (pathDefinition object field) generator =
      (match scope.fieldOf target field with
        | some value => passed value
        | none => .error (CallFault.missingField object target.table field).error, generator) := by
  have hterm : Evaluation.term scope (Evaluation.handler scope Evaluation.depthLimit)
      (.field (.name object) field) { generator } =
        .ok (found scope target field) { generator } :=
    Evaluation.term_field rfl rfl hrow
  unfold evaluate
  dsimp only
  rw [runBody_result hterm Evaluation.resolve_found]
  show (resultValue scope (pathDefinition object field) (found scope target field), generator) = _
  congr 1
  cases hvalue : scope.fieldOf target field with
  | none =>
      unfold resultValue found
      rw [missingRowField?_path hobject hfield]
      unfold missingField?
      rw [hrow]
      simp only [hvalue]
      rfl
  | some value =>
      have hfound : found scope target field = Value.ofField value := by
        unfold found
        rw [hvalue]
        rfl
      rw [hfound]
      exact resultValue_ofField _ value

end Expr

end RecordRecipe
