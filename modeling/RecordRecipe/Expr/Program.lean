import RecordRecipe.Expr.Eval
import RecordRecipe.Text.Word
import RecordRecipe.Value.Coerce

/-!
# Definitions

A text in a recipe is a definition of a value. Without tags it is the value itself. One that is a
single value tag gives the value of its expression, of whatever type; any other is a template and
gives text. Texts, however they come about, become numbers where they read as ones.
-/

namespace RecordRecipe.Expr

open RecordRecipe.Random (Generator)

/-- Does a text hold anything to be evaluated? A comment alone does not count. -/
def hasTags (definition : String) : Bool :=
  Text.contains definition "<<" || Text.contains definition "<%"

/-- A definition that has been read. -/
inductive Program where
  | literal
  /-- A single value tag, as a statement that sets `resultName`. -/
  | expression (body : List Statement)
  | template (body : List Statement)

/-- The variable that the value of a single tag is set to. -/
def resultName : String := "__value"

/-- What stands inside a definition that is a single value tag. -/
def singleTag? (definition : String) : Option String := do
  let behind ← after? Tag.value.opening definition.toList
  let reversed ← after? Tag.value.closing behind.reverse
  let inner := reversed.reverse
  if Text.occursIn ['<', '<'] inner || Text.occursIn ['>', '>'] inner ||
      Text.occursIn ['<', '%'] inner then none
  else some (String.ofList inner)

/-- The template that stands for a single value tag. -/
def resultTemplate (inner : String) : String :=
  "<% set " ++ resultName ++ " = (" ++ inner ++ ") %>"

/-- Read a definition. -/
def Program.ofText (definition : String) : Except Fault Program :=
  if !hasTags definition then .ok .literal
  else match singleTag? definition with
    | some inner => (Statement.ofText (resultTemplate inner)).map .expression
    | none => (Statement.ofText definition).map .template

/-- The kind of error that a fault gives rise to. -/
def FaultKind.errorKind : FaultKind → ErrorKind
  | .malformed => .grammar
  | .undefinedValue | .unknownFunction | .unknownMethod | .unknownFilter | .unknownTest => .name
  | _ => .value

/-- The error of a fault in a definition. -/
def Fault.toError (definition : String) (fault : Fault) : Error :=
  .unplaced fault.kind.errorKind (fault.text ++ " in \x60" ++ Text.trim definition ++ "\x60")

/-- A row in a scope that lacks a field. -/
def missingField? (scope : Scope) (object field : String) : Option Error :=
  match scope.valueOf? object with
  | some (.row target) =>
      if (scope.fieldOf target field).isSome then none
      else some (.name ("\x60" ++ object ++ "\x60 (" ++ target.table ++
        ") has no field named \x60" ++ field ++ "\x60"))
  | _ => none

/-- The object and the field that a path of two names mentions. -/
def fieldPath? (path : List Char) : Option (String × String) :=
  match Text.splitOnce '.' path with
  | some (object, field) =>
      if field.isEmpty || field.contains '.' then none
      else some (String.ofList object, String.ofList field)
  | none => none

/-- The first field in a definition that its row lacks. -/
def missingRowField? (scope : Scope) (definition : String) : Option Error :=
  let isOutside (c : Char) : Bool := !(Text.isAlphanumeric c || c = '_' || c = '.')
  (Text.splitWhere isOutside definition.toList).findSome? fun path =>
    (fieldPath? path).bind fun found => missingField? scope found.1 found.2

/-- The error of a fault during evaluation. An undefined value is explained by a missing field if
there is one. -/
def evaluationError (scope : Scope) (definition : String) (fault : Fault) : Error :=
  let explained := if fault.kind = .undefinedValue then missingRowField? scope definition else none
  explained.getD (fault.toError definition)

/-- A field's value as a definition gives it: texts that are numbers become numbers. -/
def settle (value : FieldValue) : FieldValue :=
  match value with
  | .text content => .ofText content
  | other => other

/-- The value of an expression as a field's value; it has to be defined. -/
def resultValue (scope : Scope) (definition : String) (value : Value) : Except Error FieldValue :=
  if value.isUndefined then
    .error ((missingRowField? scope definition).getD
      (.name ("\x60" ++ Text.trim definition ++ "\x60 is undefined")))
  else value.toField.map settle

/-- Run statements from an empty store; gives the value of `resultName` and the text written. -/
def runBody (scope : Scope) (definition : String) (body : List Statement)
    (generator : Generator) : Except Error (Value × String) × Generator :=
  let action : Evaluation (Value × String) := do
    Evaluation.template scope body
    let found := (← Evaluation.lookup? scope resultName).getD .missing
    let value ← Evaluation.resolve found
    return (value, (← get).out)
  match action.run { generator := generator } with
  | .ok result store => (.ok result, store.generator)
  | .error fault store => (.error (evaluationError scope definition fault), store.generator)

/-- Evaluate a definition that has been read. -/
def Program.evaluate (scope : Scope) (definition : String) (generator : Generator) :
    Program → Except Error FieldValue × Generator
  | .literal => (.ok (.ofText definition), generator)
  | .expression body =>
      let (result, generator) := runBody scope definition body generator
      (result.bind fun found => resultValue scope definition found.1, generator)
  | .template body =>
      let (result, generator) := runBody scope definition body generator
      (result.map fun found => .ofText found.2, generator)

end RecordRecipe.Expr
