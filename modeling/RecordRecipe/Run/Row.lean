import RecordRecipe.Expr.Program
import RecordRecipe.Recipe.Template
import RecordRecipe.Run.Call
import RecordRecipe.Sink.Basic

/-!
# Making rows

A template makes its rows one after the other. A row is started, its fields are rendered in order,
child records in them being made and handed over on the way, then the row is handed over, and then
its friends are made. An error takes on the field and the line of every part around it that knows
more about its place than the parts inside. What becomes of finished rows is up to a `Desk`; that of
a sink writes them to it.
-/

namespace RecordRecipe

open RecordRecipe.Expr (Program)

/-- Render a value as it is written: a text is evaluated. -/
def Written.render {σ : Type} (setting : Setting) (activation : Activation) (written : Written) :
    Running σ FieldValue :=
  match written.value with
  | .text definition =>
      match Program.ofText definition with
      | .error fault => Action.fail ((fault.toError definition).atLine written.file written.line)
      | .ok program =>
          Action.mapError (Error.orAtLine written.file written.line) do
            let registry ← Running.registry
            Running.draw fun generator =>
              program.evaluate (activation.scope setting registry) definition generator
  | value => return value

namespace Count

/-- The number of rows that a value stands for. -/
def rows? : FieldValue → Option Nat
  | .int n => if 0 ≤ n then some n.toInt.toNat else none
  | .float x =>
      if x.isFinite && 0 ≤ x then some (Decimal.clampedTrunc 0 (UInt64.size - 1) x).toNat else none
  | _ => none

/-- The error of a value that is no number of rows. -/
def error (definition : Written) (value : FieldValue) : Error :=
  (Error.value ("cannot evaluate `" ++ definition.value.display ++
    "` as a row count (got `" ++ value.display ++ "`)")).atLine definition.file definition.line

/-- Work out how many rows to make; one if nothing is said. -/
def render {σ : Type} (setting : Setting) (activation : Activation) :
    Option Count → Running σ Nat
  | none => return 1
  | some (.fixed rows) => return rows
  | some (.deferred definition) => do
      let value ← definition.render setting activation
      match rows? value with
      | some rows => return rows
      | none => Action.fail (error definition value)

end Count

/-- Make rows one after the other, counted from a number on; gives the last one. -/
def repeatRows {σ : Type} (make : Nat → Running σ RowRef) :
    Nat → Nat → Option RowRef → Running σ (Option RowRef)
  | 0, _, last => return last
  | left + 1, number, _ => do
      let row ← make number
      repeatRows make left (number + 1) (some row)

/-- Set a field of a row. -/
def Running.setField {σ : Type} (row : RowRef) (name : String) (value : FieldValue) :
    Running σ Unit :=
  Running.onRegistry fun registry => ((), registry.setField row name value)

/-- Do something with the sink's state. -/
def Running.onOut {σ α : Type} (action : Action σ α) : Running σ α :=
  Action.onPart Machine.out (fun out machine => { machine with out }) action

/-- Hand a finished row to the sink. -/
def Running.write {σ : Type} (sink : Sink σ) (row : RowRef) : Running σ Unit := do
  Running.onRegistry fun registry => ((), registry.noteReferences row)
  let registry ← Running.registry
  Running.onOut (sink.write ⟨row.table, row.id, registry.fieldsOf row⟩)

/-- A moment of a run that an onlooker may take note of. -/
inductive Moment where
  /-- A template is about to be used: an activation begins. -/
  | entered (template : Template)
  /-- A count, a field or an argument is about to be rendered. -/
  | rendering (activation : Activation)
  /-- A count, a field or an argument has been rendered. -/
  | rendered (activation : Activation)
  /-- A count, a field or an argument could not be rendered. -/
  | failed (activation : Activation) (error : Error)
  /-- A row has been started. -/
  | started (activation : Activation)
  /-- A field of the row that is being built is about to be rendered. -/
  | opened (activation : Activation) (field : String)
  /-- A field has been rendered to a value. -/
  | closed (activation : Activation) (field : String) (value : FieldValue)
  /-- The rows of a template have been made: the activation that began last ends. -/
  | left

/-- What is done at the moments of a run and with its finished rows. -/
structure Desk (σ : Type) where
  /-- Take note of a moment. -/
  note : Moment → Running σ Unit := fun _ => return ()
  /-- Take in a finished row and the activation that has made it. -/
  hand : Activation → RowRef → Running σ Unit

/-- Render something, and take note of that and of how it ends. -/
def Desk.attend {σ α : Type} (desk : Desk σ) (activation : Activation) (render : Running σ α) :
    Running σ α := do
  desk.note (.rendering activation)
  let result ← render.onError fun error => desk.note (.failed activation error)
  desk.note (.rendered activation)
  return result

/-- Render a field, and take note of when that begins and of when it is done. -/
def Desk.renderField {σ : Type} (desk : Desk σ) (activation : Activation) (name : String)
    (render : Running σ FieldValue) : Running σ FieldValue := do
  desk.note (.opened activation name)
  let value ← render
  desk.note (.closed activation name value)
  return value

/-- The desk of a sink: finished rows are written to it. -/
def Sink.desk {σ : Type} (sink : Sink σ) : Desk σ where
  hand := fun _ row => Running.write sink row

mutual

/-- A definition as something to be rendered. A child record gives a reference to its last row, or
null. -/
def Definition.operand {σ : Type} (setting : Setting) (desk : Desk σ) (activation : Activation) :
    Definition → Operand σ
  | .value written =>
      { render := desk.attend activation (written.render setting activation) }
  | .call function positional named file line =>
      let positional := operands setting desk activation positional
      let named := namedOperands setting desk activation named
      { render := desk.attend activation
          ((Call.run setting activation function positional named).mapError
            (Error.orAtLine file line))
        entry :=
          if function = "choice" then
            some {
              positional := positional.map Operand.render
              named := named.map fun entry => (entry.1, entry.2.render)
              file, line }
          else none }
  | .child record _ _ =>
      { render := desk.attend activation do
          let last ← record.makeRows setting desk activation.rows
          return (last.map FieldValue.row).getD .null }

/-- Definitions as arguments by position. -/
def operands {σ : Type} (setting : Setting) (desk : Desk σ) (activation : Activation) :
    List Definition → List (Operand σ)
  | [] => []
  | first :: rest =>
      first.operand setting desk activation :: operands setting desk activation rest

/-- Definitions as arguments by name. -/
def namedOperands {σ : Type} (setting : Setting) (desk : Desk σ) (activation : Activation) :
    List (String × Definition) → Assoc (Operand σ)
  | [] => []
  | (name, first) :: rest =>
      (name, first.operand setting desk activation) ::
        namedOperands setting desk activation rest

/-- Render fields in order into the row that is being built. -/
def renderFields {σ : Type} (setting : Setting) (desk : Desk σ) (activation : Activation)
    (row : RowRef) : List Field → Running σ Unit
  | [] => return ()
  | .mk name definition file line :: rest => do
      let value ← (desk.renderField activation name
        (definition.operand setting desk activation).render).mapError
          (Error.orAtLine file line ∘ Error.inField name)
      Running.setField row name value
      renderFields setting desk activation row rest

/-- Make the rows of a template beneath some rows; gives the last one. -/
def Template.makeRows {σ : Type} (setting : Setting) (desk : Desk σ) (enclosing : List RowRef) :
    Template → Running σ (Option RowRef)
  | .mk table nickname count fields friends file line => do
      desk.note (.entered (.mk table nickname count fields friends file line))
      let beginning : Activation := { table, enclosing }
      let rows ← desk.attend beginning (Count.render setting beginning count)
      let last ← repeatRows
        (fun number => do
          let row ← Running.onRegistry (Registry.startRow table nickname)
          let activation := Activation.ofRow table enclosing number row
          desk.note (.started activation)
          (renderFields setting desk activation row fields).mapError (Error.orAtLine file line)
          (desk.hand activation row).mapError (Error.orAtLine file line)
          makeAll setting desk activation.rows friends
          return row)
        rows 1 none
      desk.note .left
      return last

/-- Make the rows of some templates beneath some rows. -/
def makeAll {σ : Type} (setting : Setting) (desk : Desk σ) (enclosing : List RowRef) :
    List Template → Running σ Unit
  | [] => return ()
  | first :: rest => do
      let _ ← first.makeRows setting desk enclosing
      makeAll setting desk enclosing rest

end

/-- Render a definition. -/
def Definition.render {σ : Type} (setting : Setting) (desk : Desk σ) (activation : Activation)
    (definition : Definition) : Running σ FieldValue :=
  (definition.operand setting desk activation).render

end RecordRecipe
