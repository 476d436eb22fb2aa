import RecordRecipe.Action
import RecordRecipe.Value.Encoding

/-!
# Sinks

A sink is where rows go. It is told the tables once, then rows, and now and then to flush and to
commit. `Sink.encodeAndStore` is how a row is written unless a sink has a way of its own: all
encoding comes before all effects, then the row is counted, and the count decides on a flush and a
commit.
-/

namespace RecordRecipe

/-- The rows between two flushes unless told otherwise. -/
def defaultFlushEvery : Nat := 1000

/-- The rows between two commits unless told otherwise. -/
def defaultCommitEvery : Nat := 10000

/-- Counts rows. A threshold of zero means never. -/
structure BatchCounter where
  rows : Nat := 0
  flushEvery : Nat := defaultFlushEvery
  commitEvery : Nat := defaultCommitEvery
deriving DecidableEq, Repr

namespace BatchCounter

/-- Has a count reached a multiple of a threshold? -/
def reached (threshold rows : Nat) : Bool :=
  threshold != 0 && rows % threshold = 0

/-- The counter after one more row. -/
def record (counter : BatchCounter) : BatchCounter :=
  { counter with rows := counter.rows + 1 }

/-- Is a flush due after the rows counted so far? -/
def flushDue (counter : BatchCounter) : Bool := reached counter.flushEvery counter.rows

/-- Is a commit due after the rows counted so far? -/
def commitDue (counter : BatchCounter) : Bool := reached counter.commitEvery counter.rows

end BatchCounter

/-- A condition on whether to take a step. -/
def Action.when {σ : Type} (due : Bool) (action : Action σ Unit) : Action σ Unit :=
  if due then action else Action.done ()

/-- A row is encoded, stored and counted, and the count decides on a flush and a commit. -/
def Sink.encodeAndStore {σ : Type} (name : String) (encoders : EncoderTable)
    (counter? : σ → Option BatchCounter) (setCounter : BatchCounter → σ → σ)
    (store : String → EncodedRow → Action σ Unit) (flush commit : Action σ Unit)
    (row : Row) : Action σ Unit := do
  let encoded ← Action.lift (row.encode name encoders)
  store row.table encoded
  let state ← Action.get
  match counter? state with
  | none => pure ()
  | some counter =>
      let counted := counter.record
      Action.modify (setCounter counted)
      Action.when counted.flushDue flush
      Action.when counted.commitDue commit

/-- A destination for rows with a state of type `σ`. -/
structure Sink (σ : Type) where
  /-- The name that messages give. -/
  name : String
  /-- The kinds that the sink can store. -/
  encoders : EncoderTable := .plain
  /-- Take note of every table and its fields, once and before any row. -/
  declare : Tables → Action σ Unit := fun _ => Action.done ()
  /-- The row counter, of a sink that wants to be flushed and committed now and then. -/
  counter? : σ → Option BatchCounter := fun _ => none
  setCounter : BatchCounter → σ → σ := fun _ state => state
  /-- Store an encoded row of a table. -/
  store : String → EncodedRow → Action σ Unit
  flush : Action σ Unit := Action.done ()
  commit : Action σ Unit := Action.done ()
  close : Action σ Unit := Action.done ()
  /-- Write a row. -/
  write : Row → Action σ Unit :=
    Sink.encodeAndStore name encoders counter? setCounter store flush commit

/-- Encode a value as the sink would store it. -/
def Sink.encode {σ : Type} (sink : Sink σ) (value : FieldValue) : Except Error FieldValue :=
  value.encode sink.name sink.encoders

end RecordRecipe
