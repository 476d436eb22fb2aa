import RecordRecipe.Sink.Basic

/-!
# A journal of calls

A sink that records the calls it gets, in order. It can be told to fail at a given row or at every
flush, which shows what a run does when its sink fails. `rawJournal` records rows as they arrive,
without encoding or counting them.
-/

namespace RecordRecipe.Sink

/-- A call as it is recorded. -/
inductive Call where
  | tables (tables : Tables)
  | stored (table : String) (row : EncodedRow)
  | written (row : Row)
  | flush
  | commit
  | close

/-- How a journal behaves. -/
structure JournalPlan where
  encoders : EncoderTable := .plain
  /-- The row at which storing fails, counted from one. -/
  failRow : Option Nat := none
  failFlush : Bool := false

/-- The calls so far. -/
structure Journal where
  /-- The recorded calls, the latest first. -/
  latest : List Call := []
  /-- How many rows were to be stored. -/
  attempts : Nat := 0
  batch : Option BatchCounter := none

/-- The recorded calls in order. -/
def Journal.calls (state : Journal) : List Call := state.latest.reverse

/-- Record a call. -/
def Journal.record (call : Call) : Action Journal Unit :=
  Action.modify fun state => { state with latest := call :: state.latest }

/-- Store a row, or fail if the plan says so. -/
def JournalPlan.store (plan : JournalPlan) (table : String) (row : EncodedRow) :
    Action Journal Unit := do
  Action.modify fun state => { state with attempts := state.attempts + 1 }
  let state ← Action.get
  if plan.failRow = some state.attempts then Action.fail (.io "disk full")
  else Journal.record (.stored table row)

/-- Records encoded rows. -/
def journal (plan : JournalPlan) : Sink Journal where
  name := "trace"
  encoders := plan.encoders
  declare := fun tables => Journal.record (.tables tables)
  counter? := Journal.batch
  setCounter := fun batch state => { state with batch := some batch }
  store := plan.store
  flush :=
    if plan.failFlush then Action.fail (.general "cannot flush") else Journal.record .flush
  commit := Journal.record .commit
  close := Journal.record .close

/-- Records rows as they arrive. -/
def rawJournal (plan : JournalPlan) : Sink Journal :=
  { journal plan with write := fun row => Journal.record (.written row) }

end RecordRecipe.Sink
