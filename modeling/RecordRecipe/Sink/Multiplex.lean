import RecordRecipe.Sink.Basic

/-!
# Several sinks at once

Every call goes to several sinks in turn, each with its own encoders and its own counter. The
first failure ends the call: the sinks before it have handled it and those after it have not seen
it.
-/

namespace RecordRecipe.Sink

/-- A sink together with the type of its state. -/
structure Component where
  State : Type
  sink : Sink State

/-- The states of several sinks. -/
def States : List Component → Type
  | [] => Unit
  | component :: rest => component.State × States rest

/-- Make one call on every sink in turn. -/
def onEach (call : (component : Component) → Action component.State Unit) :
    (components : List Component) → Action (States components) Unit
  | [] => fun state => (.ok (), state)
  | component :: rest => fun state =>
      match call component state.1 with
      | (.error error, first) => (.error error, (first, state.2))
      | (.ok (), first) =>
          match onEach call rest state.2 with
          | (result, others) => (result, (first, others))

/-- Sends every call to several sinks in turn. -/
def multiplex (components : List Component) : Sink (States components) where
  name := "multiplex"
  declare := fun tables => onEach (fun component => component.sink.declare tables) components
  store := fun table row => onEach (fun component => component.sink.store table row) components
  flush := onEach (fun component => component.sink.flush) components
  commit := onEach (fun component => component.sink.commit) components
  close := onEach (fun component => component.sink.close) components
  write := fun row => onEach (fun component => component.sink.write row) components

end RecordRecipe.Sink
