import RecordRecipe.Sink.Multiplex
import RecordRecipe.Proofs.Run.Transcript

/-!
# Several sinks as if each were alone

Calls that are made on several sinks at once reach every one of them as if it were driven alone: by
the call that it gets, with its own encoders and its own counter. The first failure ends the calls.
`Sink.multiplex_calls` says for any calls how they end, and in which state every sink is then.
-/

namespace RecordRecipe.Sink

variable {σ : Type}

/-- Make calls on a sink, one after the other, up to the first that fails. -/
def performAll (sink : Sink σ) (calls : List SinkCall) : Action σ Unit :=
  Action.forEach sink.perform calls

/-- The state of one of several sinks. -/
def States.at : {components : List Component} → States components →
    (index : Fin components.length) → (components.get index).State
  | _ :: _, states, ⟨0, _⟩ => states.1
  | _ :: rest, states, ⟨index + 1, h⟩ => @States.at rest states.2 ⟨index, Nat.lt_of_succ_lt_succ h⟩

/-- Every one of several sinks has handled some calls, from one state to another, as it does when it
is driven alone. -/
def HandledAlone (components : List Component) (calls : List SinkCall)
    (before after : States components) : Prop :=
  ∀ index, (components.get index).sink.performAll calls (before.at index) =
    (.ok (), after.at index)

/-- One of several sinks has failed in a call. Those before it have handled the call, and those
behind it have not seen it. -/
structure FailsAt (components : List Component) (call : SinkCall) (error : Error)
    (before after : States components) (index : Fin components.length) : Prop where
  handled : ∀ other < index, (components.get other).sink.perform call (before.at other) =
    (.ok (), after.at other)
  fails : (components.get index).sink.perform call (before.at index) = (.error error, after.at index)
  unseen : ∀ other, index < other → after.at other = before.at other

/-- Calls on several sinks have ended, as if each sink were alone or with the first failure. -/
inductive CallsEnd (components : List Component) (calls : List SinkCall)
    (before : States components) : Except Error Unit × States components → Prop where
  | handled (after : States components) (h : HandledAlone components calls before after) :
      CallsEnd components calls before (.ok (), after)
  | failed (seen : List SinkCall) (call : SinkCall) (rest : List SinkCall) (error : Error)
      (middle after : States components) (index : Fin components.length)
      (hcalls : calls = seen ++ call :: rest) (hseen : HandledAlone components seen before middle)
      (hfails : FailsAt components call error middle after index) :
      CallsEnd components calls before (.error error, after)

variable {components : List Component} {call : SinkCall} {error : Error}
  {before middle after : States components}

/-- A call on several sinks is a call on each of them in turn. -/
theorem perform_multiplex (components : List Component) (call : SinkCall) :
    (multiplex components).perform call =
      onEach (fun component => component.sink.perform call) components := by
  cases call <;> rfl

/-- A call on several sinks is handled by all of them, or fails at one of them. -/
theorem onEach_ends (call : SinkCall) (components : List Component) (before : States components) :
    (∃ after, onEach (fun component => component.sink.perform call) components before =
        (.ok (), after) ∧
      ∀ index, (components.get index).sink.perform call (before.at index) =
        (.ok (), after.at index)) ∨
    ∃ error after index, onEach (fun component => component.sink.perform call) components before =
        (.error error, after) ∧ FailsAt components call error before after index := by
  induction components with
  | nil => exact .inl ⟨before, rfl, fun index => index.elim0⟩
  | cons component rest ih =>
      obtain ⟨first, others⟩ := before
      cases hfirst : component.sink.perform call first with
      | mk answer next =>
          cases answer with
          | error error =>
              refine .inr ⟨error, (next, others), ⟨0, Nat.zero_lt_succ _⟩, ?_, ?_, hfirst, ?_⟩
              · simp only [onEach, hfirst]
              · intro other hbefore
                exact absurd hbefore (Nat.not_lt_zero _)
              · intro other hbehind
                obtain ⟨_ | other, hother⟩ := other
                · exact absurd hbehind (Nat.lt_irrefl _)
                · rfl
          | ok done =>
              rcases ih others with ⟨after, hrest, hhandled⟩ | ⟨error, after, index, hrest, hfails⟩
              · refine .inl ⟨(next, after), ?_, ?_⟩
                · simp only [onEach, hfirst, hrest]
                · intro other
                  obtain ⟨_ | other, hother⟩ := other
                  · exact hfirst
                  · exact hhandled ⟨other, Nat.lt_of_succ_lt_succ hother⟩
              · refine .inr ⟨error, (next, after), index.succ, ?_, ?_, hfails.fails, ?_⟩
                · simp only [onEach, hfirst, hrest]
                · intro other hbefore
                  obtain ⟨_ | other, hother⟩ := other
                  · exact hfirst
                  · exact hfails.handled ⟨other, _⟩ (Nat.lt_of_succ_lt_succ hbefore)
                · intro other hbehind
                  obtain ⟨_ | other, hother⟩ := other
                  · exact absurd hbehind (Nat.not_lt_zero _)
                  · exact hfails.unseen ⟨other, _⟩ (Nat.lt_of_succ_lt_succ hbehind)

/-- Calls are made one after the other. -/
theorem performAll_cons (sink : Sink σ) (call : SinkCall) (calls : List SinkCall) :
    sink.performAll (call :: calls) = sink.perform call >>= fun _ => sink.performAll calls :=
  rfl

/-- A sink that handles the first calls goes on with the others. -/
theorem performAll_append {sink : Sink σ} {seen : List SinkCall} {out between : σ}
    (h : sink.performAll seen out = (.ok (), between)) (calls : List SinkCall) :
    sink.performAll (seen ++ calls) out = sink.performAll calls between := by
  induction seen generalizing out with
  | nil =>
      obtain rfl : out = between := congrArg Prod.snd h
      rfl
  | cons first rest ih =>
      rw [performAll_cons] at h
      obtain ⟨done, next, hfirst, hrest⟩ := Action.bind_eq_ok h
      rw [List.cons_append, performAll_cons, Action.bind_apply, hfirst]
      exact ih hrest

/-- A call that every one of several sinks handles comes before those that each handles alone. -/
theorem HandledAlone.cons {calls : List SinkCall}
    (hfirst : ∀ index, (components.get index).sink.perform call (before.at index) =
      (.ok (), middle.at index))
    (hrest : HandledAlone components calls middle after) :
    HandledAlone components (call :: calls) before after := by
  intro index
  rw [performAll_cons, Action.bind_apply, hfirst index]
  exact hrest index

/-- Calls on several sinks end as if each sink were alone, or with the first failure. -/
theorem performAll_ends (calls : List SinkCall) (before : States components) :
    CallsEnd components calls before ((multiplex components).performAll calls before) := by
  induction calls generalizing before with
  | nil => exact .handled before fun _ => rfl
  | cons call rest ih =>
      rw [performAll_cons, Action.bind_apply, perform_multiplex]
      rcases onEach_ends call components before with
        ⟨middle, hcall, hhandled⟩ | ⟨error, after, index, hcall, hfails⟩
      · have hends := ih middle
        rw [hcall]
        show CallsEnd components (call :: rest) before
          ((multiplex components).performAll rest middle)
        generalize (multiplex components).performAll rest middle = run at hends ⊢
        cases hends with
        | handled after hrest => exact .handled after (.cons hhandled hrest)
        | failed seen other more error between after index hcalls hseen hfails =>
            refine .failed (call :: seen) other more error between after index ?_
              (.cons hhandled hseen) hfails
            rw [hcalls, List.cons_append]
      · rw [hcall]
        exact .failed [] call rest error before after index rfl (fun _ => rfl) hfails

/-- However calls on several sinks are mixed, while none of the sinks fails every sink comes to the
state to which the same calls bring it alone. With the first failure the calls end: the sinks before
the one that fails have handled the call, those behind it have not seen it, and the answer is the
error of the one that fails. The calls succeed exactly if they succeed on every sink alone. -/
theorem multiplex_calls (components : List Component) (calls : List SinkCall)
    (before : States components) :
    CallsEnd components calls before ((multiplex components).performAll calls before) ∧
    (((multiplex components).performAll calls before).1 = .ok () ↔
      ∀ index, ((components.get index).sink.performAll calls (before.at index)).1 = .ok ()) := by
  have hends := performAll_ends calls before
  refine ⟨hends, ?_⟩
  generalize (multiplex components).performAll calls before = run at hends ⊢
  cases hends with
  | handled after hhandled =>
      exact iff_of_true rfl fun index => congrArg Prod.fst (hhandled index)
  | failed seen call rest error middle after index hcalls hseen hfails =>
      refine iff_of_false nofun fun halone => ?_
      -- The sink that fails among the others fails in the same call when it is alone.
      have hindex := halone index
      rw [hcalls, performAll_append (hseen index), performAll_cons, Action.bind_apply,
        hfails.fails] at hindex
      cases hindex

end RecordRecipe.Sink
