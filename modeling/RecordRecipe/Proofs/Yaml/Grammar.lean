import RecordRecipe.Proofs.Result
import RecordRecipe.Proofs.Yaml.Construct

/-!
# What the events of a text describe

The reader of events keeps a stack of goals, and each goal stands for the events it still calls
for: `Goal.Covers`. A step gives one event and leaves goals whose events, put behind that one, are
events of the goals before it: `Produces`. A whole document is therefore one construct with its
anchors numbered: `Event.ofText_construct`.
-/

namespace RecordRecipe.Yaml

open Construct (itemsEvents entriesEvents)

/-- The items of a sequence that are left, and its end. -/
def Items (events : List MarkedEvent) : Prop :=
  ∃ items line, events = itemsEvents items ++ [⟨.sequenceEnd, line⟩]

/-- The entries of a mapping that are left, and its end. -/
def Entries (events : List MarkedEvent) : Prop :=
  ∃ entries line, events = entriesEvents entries ++ [⟨.mappingEnd, line⟩]

/-- The value of a key, the entries that are left, and the end. -/
def ValueThenEntries (events : List MarkedEvent) : Prop :=
  ∃ value : Construct, ∃ rest, events = value.events ++ rest ∧ Entries rest

/-- The value of a pair and the end of the pair. -/
def ValueThenEnd (events : List MarkedEvent) : Prop :=
  ∃ value : Construct, ∃ line, events = value.events ++ [⟨.mappingEnd, line⟩]

/-- The events that a goal calls for. -/
def Goal.Covers : Goal → List MarkedEvent → Prop
  | .node, events => ∃ construct : Construct, events = construct.events
  | .blockSequence _, events | .flatSequence, events | .flowSequence _, events => Items events
  | .blockKey _, events | .flowKey _, events => Entries events
  | .blockValue, events | .flowValue, events | .absentValue, events => ValueThenEntries events
  | .pairKey, events => ∃ key : Construct, ∃ rest, events = key.events ++ rest ∧ ValueThenEnd rest
  | .pairValue, events => ValueThenEnd events
  | .pairEnd, events => ∃ line, events = [⟨.mappingEnd, line⟩]

/-- The events that goals call for, one after the other. -/
def Covers : List Goal → List MarkedEvent → Prop
  | [], events => events = []
  | goal :: after, events => ∃ own rest, events = own ++ rest ∧ goal.Covers own ∧ Covers after rest

section Languages

variable {construct : Construct} {events : List MarkedEvent}

theorem Items.nil (line : Nat) : Items [⟨.sequenceEnd, line⟩] := ⟨[], line, rfl⟩

theorem Items.cons (h : Items events) : Items (construct.events ++ events) := by
  obtain ⟨items, line, rfl⟩ := h
  exact ⟨construct :: items, line, by rw [itemsEvents, List.append_assoc]⟩

theorem Entries.nil (line : Nat) : Entries [⟨.mappingEnd, line⟩] := ⟨[], line, rfl⟩

theorem Entries.value (h : Entries events) : ValueThenEntries (construct.events ++ events) :=
  ⟨construct, events, rfl, h⟩

theorem ValueThenEntries.key (h : ValueThenEntries events) :
    Entries (construct.events ++ events) := by
  obtain ⟨value, rest, rfl, entries, line, rfl⟩ := h
  exact ⟨(construct, value) :: entries, line, by simp only [entriesEvents, List.append_assoc]⟩

/-- The items of a sequence behind its start are a construct. -/
theorem Items.node (h : Items events) (anchor line : Nat) :
    Goal.node.Covers (⟨.sequenceStart anchor, line⟩ :: events) := by
  obtain ⟨items, endLine, rfl⟩ := h
  exact ⟨.sequence line anchor items endLine, rfl⟩

/-- The entries of a mapping behind its start are a construct. -/
theorem Entries.node (h : Entries events) (anchor line : Nat) :
    Goal.node.Covers (⟨.mappingStart anchor, line⟩ :: events) := by
  obtain ⟨entries, endLine, rfl⟩ := h
  exact ⟨.mapping line anchor entries endLine, rfl⟩

/-- A pair without braces is a mapping with one entry. -/
theorem Goal.Covers.pair (h : Goal.pairKey.Covers events) : Entries events := by
  obtain ⟨key, _, rfl, value, line, rfl⟩ := h
  exact ((Entries.nil line).value).key

end Languages

/-- Every name stands for an anchor that has begun. -/
def EventReader.Sound (reader : EventReader) : Prop :=
  ∀ entry ∈ reader.anchors, 0 < entry.2 ∧ entry.2 ≤ reader.lastAnchor

/-- A step that gives a value gives one with a property, and so leaves the reader. -/
def EventStep.Ensures {α : Type} (P : α → EventReader → Prop) (step : EventStep α)
    (reader : EventReader) : Prop :=
  Gives (fun result => P result.1 result.2) (step.run reader)

namespace EventStep

namespace Ensures

variable {α β : Type} {reader : EventReader} {P : α → EventReader → Prop}
  {Q : β → EventReader → Prop}

/-- What the second part of a sequence ensures after the first, the sequence ensures. -/
theorem bind {first : EventStep α} {next : α → EventStep β} (hfirst : Ensures P first reader)
    (hnext : ∀ a middle, P a middle → Ensures Q (next a) middle) :
    Ensures Q (first >>= next) reader := by
  unfold Ensures
  rw [StateT.run_bind, Gives.bind_iff]
  exact hfirst.imp fun result hresult => hnext result.1 result.2 hresult

/-- Looking at the reader changes nothing. -/
theorem get {next : EventReader → EventStep β} (h : Ensures Q (next reader) reader) :
    Ensures Q (get >>= next) reader := h

/-- Looking at a token changes nothing. -/
theorem peek {next : Marked Token → EventStep β} (h : ∀ token, Ensures Q (next token) reader) :
    Ensures Q (peek >>= next) reader := by
  refine bind (P := fun _ middle => middle = reader) ?_ fun token middle hmiddle => ?_
  · refine get ?_
    split
    · exact rfl
    · trivial
  · subst hmiddle
    exact h token

/-- Passing a token changes the tokens only. -/
theorem skip {next : Unit → EventStep β}
    (h : ∀ tokens, Ensures Q (next ()) { reader with tokens := tokens }) :
    Ensures Q (skip >>= next) reader := h _

/-- A declaration numbers the next anchor. -/
theorem declare (h : reader.Sound) (name : String) :
    Ensures (fun anchor next => next.Sound ∧ Numbers anchor reader.lastAnchor next.lastAnchor)
      (declare name) reader := by
  refine ⟨List.forall_mem_cons.mpr ⟨⟨Nat.succ_pos _, Nat.le_refl _⟩, fun entry hentry => ?_⟩,
    .inr ⟨rfl, rfl⟩⟩
  exact ⟨(h entry hentry).1, Nat.le_succ_of_le (h entry hentry).2⟩

/-- Checking a handle changes nothing. -/
theorem checkHandle {line : Nat} {handle : String} {next : Unit → EventStep β}
    (h : Ensures Q (next ()) reader) : Ensures Q (checkHandle line handle >>= next) reader := by
  refine bind (P := fun _ middle => middle = reader) ?_ fun _ middle hmiddle => ?_
  · refine get ?_
    split
    · trivial
    · exact rfl
  · subst hmiddle
    exact h

/-- The properties of a node number its anchor. -/
theorem properties (h : reader.Sound) :
    Ensures (fun found next => next.Sound ∧ Numbers found.1 reader.lastAnchor next.lastAnchor)
      properties reader := by
  have hnone : Numbers 0 reader.lastAnchor reader.lastAnchor := .inl ⟨rfl, rfl⟩
  refine peek fun first => ?_
  split
  next name _ =>
    refine skip fun tokens => bind (declare ?_ name) fun anchor next hanchor => ?_
    · exact h
    · refine peek fun second => ?_
      split
      · exact skip fun tokens => checkHandle hanchor
      · exact hanchor
  next handle _ =>
    refine skip fun tokens => checkHandle (peek fun second => ?_)
    split
    next name _ =>
      refine skip fun tokens => bind (declare ?_ name) fun anchor next hanchor => ?_
      · exact h
      · exact hanchor
    · exact ⟨h, hnone⟩
  · exact ⟨h, hnone⟩

end Ensures

/-- A step gives an event, numbered as it should be, and leaves goals: their events behind that one
are events of the given goals. -/
def Produces (goals : List Goal) (step : EventStep MarkedEvent) : Prop :=
  ∀ reader : EventReader, reader.Sound → Ensures (fun marked next => next.Sound ∧
    marked.event.Advances reader.lastAnchor next.lastAnchor ∧
    ∀ rest, Covers next.goals rest → Covers goals (marked :: rest)) step reader

namespace Produces

variable {goal : Goal} {goals after : List Goal} {step : EventStep MarkedEvent}

/-- A goal that takes a construct lets it be read as a node. -/
theorem take (next : Goal)
    (h : ∀ (construct : Construct) own, next.Covers own → goal.Covers (construct.events ++ own))
    (hstep : Produces (.node :: next :: after) step) : Produces (goal :: after) step := by
  intro reader hreader
  refine (hstep reader hreader).imp fun result hresult => ?_
  obtain ⟨hsound, hadvances, hcovers⟩ := hresult
  refine ⟨hsound, hadvances, fun rest hrest => ?_⟩
  obtain ⟨_, _, hevents, ⟨construct, rfl⟩, own, last, rfl, hown, hlast⟩ := hcovers rest hrest
  exact ⟨construct.events ++ own, last, by rw [hevents, List.append_assoc],
    h construct own hown, hlast⟩

theorem peek {step : Marked Token → EventStep MarkedEvent}
    (h : ∀ token, Produces goals (step token)) : Produces goals (peek >>= step) :=
  fun reader hreader => .peek fun token => h token reader hreader

theorem skip {step : Unit → EventStep MarkedEvent} (h : Produces goals (step ())) :
    Produces goals (skip >>= step) :=
  fun _ hreader => .skip fun _ => h _ hreader

theorem failAt (token : Marked Token) (reason : String) : Produces goals (failAt token reason) :=
  fun _ _ => trivial

/-- An event without an anchor may be given when the goals behind it fit. -/
theorem emit {token : Marked Token} {event : Event}
    (hadvances : ∀ last, event.Advances last last)
    (h : ∀ rest, Covers after rest → Covers goals (⟨event, token.line⟩ :: rest)) :
    Produces goals (emit after token event) :=
  fun _ hreader => ⟨hreader, hadvances _, h⟩

/-- The end of a collection may be given when the goal allows it. -/
theorem close {token : Marked Token} {event : Event} (hadvances : ∀ last, event.Advances last last)
    (h : goal.Covers [⟨event, token.line⟩]) :
    Produces (goal :: after) (close after token event) :=
  skip (emit hadvances fun rest hrest => ⟨_, rest, rfl, h, hrest⟩)

/-- An absent node is a node. -/
theorem absent (token : Marked Token) : Produces (.node :: after) (emitAbsent after token) :=
  emit (fun _ => .inl ⟨rfl, rfl⟩) fun rest hrest =>
    ⟨_, rest, rfl, ⟨.scalar token.line true "" 0, rfl⟩, hrest⟩

/-- The tokens of a node give a node. -/
theorem node (inBlock flat : Bool) : Produces (.node :: after) (node inBlock flat after) := by
  intro reader hreader
  refine .peek fun first => ?_
  split
  next name _ =>
    refine .skip fun tokens => .get ?_
    split
    next anchor hanchor =>
      obtain ⟨_, _, (hanchors : reader.anchors = _), _⟩ := List.lookup_eq_some_iff.mp hanchor
      have hbegun := hreader (name, anchor) (by simp [hanchors])
      refine ⟨hreader, ⟨hbegun.1, hbegun.2, rfl⟩, fun rest hrest => ?_⟩
      exact ⟨_, rest, rfl, ⟨.aliasOf first.line anchor, rfl⟩, hrest⟩
    · trivial
  · refine .bind (.properties hreader) fun found middle hmiddle => .peek fun token => ?_
    obtain ⟨anchor, tagged⟩ := found
    obtain ⟨hsound, hnumbers⟩ := hmiddle
    have hscalar : ∀ plain content rest, Covers after rest →
        Covers (.node :: after) (⟨.scalar plain content anchor, token.line⟩ :: rest) :=
      fun plain content rest hrest =>
        ⟨_, rest, rfl, ⟨.scalar token.line plain content anchor, rfl⟩, hrest⟩
    have hitems : ∀ goal : Goal, (∀ own, goal.Covers own → Items own) → ∀ rest,
        Covers (goal :: after) rest →
        Covers (.node :: after) (⟨.sequenceStart anchor, token.line⟩ :: rest) := by
      rintro goal hgoal _ ⟨own, last, rfl, hown, hlast⟩
      exact ⟨_, last, rfl, (hgoal own hown).node anchor token.line, hlast⟩
    have hentries : ∀ goal : Goal, (∀ own, goal.Covers own → Entries own) → ∀ rest,
        Covers (goal :: after) rest →
        Covers (.node :: after) (⟨.mappingStart anchor, token.line⟩ :: rest) := by
      rintro goal hgoal _ ⟨own, last, rfl, hown, hlast⟩
      exact ⟨_, last, rfl, (hgoal own hown).node anchor token.line, hlast⟩
    dsimp only
    split
    · exact ⟨hsound, hnumbers, hitems _ fun _ => id⟩
    · exact ⟨hsound, hnumbers, hscalar _ _⟩
    · exact ⟨hsound, hnumbers, hitems _ fun _ => id⟩
    · exact ⟨hsound, hnumbers, hentries _ fun _ => id⟩
    · exact ⟨hsound, hnumbers, hitems _ fun _ => id⟩
    · exact ⟨hsound, hnumbers, hentries _ fun _ => id⟩
    · split
      · exact ⟨hsound, hnumbers, hscalar _ _⟩
      · trivial

theorem blockSequence (first : Bool) :
    Produces (.blockSequence first :: after) (blockSequence after) := by
  refine peek fun token => ?_
  split
  · exact close (fun _ => rfl) (Items.nil _)
  · refine skip (peek fun next => take (.blockSequence false) (fun _ _ => Items.cons) ?_)
    split
    · exact absent next
    · exact absent next
    · exact node true false
  · exact failAt token _

theorem flatSequence : Produces (.flatSequence :: after) (flatSequence after) := by
  refine peek fun token => ?_
  split
  · refine skip (peek fun next => take .flatSequence (fun _ _ => Items.cons) ?_)
    split
    · exact absent next
    · exact absent next
    · exact absent next
    · exact absent next
    · exact node true false
  · exact emit (fun _ => rfl) fun rest hrest => ⟨_, rest, rfl, Items.nil _, hrest⟩

theorem blockKey (first : Bool) : Produces (.blockKey first :: after) (blockKey after) := by
  refine peek fun token => ?_
  split
  · refine skip (peek fun next => take .blockValue (fun _ _ => ValueThenEntries.key) ?_)
    split
    · exact absent next
    · exact absent next
    · exact absent next
    · exact node true true
  · exact take .blockValue (fun _ _ => ValueThenEntries.key) (absent token)
  · exact close (fun _ => rfl) (Entries.nil _)
  · exact failAt token _

theorem blockValue : Produces (.blockValue :: after) (blockValue after) := by
  refine peek fun token => take (.blockKey false) (fun _ _ => Entries.value) ?_
  split
  · refine skip (peek fun next => ?_)
    split
    · exact absent next
    · exact absent next
    · exact absent next
    · exact node true true
  · exact absent token

theorem flowKey (first : Bool) : Produces (.flowKey first :: after) (flowKey after) := by
  refine peek fun token => ?_
  split
  · refine skip (peek fun next => take .flowValue (fun _ _ => ValueThenEntries.key) ?_)
    split
    · exact absent next
    · exact absent next
    · exact absent next
    · exact node false false
  · exact take .flowValue (fun _ _ => ValueThenEntries.key) (absent token)
  · exact close (fun _ => rfl) (Entries.nil _)
  · exact take .absentValue (fun _ _ => ValueThenEntries.key) (node false false)

theorem flowMapping (first : Bool) :
    Produces (.flowKey first :: after) (flowMapping first after) := by
  refine peek fun token => ?_
  split
  · exact close (fun _ => rfl) (Entries.nil _)
  · exact flowKey true
  · exact skip (flowKey false)
  · exact failAt token _

theorem flowValue : Produces (.flowValue :: after) (flowValue after) := by
  refine peek fun token => take (.flowKey false) (fun _ _ => Entries.value) ?_
  split
  · refine skip (peek fun next => ?_)
    split
    · exact absent token
    · exact absent token
    · exact node false false
  · exact absent token

theorem flowItem (first : Bool) : Produces (.flowSequence first :: after) (flowItem after) := by
  refine peek fun token => ?_
  split
  · exact close (fun _ => rfl) (Items.nil _)
  · -- A pair without braces is an item with a single entry.
    refine skip (emit (fun _ => .inl ⟨rfl, rfl⟩) ?_)
    rintro _ ⟨pair, _, rfl, hpair, items, last, rfl, hitems, hlast⟩
    obtain ⟨construct, hconstruct⟩ := hpair.pair.node 0 token.line
    refine ⟨construct.events ++ items, last, ?_, hitems.cons, hlast⟩
    rw [← hconstruct]
    simp only [List.cons_append, List.append_assoc]
  · exact take (.flowSequence false) (fun _ _ => Items.cons) (node false false)

theorem flowSequence (first : Bool) :
    Produces (.flowSequence first :: after) (flowSequence first after) := by
  refine peek fun token => ?_
  split
  · exact close (fun _ => rfl) (Items.nil _)
  · exact flowItem true
  · exact skip (flowItem false)
  · exact failAt token _

theorem pairKey : Produces (.pairKey :: after) (pairKey after) := by
  refine peek fun token => take .pairValue (fun key rest hrest => ⟨key, rest, rfl, hrest⟩) ?_
  split
  · exact skip (absent token)
  · exact skip (absent token)
  · exact skip (absent token)
  · exact node false false

theorem pairValue : Produces (.pairValue :: after) (pairValue after) := by
  refine peek fun token => take .pairEnd ?_ ?_
  · rintro value _ ⟨line, rfl⟩
    exact ⟨value, line, rfl⟩
  · split
    · refine skip (peek fun next => ?_)
      split
      · exact absent next
      · exact absent next
      · exact node false false
    · exact absent token

/-- Passing the token that opens a collection gives no event. -/
theorem opening (first : Bool) (h : Produces goals step) :
    Produces goals (opening first >>= fun _ => step) := by
  cases first with
  | false => exact h
  | true =>
      rw [EventStep.opening, if_pos rfl, bind_assoc]
      exact peek fun _ => skip h

/-- Every goal gives rise to an event of its own. -/
theorem ofGoal (goal : Goal) : Produces (goal :: after) (ofGoal after goal) := by
  cases goal with
  | node => exact node true false
  | blockSequence first => exact opening first (blockSequence first)
  | flatSequence => exact flatSequence
  | blockKey first => exact opening first (blockKey first)
  | blockValue => exact blockValue
  | flowSequence first => exact opening first (flowSequence first)
  | flowKey first => exact opening first (flowMapping first)
  | flowValue => exact flowValue
  | absentValue =>
      exact peek fun token => take (.flowKey false) (fun _ _ => Entries.value) (absent token)
  | pairKey => exact pairKey
  | pairValue => exact pairValue
  | pairEnd =>
      exact peek fun token => emit (fun _ => rfl) fun rest hrest => ⟨_, rest, rfl, ⟨_, rfl⟩, hrest⟩

end Produces

/-- The events that are read until no goal is left are those that the goals call for, and they are
numbered from the last anchor on. -/
theorem Ensures.all (fuel : Nat) (read : List MarkedEvent) {reader : EventReader}
    (h : reader.Sound) :
    Ensures (fun events next => ∃ rest, events = read.reverse ++ rest ∧
      Covers reader.goals rest ∧ Numbered reader.lastAnchor rest next.lastAnchor)
      (all fuel read) reader := by
  induction fuel generalizing read reader with
  | zero => trivial
  | succ fuel ih =>
      refine .get ?_
      split
      next hgoals => exact ⟨[], by simp, hgoals ▸ rfl, rfl⟩
      next goal after hgoals =>
        -- One event is read for the first goal, and the rest for the goals that it leaves.
        refine .bind (Produces.ofGoal goal reader h) fun marked middle hmarked => ?_
        obtain ⟨hsound, hadvances, hcovers⟩ := hmarked
        refine (ih (marked :: read) hsound).imp fun result hresult => ?_
        obtain ⟨rest, hevents, hrest, hnumbered⟩ := hresult
        refine ⟨marked :: rest, by simp [hevents], hgoals ▸ hcovers rest hrest, ?_⟩
        exact ⟨middle.lastAnchor, hadvances, hnumbered⟩

/-- The reader has no anchors yet, and the document is what it is to read. -/
def Fresh (reader : EventReader) : Prop :=
  reader.goals = [.node] ∧ reader.anchors = [] ∧ reader.lastAnchor = 0

namespace Ensures

variable {reader : EventReader}

/-- Directives concern tags alone. -/
theorem directives (fuel : Nat) (versionSeen : Bool) (h : Fresh reader) :
    Ensures (fun _ next => Fresh next) (directives fuel versionSeen) reader := by
  induction fuel generalizing versionSeen reader with
  | zero => exact h
  | succ fuel ih =>
      refine peek fun token => ?_
      split
      · split
        · trivial
        · exact ih true h
      · exact ih versionSeen h
      · exact h

/-- The end marks of documents are no part of a document. -/
theorem documentEnds (fuel : Nat) (h : Fresh reader) :
    Ensures (fun _ next => Fresh next) (documentEnds fuel) reader := by
  induction fuel generalizing reader with
  | zero => exact h
  | succ fuel ih =>
      refine peek fun token => ?_
      split
      · exact ih h
      · exact h

theorem documentStart (count : Nat) (h : Fresh reader) :
    Ensures (fun _ next => Fresh next) (documentStart count) reader := by
  refine peek fun token => ?_
  split
  -- The contents may begin without a mark; with one, there may be directives before it.
  case h_4 => exact h
  all_goals
    refine bind (directives count false h) fun _ middle hmiddle => peek fun start => ?_
    split
    · exact hmiddle
    · trivial

/-- The contents of a document are a construct, if there are any. -/
theorem contents (count : Nat) (explicit : Bool) (h : Fresh reader) :
    Ensures (fun events _ => events = [] ∨ ∃ root : Construct, events = root.events ∧
      ∃ last, Numbered 0 events last) (contents count explicit) reader := by
  refine peek fun first => ?_
  split
  -- The text is over, or there is a node; in all other cases the document is empty.
  case h_1 => exact .inl rfl
  case h_7 =>
    obtain ⟨hgoals, hanchors, hlast⟩ := h
    have hsound : reader.Sound := by simp [EventReader.Sound, hanchors]
    refine (all _ [] hsound).imp fun result hresult => ?_
    obtain ⟨events, hevents, hcovers, hnumbered⟩ := hresult
    rw [hgoals] at hcovers
    obtain ⟨_, _, rfl, ⟨root, rfl⟩, rfl⟩ := hcovers
    rw [List.append_nil, List.reverse_nil, List.nil_append] at hevents
    rw [List.append_nil, hlast, ← hevents] at hnumbered
    exact .inr ⟨root, hevents, _, hnumbered⟩
  all_goals exact .inr ⟨.scalar first.line true "" 0, rfl, 0, 0, .inl ⟨rfl, rfl⟩, rfl⟩

/-- The end of a document says nothing about its events. -/
theorem documentEnd {α : Type} {P : α → EventReader → Prop} {next : Unit → EventStep α}
    (h : Ensures P (next ()) reader) : Ensures P (documentEnd >>= next) reader := by
  refine bind (P := fun _ middle => middle = reader) ?_ fun _ middle hmiddle => ?_
  · refine peek fun token => ?_
    split
    · trivial
    · trivial
    · exact rfl
  · subst hmiddle
    exact h

/-- The first document is a construct, if there is one. -/
theorem firstDocument (h : Fresh reader) :
    Ensures (fun events _ => events = [] ∨ ∃ root : Construct, events = root.events ∧
      ∃ last, Numbered 0 events last) firstDocument reader := by
  refine get (peek fun _ => skip fun tokens => ?_)
  refine bind (documentEnds _ ?_) fun _ start hstart => ?_
  · exact h
  · refine bind (documentStart _ hstart) fun explicit middle hmiddle => ?_
    refine bind (contents _ explicit hmiddle) fun events last hevents => ?_
    exact documentEnd hevents

end Ensures

end EventStep

/-- The events of a text are none or those of one construct, with its anchors numbered from one. -/
theorem Event.ofText_construct (text : String) :
    Gives (fun events => events = [] ∨ ∃ root : Construct, events = root.events ∧
      ∃ last, Numbered 0 events last) (Event.ofText text) := by
  unfold Event.ofText
  exact Gives.map_iff.mpr (EventStep.Ensures.firstDocument ⟨rfl, rfl, rfl⟩)

end RecordRecipe.Yaml
