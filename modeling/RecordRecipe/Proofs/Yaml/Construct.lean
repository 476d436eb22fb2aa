import RecordRecipe.Yaml.Event

/-!
# Constructs behind events

What a document writes is a construct: a scalar, an alias, or a collection of constructs. Its events
are those of the parts between a start and an end, and they determine it:
`Construct.events_append_injective`. The anchors of a document are numbered in the order of their
events, and an alias names one that has begun: `Numbered`.
-/

namespace RecordRecipe.Yaml

/-- What a document writes. Anchors are numbers, and zero is no anchor. -/
inductive Construct where
  | scalar (line : Nat) (plain : Bool) (content : String) (anchor : Nat)
  | aliasOf (line anchor : Nat)
  | sequence (line anchor : Nat) (items : List Construct) (endLine : Nat)
  | mapping (line anchor : Nat) (entries : List (Construct × Construct)) (endLine : Nat)

namespace Construct

mutual

/-- The events of a construct. -/
def events : Construct → List MarkedEvent
  | scalar line plain content anchor => [⟨.scalar plain content anchor, line⟩]
  | aliasOf line anchor => [⟨.alias anchor, line⟩]
  | sequence line anchor items endLine =>
      ⟨.sequenceStart anchor, line⟩ :: (itemsEvents items ++ [⟨.sequenceEnd, endLine⟩])
  | mapping line anchor entries endLine =>
      ⟨.mappingStart anchor, line⟩ :: (entriesEvents entries ++ [⟨.mappingEnd, endLine⟩])

/-- The events of the items of a sequence. -/
def itemsEvents : List Construct → List MarkedEvent
  | [] => []
  | item :: rest => events item ++ itemsEvents rest

/-- The events of the entries of a mapping, each value behind its key. -/
def entriesEvents : List (Construct × Construct) → List MarkedEvent
  | [] => []
  | (key, value) :: rest => events key ++ (events value ++ entriesEvents rest)

end

mutual

/-- The anchors that the aliases in a construct name. -/
def aliases : Construct → List Nat
  | scalar .. => []
  | aliasOf _ anchor => [anchor]
  | sequence _ _ items _ => itemsAliases items
  | mapping _ _ entries _ => entriesAliases entries

/-- The anchors that the aliases in the items of a sequence name. -/
def itemsAliases : List Construct → List Nat
  | [] => []
  | item :: rest => aliases item ++ itemsAliases rest

/-- The anchors that the aliases in the entries of a mapping name. -/
def entriesAliases : List (Construct × Construct) → List Nat
  | [] => []
  | (key, value) :: rest => aliases key ++ (aliases value ++ entriesAliases rest)

end

mutual

/-- No alias stands inside the collection whose anchor it names. -/
def Grounded : Construct → Prop
  | scalar .. | aliasOf .. => True
  | sequence _ anchor items _ => (0 < anchor → anchor ∉ itemsAliases items) ∧ GroundedItems items
  | mapping _ anchor entries _ =>
      (0 < anchor → anchor ∉ entriesAliases entries) ∧ GroundedEntries entries

/-- No alias among the items of a sequence stands inside the collection it names. -/
def GroundedItems : List Construct → Prop
  | [] => True
  | item :: rest => Grounded item ∧ GroundedItems rest

/-- No alias among the entries of a mapping stands inside the collection it names. -/
def GroundedEntries : List (Construct × Construct) → Prop
  | [] => True
  | (key, value) :: rest => Grounded key ∧ Grounded value ∧ GroundedEntries rest

end

/-- The first event of a construct ends nothing. -/
theorem exists_events_eq_cons (construct : Construct) :
    ∃ first rest, construct.events = first :: rest ∧
      first.event ≠ .sequenceEnd ∧ first.event ≠ .mappingEnd := by
  cases construct with
  | scalar | aliasOf | sequence | mapping =>
      rw [events]
      exact ⟨_, _, rfl, nofun, nofun⟩

/-- Events of a construct do not begin like the end of a collection. -/
theorem events_append_ne {construct : Construct} {after others : List MarkedEvent}
    {last : MarkedEvent} (hlast : last.event = .sequenceEnd ∨ last.event = .mappingEnd) :
    construct.events ++ after ≠ last :: others := by
  obtain ⟨first, rest, hevents, hsequence, hmapping⟩ := construct.exists_events_eq_cons
  intro h
  obtain ⟨rfl, -⟩ : first = last ∧ rest ++ after = others := by simpa [hevents] using h
  exact hlast.elim hsequence hmapping

mutual

/-- Events in front of others determine their construct. -/
theorem events_append_injective : (construct other : Construct) → {after rest : List MarkedEvent} →
    construct.events ++ after = other.events ++ rest → construct = other ∧ after = rest
  | .scalar .., other, _, _, h => by
      cases other with
      | scalar => simpa [events, and_assoc, and_comm, and_left_comm] using h
      | aliasOf | sequence | mapping => simp [events] at h
  | .aliasOf .., other, _, _, h => by
      cases other with
      | aliasOf => simpa [events, and_assoc, and_comm, and_left_comm] using h
      | scalar | sequence | mapping => simp [events] at h
  | .sequence line anchor items endLine, other, after, rest, h => by
      cases other with
      | sequence otherLine otherAnchor others otherEnd =>
          simp only [events, List.cons_append, List.append_assoc, List.cons.injEq,
            MarkedEvent.mk.injEq, Event.sequenceStart.injEq] at h
          obtain ⟨⟨rfl, rfl⟩, h⟩ := h
          obtain ⟨rfl, rfl, rfl⟩ := itemsEvents_append_injective items others h
          exact ⟨rfl, rfl⟩
      | scalar | aliasOf | mapping => simp [events] at h
  | .mapping line anchor entries endLine, other, after, rest, h => by
      cases other with
      | mapping otherLine otherAnchor others otherEnd =>
          simp only [events, List.cons_append, List.append_assoc, List.cons.injEq,
            MarkedEvent.mk.injEq, Event.mappingStart.injEq] at h
          obtain ⟨⟨rfl, rfl⟩, h⟩ := h
          obtain ⟨rfl, rfl, rfl⟩ := entriesEvents_append_injective entries others h
          exact ⟨rfl, rfl⟩
      | scalar | aliasOf | sequence => simp [events] at h

theorem itemsEvents_append_injective : (items others : List Construct) → {line otherLine : Nat} →
    {after rest : List MarkedEvent} →
    itemsEvents items ++ ⟨.sequenceEnd, line⟩ :: after =
      itemsEvents others ++ ⟨.sequenceEnd, otherLine⟩ :: rest →
    items = others ∧ line = otherLine ∧ after = rest
  | [], [], _, _, _, _, h => by simpa [itemsEvents] using h
  | [], other :: _, _, _, _, _, h => by
      rw [itemsEvents, itemsEvents, List.append_assoc] at h
      exact absurd h.symm (events_append_ne (.inl rfl))
  | item :: _, [], _, _, _, _, h => by
      rw [itemsEvents, itemsEvents, List.append_assoc] at h
      exact absurd h (events_append_ne (.inl rfl))
  | item :: items, other :: others, _, _, _, _, h => by
      rw [itemsEvents, itemsEvents, List.append_assoc, List.append_assoc] at h
      obtain ⟨rfl, hitems⟩ := events_append_injective item other h
      obtain ⟨rfl, hline, hrest⟩ := itemsEvents_append_injective items others hitems
      exact ⟨rfl, hline, hrest⟩

theorem entriesEvents_append_injective : (entries others : List (Construct × Construct)) →
    {line otherLine : Nat} → {after rest : List MarkedEvent} →
    entriesEvents entries ++ ⟨.mappingEnd, line⟩ :: after =
      entriesEvents others ++ ⟨.mappingEnd, otherLine⟩ :: rest →
    entries = others ∧ line = otherLine ∧ after = rest
  | [], [], _, _, _, _, h => by simpa [entriesEvents] using h
  | [], (key, _) :: _, _, _, _, _, h => by
      rw [entriesEvents, entriesEvents, List.append_assoc] at h
      exact absurd h.symm (events_append_ne (.inr rfl))
  | (key, _) :: _, [], _, _, _, _, h => by
      rw [entriesEvents, entriesEvents, List.append_assoc] at h
      exact absurd h (events_append_ne (.inr rfl))
  | (key, value) :: entries, (otherKey, otherValue) :: others, _, _, _, _, h => by
      simp only [entriesEvents, List.append_assoc] at h
      obtain ⟨rfl, hvalue⟩ := events_append_injective key otherKey h
      obtain ⟨rfl, hentries⟩ := events_append_injective value otherValue hvalue
      obtain ⟨rfl, hline, hrest⟩ := entriesEvents_append_injective entries others hentries
      exact ⟨rfl, hline, hrest⟩

end

/-- Two constructs with the same events are the same. -/
theorem events_injective {construct other : Construct} (h : construct.events = other.events) :
    construct = other :=
  (events_append_injective construct other (congrArg (· ++ []) h)).1

end Construct

/-- The anchor of a node is none, or the one after those that have begun so far. -/
def Numbers (anchor before after : Nat) : Prop :=
  anchor = 0 ∧ after = before ∨ anchor = before + 1 ∧ after = anchor

/-- An event leads from one last anchor to the next. An alias names an anchor that has begun. -/
def Event.Advances (before : Nat) : Event → Nat → Prop
  | .scalar _ _ anchor, after | .sequenceStart anchor, after | .mappingStart anchor, after =>
      Numbers anchor before after
  | .alias anchor, after => 0 < anchor ∧ anchor ≤ before ∧ after = before
  | .sequenceEnd, after | .mappingEnd, after => after = before

/-- Events lead from one last anchor to the next. -/
def Numbered : Nat → List MarkedEvent → Nat → Prop
  | before, [], after => after = before
  | before, marked :: rest, after =>
      ∃ between, marked.event.Advances before between ∧ Numbered between rest after

/-- Events in front of others lead to where the others begin. -/
theorem numbered_append {first second : List MarkedEvent} {before after : Nat} :
    Numbered before (first ++ second) after ↔
      ∃ between, Numbered before first between ∧ Numbered between second after := by
  induction first generalizing before with
  | nil => simp [Numbered]
  | cons marked rest ih =>
      simp only [List.cons_append, Numbered, ih]
      constructor
      · rintro ⟨start, hstart, between, hrest, hsecond⟩
        exact ⟨between, ⟨start, hstart, hrest⟩, hsecond⟩
      · rintro ⟨between, ⟨start, hstart, hrest⟩, hsecond⟩
        exact ⟨start, hstart, between, hrest, hsecond⟩

/-- The events of a sequence number its anchor first and then those of its items. -/
theorem Construct.numbered_sequence {line anchor endLine before after : Nat}
    {items : List Construct}
    (h : Numbered before (Construct.sequence line anchor items endLine).events after) :
    ∃ between, Numbers anchor before between ∧ Numbered between (itemsEvents items) after := by
  rw [events, Numbered] at h
  obtain ⟨between, hanchor, hitems⟩ := h
  obtain ⟨_, hitems, _, rfl, rfl⟩ := numbered_append.mp hitems
  exact ⟨between, hanchor, hitems⟩

/-- The events of a mapping number its anchor first and then those of its entries. -/
theorem Construct.numbered_mapping {line anchor endLine before after : Nat}
    {entries : List (Construct × Construct)}
    (h : Numbered before (Construct.mapping line anchor entries endLine).events after) :
    ∃ between, Numbers anchor before between ∧
      Numbered between (entriesEvents entries) after := by
  rw [events, Numbered] at h
  obtain ⟨between, hanchor, hentries⟩ := h
  obtain ⟨_, hentries, _, rfl, rfl⟩ := numbered_append.mp hentries
  exact ⟨between, hanchor, hentries⟩

end RecordRecipe.Yaml
