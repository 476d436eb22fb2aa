import RecordRecipe.Expr.Call
import RecordRecipe.Expr.Slice
import RecordRecipe.Proofs.Assoc
import RecordRecipe.Proofs.Containment.Value

/-!
# Operators and filters within rows

What operators, slices and filters make of values whose references lie within some rows holds no
other references. `Value.applyFilter_within` is the result for filters; the filters are gone
through once, in `filterRule?_within`.
-/

namespace RecordRecipe.Expr

variable {rows : RowRef → Prop}

/-- The references in the arguments of a call lie within some rows. -/
structure Arguments.Within (rows : RowRef → Prop) (arguments : Arguments) : Prop where
  positional : ∀ value ∈ arguments.positional, value.Within rows
  named : NamesWithin rows arguments.named

/-- The value under a name is within the rows of the named values. -/
theorem NamesWithin.find? {entries : Assoc Value} (h : NamesWithin rows entries) {name : String} :
    ∀ value ∈ Assoc.find? name entries, value.Within rows :=
  fun _ hvalue => h _ (Assoc.mem_of_find? hvalue)

/-- A value put under a name keeps the named values within rows. -/
theorem NamesWithin.put {entries : Assoc Value} (h : NamesWithin rows entries) {name : String}
    {value : Value} (hvalue : value.Within rows) :
    NamesWithin rows (Assoc.put name value entries) := by
  intro entry hentry
  obtain rfl | hentry := Assoc.mem_put hentry
  · exact hvalue
  · exact h entry hentry

/-- Many values put under their names keep the named values within rows. -/
theorem NamesWithin.putAll {entries more : Assoc Value} (h : NamesWithin rows entries)
    (hmore : NamesWithin rows more) : NamesWithin rows (Assoc.putAll more entries) :=
  fun entry hentry => (Assoc.mem_putAll hentry).elim (hmore entry) (h entry)

/-- Sorting named values keeps them within rows. -/
theorem NamesWithin.mergeSort {entries : Assoc Value} (h : NamesWithin rows entries)
    (le : String × Value → String × Value → Bool) : NamesWithin rows (entries.mergeSort le) :=
  fun entry hentry => h entry (List.mem_mergeSort.mp hentry)

namespace Arguments

/-- All arguments in order are within the rows of the arguments. -/
theorem Within.values {arguments : Arguments} (h : arguments.Within rows) :
    ∀ value ∈ arguments.values, value.Within rows := by
  intro value hvalue
  rw [Arguments.values, List.mem_append] at hvalue
  obtain hvalue | hvalue := hvalue
  · exact h.positional value hvalue
  · split at hvalue
    · obtain rfl : value = entries arguments.named := by simpa using hvalue
      exact Value.within_map.mpr (Value.entries_within_of_names h.named)
    · simp at hvalue

/-- An argument that may be absent is within the rows of the arguments. -/
theorem Within.at? {arguments : Arguments} (h : arguments.Within rows) (index : Nat) :
    ∀ value ∈ arguments.at? index, value.Within rows := by
  intro found hfound
  unfold Arguments.at? at hfound
  split at hfound
  next value hvalue =>
    split at hfound
    · simp at hfound
    · obtain rfl : value = found := by simpa using hfound
      exact h.values value (List.mem_of_getElem? hvalue)
  next => simp at hfound

/-- The arguments with one more by name. -/
theorem Within.withNamed {arguments : Arguments} (h : arguments.Within rows) {name : String}
    {value : Value} (hvalue : value.Within rows) :
    (arguments.withNamed name value).Within rows where
  positional := h.positional
  named := (h.named.put hvalue).mergeSort _

end Arguments

namespace Value

/-- A calculation gives a number. -/
theorem arithmetic_within {sign : String} {ints : Int → Int → Option Int}
    {floats : Number → Number → Number} {a b : Value} :
    Gives (fun value => value.Within rows) (arithmetic sign ints floats a b) := by
  unfold arithmetic checked
  dsimp only
  repeat' split
  all_goals simp

/-- A sum is within the rows of its parts. -/
theorem add_within {a b : Value} (ha : a.Within rows) (hb : b.Within rows) :
    Gives (fun value => value.Within rows) (add a b) := by
  unfold add
  split
  · simp
  · split
    next m first n second hfirst hsecond =>
      refine within_iterable.mpr fun position => ?_
      split
      · exact indexed?_within ha _ hfirst position
      · exact indexed?_within hb _ hsecond (position - m)
    · exact arithmetic_within

/-- Repeated items are within their rows. -/
theorem repeatedItems_within {count : Nat} {item : Nat → Value} {times : Value}
    (h : ∀ position, (item position).Within rows) :
    Gives (fun value => value.Within rows) (repeatedItems count item times) := by
  unfold repeatedItems
  simp only [Gives.bind_iff, Gives.pure_iff, within_iterable]
  exact Gives.of_forall fun _ position => h _

/-- A repeated text is a text. -/
theorem repeated_within {content : String} {times : Value} :
    Gives (fun value => value.Within rows) (repeated content times) := by
  unfold repeated
  rw [Gives.bind_iff]
  refine Gives.of_forall fun count => ?_
  split <;> simp

/-- A product is within the rows of its parts. -/
theorem multiply_within {a b : Value} (ha : a.Within rows) (hb : b.Within rows) :
    Gives (fun value => value.Within rows) (multiply a b) := by
  unfold multiply
  split
  · exact repeated_within
  · exact repeated_within
  · split
    next hitems => exact repeatedItems_within (indexed?_within ha _ hitems)
    next hitems =>
      split
      · trivial
      · exact repeatedItems_within (indexed?_within hb _ hitems)
    · exact arithmetic_within

/-- What an operator gives is within the rows of its operands. -/
theorem operate_within {operator : Operator} {a b : Value} (ha : a.Within rows)
    (hb : b.Within rows) : Gives (fun value => value.Within rows) (operate operator a b) := by
  cases operator with
  | add => exact add_within ha hb
  | multiply => exact multiply_within ha hb
  | divide =>
      unfold operate divide
      dsimp only
      split <;> simp
  | join =>
      unfold operate
      simp only [Gives.bind_iff, Gives.pure_iff, Within.text]
      exact Gives.of_forall fun _ => trivial
  | subtract | floorDivide | remainder | power => exact arithmetic_within

/-- A number with its sign turned is a number. -/
theorem negate_within {value : Value} :
    Gives (fun value => value.Within rows) (negate value) := by
  unfold negate
  repeat' split
  all_goals simp

end Value

/-- A part of a value is within its rows. -/
theorem sliceValue_within {value start stop step : Value} (h : value.Within rows) :
    Gives (fun value => value.Within rows) (sliceValue value start stop step) := by
  unfold sliceValue
  dsimp only
  split
  · simp
  · simp only [Gives.bind_iff]
    refine Gives.of_forall fun start => Gives.of_forall fun stop => Gives.of_forall fun step => ?_
    split
    · simp
    · split
      · simp
      · simp
      next length item _ hitems =>
        exact Value.within_iterable.mpr fun i => Value.indexed?_within h _ hitems _
      · trivial

namespace Value

/-- A filter of characters gives a text. -/
theorem onCharacters_within {change : List Char → List Char} {fieldOf : FieldLookup}
    {value : Value} {arguments : Arguments} :
    Gives (fun value => value.Within rows) (onCharacters change fieldOf value arguments) := by
  unfold onCharacters
  simp only [Gives.bind_iff, Gives.pure_iff, Within.text]
  exact Gives.of_forall fun _ => Gives.of_forall fun _ => trivial

/-- A filter without further arguments gives what its change gives. -/
theorem alone_within {change : Value → Except Fault Value} {fieldOf : FieldLookup}
    {value : Value} {arguments : Arguments}
    (h : Gives (fun value => value.Within rows) (change value)) :
    Gives (fun value => value.Within rows) (alone change fieldOf value arguments) := by
  unfold alone
  rw [Gives.bind_iff]
  exact Gives.of_forall fun _ => h

/-- A filter of items gives what its change gives. -/
theorem onItems_within {change : List Value → Except Fault Value} {fieldOf : FieldLookup}
    {value : Value} {arguments : Arguments} (hvalue : value.Within rows)
    (h : ∀ items : List Value, (∀ item ∈ items, item.Within rows) →
      Gives (fun value => value.Within rows) (change items)) :
    Gives (fun value => value.Within rows) (onItems change fieldOf value arguments) := by
  unfold onItems
  simp only [Gives.bind_iff]
  exact (listItems_within hvalue).imp fun items hitems => Gives.of_forall fun _ => h items hitems

/-- Another value in the place of an undefined one is an argument. -/
theorem orDefault_within {value : Value} {arguments : Arguments} (hvalue : value.Within rows)
    (harguments : arguments.Within rows) :
    Gives (fun value => value.Within rows) (orDefault value arguments) := by
  have hother : ((arguments.values[0]?).getD (text "")).Within rows :=
    within_getD (fun other h => harguments.values other (List.mem_of_getElem? h)) (.text _)
  unfold orDefault
  dsimp only
  rw [Gives.bind_iff]
  refine Gives.of_forall fun _ => ?_
  repeat' split
  all_goals simp [hvalue, hother]

/-- Inserting a value into others adds no other value. -/
theorem mem_insertFromBack {compareTo : Value → Value → Ordering} {value other : Value}
    {values : List Value} (h : other ∈ insertFromBack compareTo value values) :
    other = value ∨ other ∈ values := by
  induction values with
  | nil => simpa [insertFromBack] using h
  | cons last before ih =>
      rw [insertFromBack] at h
      split at h
      · obtain rfl | h := List.mem_cons.mp h
        · exact .inr (by simp)
        · exact (ih h).imp_right (List.mem_cons_of_mem _)
      · simpa using h

/-- A sorted list holds the items of the list. -/
theorem mem_sorted {compareTo : Value → Value → Ordering} {items : List Value} {item : Value}
    (h : item ∈ sorted compareTo items) : item ∈ items := by
  have hfold (todo done : List Value)
      (h : item ∈ todo.foldl (fun done item => insertFromBack compareTo item done) done) :
      item ∈ todo ∨ item ∈ done := by
    induction todo generalizing done with
    | nil => exact .inr h
    | cons first rest ih =>
        obtain h | h := ih _ h
        · exact .inl (List.mem_cons_of_mem _ h)
        · obtain rfl | h := mem_insertFromBack h
          · exact .inl (by simp)
          · exact .inr h
  unfold sorted at h
  split at h
  · simpa using hfold items [] (List.mem_reverse.mp h)
  · exact List.mem_mergeSort.mp h

/-- A sorted list is within the rows of the value. -/
theorem sort_within {fieldOf : FieldLookup} {value : Value} {arguments : Arguments}
    (hvalue : value.Within rows) :
    Gives (fun value => value.Within rows) (sort fieldOf value arguments) := by
  unfold sort
  dsimp only
  split
  · simp
  · simp only [Gives.bind_iff, Gives.pure_iff, within_list]
    refine (listItems_within hvalue).imp fun items hitems => ?_
    refine Gives.of_forall fun _ => Gives.of_forall fun _ => Gives.of_forall fun _ =>
      Gives.of_forall fun _ => ?_
    exact fun item hitem => hitems item (mem_sorted hitem)

/-- The first item is within the rows of the value. -/
theorem first_within {value : Value} (h : value.Within rows) :
    Gives (fun value => value.Within rows) (first value) := by
  unfold first
  split
  · exact within_getD (fun _ => within_of_mem_map_ofChar) within_missing
  · split
    next count item hitems =>
      rw [Gives.ok_iff]
      split
      · exact within_missing
      · exact indexed?_within h _ hitems 0
    · split
      · refine within_getD (fun item hitem => ?_) within_missing
        obtain ⟨entry, hentry, rfl⟩ := Option.map_eq_some_iff.mp hitem
        exact (mapEntries_within h entry (List.mem_of_mem_head? hentry)).1
      · trivial

/-- The last item is within the rows of the value. -/
theorem last_within {value : Value} (h : value.Within rows) :
    Gives (fun value => value.Within rows) (last value) := by
  unfold last
  split
  · exact within_getD (fun _ => within_of_mem_map_ofChar) within_missing
  · split
    next count item hitems =>
      rw [Gives.ok_iff]
      split
      · exact within_missing
      · exact indexed?_within h _ hitems (count - 1)
    · trivial

/-- A choice between items, made step by step, is one of the items. -/
theorem foldl_choice_within {step : Value → Value → Value} {items : List Value} {found : Value}
    (hstep : ∀ found item, step found item = found ∨ step found item = item)
    (hitems : ∀ item ∈ items, item.Within rows) (hfound : found.Within rows) :
    (items.foldl step found).Within rows := by
  induction items generalizing found with
  | nil => exact hfound
  | cons item rest ih =>
      obtain ⟨hitem, hrest⟩ := List.forall_mem_cons.mp hitems
      refine ih hrest ?_
      obtain hchosen | hchosen := hstep found item
      · rwa [hchosen]
      · rwa [hchosen]

/-- The least item is within the rows of the items. -/
theorem least_within {items : List Value} (h : ∀ item ∈ items, item.Within rows) :
    (least items).Within rows := by
  unfold least
  split
  · exact within_missing
  next first rest =>
    obtain ⟨hfirst, hrest⟩ := List.forall_mem_cons.mp h
    refine foldl_choice_within (fun found item => ?_) hrest hfirst
    split <;> simp

/-- The greatest item is within the rows of the items. -/
theorem greatest_within {items : List Value} (h : ∀ item ∈ items, item.Within rows) :
    (greatest items).Within rows := by
  unfold greatest
  split
  · exact within_missing
  next first rest =>
    obtain ⟨hfirst, hrest⟩ := List.forall_mem_cons.mp h
    refine foldl_choice_within (fun found item => ?_) hrest hfirst
    split <;> simp

/-- A value in the opposite order is within its rows. -/
theorem reversed_within {value : Value} (h : value.Within rows) :
    Gives (fun value => value.Within rows) (reversed value) := by
  unfold reversed
  split
  all_goals try simp
  · exact (items_within h).imp fun items hitems =>
      within_produced fun item hitem => hitems item (List.mem_reverse.mp hitem)

/-- Groups of items are within the rows of the items and of what fills them up. -/
theorem batches_within {size fuel : Nat} {filler : Option Value} {items : List Value}
    (hitems : ∀ item ∈ items, item.Within rows) (hfiller : ∀ value ∈ filler, value.Within rows) :
    ∀ group ∈ batches size filler fuel items, group.Within rows := by
  induction fuel generalizing items with
  | zero => simp [batches]
  | succ fuel ih =>
      rw [batches]
      split
      · simp
      · refine List.forall_mem_cons.mpr ⟨?_, ih fun item h => hitems item (List.mem_of_mem_drop h)⟩
        refine within_list.mpr fun item hitem => ?_
        obtain hitem | hitem := List.mem_append.mp hitem
        · exact hitems item (List.mem_of_mem_take hitem)
        · cases filler with
          | none => simp at hitem
          | some value =>
              obtain rfl := List.eq_of_mem_replicate hitem
              exact hfiller item rfl

/-- Items in a number of groups are within the rows of the items and of what fills them up. -/
theorem slices_within {count : Nat} {filler : Option Value} {items : List Value}
    (hitems : ∀ item ∈ items, item.Within rows) (hfiller : ∀ value ∈ filler, value.Within rows) :
    ∀ group ∈ slices count filler items, group.Within rows := by
  intro group hgroup
  obtain ⟨position, _, rfl⟩ := List.mem_map.mp hgroup
  have hpart (size start : Nat) : ∀ item ∈ (items.drop start).take size, item.Within rows :=
    fun item hitem => hitems item (List.mem_of_mem_drop (List.mem_of_mem_take hitem))
  cases filler with
  | none => exact within_list.mpr (hpart _ _)
  | some value =>
      refine within_list.mpr fun item hitem => ?_
      split at hitem
      · exact hpart _ _ item hitem
      · obtain hitem | hitem := List.mem_append.mp hitem
        · exact hpart _ _ item hitem
        · obtain rfl : item = value := by simpa using hitem
          exact hfiller item rfl

/-- Items in groups are within the rows of the value and of the arguments. -/
theorem groupFilter_within {group : Nat → Option Value → List Value → List Value}
    {fieldOf : FieldLookup} {value : Value} {arguments : Arguments} (hvalue : value.Within rows)
    (harguments : arguments.Within rows)
    (hgroup : ∀ count filler (items : List Value), (∀ item ∈ items, item.Within rows) →
      (∀ value ∈ filler, value.Within rows) →
      ∀ found ∈ group count filler items, found.Within rows) :
    Gives (fun value => value.Within rows) (groupFilter group fieldOf value arguments) := by
  unfold groupFilter
  dsimp only
  simp only [Gives.bind_iff]
  refine Gives.of_forall fun _ => Gives.of_forall fun _ => Gives.of_forall fun _ => ?_
  split
  · simp
  · simp only [Gives.bind_iff, Gives.pure_iff, within_list]
    exact (items_within hvalue).imp fun items hitems => hgroup _ _ items hitems (harguments.at? 1)

/-- What stands under a key is within the rows of the value and of the fields of rows. -/
theorem attributeFilter_within {fieldOf : FieldLookup} (hfields : fieldOf.Within rows)
    {value : Value} {arguments : Arguments} (hvalue : value.Within rows) :
    Gives (fun value => value.Within rows) (attributeFilter fieldOf value arguments) := by
  unfold attributeFilter
  dsimp only
  simp only [Gives.bind_iff]
  refine Gives.of_forall fun key => Gives.of_forall fun _ => ?_
  split
  · simp
  · exact within_getD (subscript?_within hfields hvalue key) within_missing

/-- A pair as a list is within the rows of the pair. -/
theorem ofPair_within {pair : Value × Value} (hkey : pair.1.Within rows)
    (hvalue : pair.2.Within rows) : (ofPair pair).Within rows := by
  simp [ofPair, hkey, hvalue]

/-- The entries of a map as pairs are within its rows. -/
theorem pairs_within {value : Value} (h : value.Within rows) :
    Gives (fun entries => ∀ pair ∈ entries.map ofPair, pair.Within rows) (pairs value) := by
  unfold pairs
  split
  · rw [Gives.ok_iff]
    intro pair hpair
    obtain ⟨entry, hentry, rfl⟩ := List.mem_map.mp hpair
    exact ofPair_within (mapEntries_within h entry hentry).1 (mapEntries_within h entry hentry).2
  · trivial

/-- The sorted entries of a map are within its rows. -/
theorem sortedPairsFilter_within {fieldOf : FieldLookup} {value : Value} {arguments : Arguments}
    (hvalue : value.Within rows) :
    Gives (fun value => value.Within rows) (sortedPairsFilter fieldOf value arguments) := by
  unfold sortedPairsFilter
  dsimp only
  split
  · simp
  · simp only [Gives.bind_iff, Gives.pure_iff, within_list]
    refine (pairs_within hvalue).imp fun entries hentries => ?_
    refine Gives.of_forall fun _ => Gives.of_forall fun _ => Gives.of_forall fun _ =>
      Gives.of_forall fun _ => ?_
    exact fun pair hpair => hentries pair (mem_sorted hpair)

/-- The items that differ from earlier ones are among the items. -/
theorem mem_distinct {compared : Value → Value} {seen items : List Value} {item : Value}
    (h : item ∈ distinct compared seen items) : item ∈ items := by
  induction items generalizing seen with
  | nil => simp [distinct] at h
  | cons first rest ih =>
      rw [distinct.eq_def] at h
      dsimp only at h
      split at h
      · exact List.mem_cons_of_mem _ (ih h)
      · obtain rfl | h := List.mem_cons.mp h
        · simp
        · exact List.mem_cons_of_mem _ (ih h)

/-- The items without repetitions are within the rows of the value. -/
theorem distinctFilter_within {fieldOf : FieldLookup} {value : Value} {arguments : Arguments}
    (hvalue : value.Within rows) :
    Gives (fun value => value.Within rows) (distinctFilter fieldOf value arguments) := by
  unfold distinctFilter
  dsimp only
  split
  · simp
  · simp only [Gives.bind_iff, Gives.pure_iff, within_list]
    refine Gives.of_forall fun _ => Gives.of_forall fun _ => Gives.of_forall fun _ => ?_
    exact (items_within hvalue).imp fun items hitems item hitem => hitems item (mem_distinct hitem)

/-- The items that a test chooses are within the rows of the value. -/
theorem choiceFilter_within {accepted withPath : Bool} {fieldOf : FieldLookup} {value : Value}
    {arguments : Arguments} (hvalue : value.Within rows) :
    Gives (fun value => value.Within rows)
      (choiceFilter accepted withPath fieldOf value arguments) := by
  have hchosen (keep : Value → Except Fault Bool) :
      Gives (fun value => value.Within rows)
        (do return list (← (← value.items).filterM keep)) := by
    simp only [Gives.bind_iff, Gives.pure_iff, within_list]
    exact (items_within hvalue).imp fun items hitems => Gives.filterM hitems
  unfold choiceFilter
  dsimp only
  split
  · rw [Gives.bind_iff]
    exact Gives.of_forall fun path => hchosen _
  · exact hchosen _

/-- A sum of numbers is a number. -/
theorem total_within {items : List Value} :
    Gives (fun value => value.Within rows) (total items) := by
  refine Gives.foldlM within_ofNat fun sum hsum item hitem => ?_
  split
  · exact hsum
  · trivial
  · exact add_within hsum (.number _)
  · trivial

/-- The first items of lists are items of the lists. -/
theorem mem_heads {lists : List (List Value)} {heads : List Value}
    (h : lists.mapM List.head? = some heads) :
    ∀ head ∈ heads, ∃ items ∈ lists, head ∈ items := by
  induction lists generalizing heads with
  | nil =>
      obtain rfl : heads = [] := by simpa using h.symm
      simp
  | cons items rest ih =>
      simp only [List.mapM_cons, Option.bind_eq_bind, Option.bind_eq_some_iff, Option.pure_def,
        Option.some.injEq] at h
      obtain ⟨first, hfirst, others, hothers, rfl⟩ := h
      refine List.forall_mem_cons.mpr ⟨⟨items, by simp, List.mem_of_mem_head? hfirst⟩, ?_⟩
      intro head hhead
      obtain ⟨found, hfound, hmem⟩ := ih hothers head hhead
      exact ⟨found, by simp [hfound], hmem⟩

/-- The items of lists side by side are within the rows of the lists. -/
theorem sideBySide_within {fuel : Nat} {lists : List (List Value)}
    (h : ∀ items ∈ lists, ∀ item ∈ items, item.Within rows) :
    ∀ item ∈ sideBySide fuel lists, item.Within rows := by
  induction fuel generalizing lists with
  | zero => simp [sideBySide]
  | succ fuel ih =>
      rw [sideBySide]
      split
      next heads hheads =>
        refine List.forall_mem_cons.mpr ⟨within_list.mpr fun head hhead => ?_, ih ?_⟩
        · obtain ⟨items, hitems, hmem⟩ := mem_heads hheads head hhead
          exact h items hitems head hmem
        · intro items hitems item hitem
          obtain ⟨all, hall, rfl⟩ := List.mem_map.mp hitems
          exact h all hall item (List.mem_of_mem_tail hitem)
      · simp

/-- Joined values are within the rows of the values. -/
theorem chained_within {values : List Value} (h : ∀ value ∈ values, value.Within rows) :
    Gives (fun value => value.Within rows) (chained values) := by
  unfold chained
  split
  · rw [Gives.ok_iff]
    refine mapOf_within fun entry hentry => ?_
    obtain ⟨value, hvalue, hentry⟩ := List.mem_flatMap.mp hentry
    exact mapEntries_within (h value hvalue) entry hentry
  · simp only [Gives.bind_iff, Gives.pure_iff]
    refine (Gives.mapM fun value hvalue => items_within (h value hvalue)).imp fun lists hlists => ?_
    have hitems : ∀ item ∈ lists.flatten, item.Within rows := by
      intro item hitem
      obtain ⟨items, hitems, hitem⟩ := List.mem_flatten.mp hitem
      exact hlists items hitems item hitem
    split
    · exact within_list.mpr hitems
    · exact within_produced hitems

/-- The text without characters at either end is a text. -/
theorem trimFilter_within {fieldOf : FieldLookup} {value : Value} {arguments : Arguments} :
    Gives (fun value => value.Within rows) (trimFilter fieldOf value arguments) := by
  unfold trimFilter
  simp only [Gives.bind_iff]
  refine Gives.of_forall fun _ => Gives.of_forall fun marks => Gives.of_forall fun _ => ?_
  cases marks <;> simp

/-- The text with a pattern replaced is a text. -/
theorem replaceFilter_within {fieldOf : FieldLookup} {value : Value} {arguments : Arguments} :
    Gives (fun value => value.Within rows) (replaceFilter fieldOf value arguments) := by
  unfold replaceFilter
  simp only [Gives.bind_iff, Gives.pure_iff]
  exact Gives.of_forall fun _ => Gives.of_forall fun _ => Gives.of_forall fun _ =>
    Gives.of_forall fun _ => .text _

/-- The pieces of a text are texts. -/
theorem splitFilter_within {fieldOf : FieldLookup} {value : Value} {arguments : Arguments} :
    Gives (fun value => value.Within rows) (splitFilter fieldOf value arguments) := by
  have hpieces (separator limit content) : (split separator limit content).Within rows := by
    unfold split
    dsimp only
    refine within_list.mpr fun item hitem => ?_
    obtain ⟨piece, _, rfl⟩ := List.mem_map.mp hitem
    exact .text _
  unfold splitFilter
  simp only [Gives.bind_iff, Gives.pure_iff]
  exact Gives.of_forall fun _ => Gives.of_forall fun _ => Gives.of_forall fun _ =>
    Gives.of_forall fun _ => hpieces _ _ _

/-- The text with its lines moved in is a text. -/
theorem indentFilter_within {fieldOf : FieldLookup} {value : Value} {arguments : Arguments} :
    Gives (fun value => value.Within rows) (indentFilter fieldOf value arguments) := by
  unfold indentFilter
  simp only [Gives.bind_iff, Gives.pure_iff]
  exact Gives.of_forall fun _ => Gives.of_forall fun _ => Gives.of_forall fun _ =>
    Gives.of_forall fun _ => Gives.of_forall fun _ => Gives.of_forall fun _ => .text _

/-- The lines of a text are texts. -/
theorem lines_within {content : String} : (lines content).Within rows := by
  unfold lines
  refine within_list.mpr fun item hitem => ?_
  obtain ⟨line, _, rfl⟩ := List.mem_map.mp hitem
  exact .text _

/-- The number of items is a number. -/
theorem lengthFilter_within {value : Value} :
    Gives (fun value => value.Within rows) (lengthFilter value) := by
  unfold lengthFilter
  split <;> simp

/-- A rounded number is a number. -/
theorem roundFilter_within {fieldOf : FieldLookup} {value : Value} {arguments : Arguments} :
    Gives (fun value => value.Within rows) (roundFilter fieldOf value arguments) := by
  unfold roundFilter
  simp only [Gives.bind_iff]
  refine Gives.of_forall fun _ => Gives.of_forall fun _ => ?_
  unfold round
  split <;> simp

/-- An absolute value is a number. -/
theorem abs_within {value : Value} : Gives (fun value => value.Within rows) (abs value) := by
  unfold abs
  repeat' split
  all_goals simp

/-- A value made an integer is a number. -/
theorem toInt_within {value : Value} : Gives (fun value => value.Within rows) (toInt value) := by
  unfold toInt
  repeat' split
  all_goals simp

/-- A value made a floating-point number is a number. -/
theorem toFloat_within {value : Value} :
    Gives (fun value => value.Within rows) (toFloat value) := by
  unfold toFloat
  repeat' split
  all_goals simp

/-- The texts of items in a row are a text. -/
theorem joinFilter_within {fieldOf : FieldLookup} {value : Value} {arguments : Arguments} :
    Gives (fun value => value.Within rows) (joinFilter fieldOf value arguments) := by
  unfold joinFilter
  simp only [Gives.bind_iff]
  refine Gives.of_forall fun _ => Gives.of_forall fun _ => ?_
  split
  · simp
  · simp
  · rw [Gives.bind_iff]
    exact Gives.of_forall fun _ => .text _

/-- The filters of the vocabulary keep values within rows. -/
theorem filterRule?_within {name : String} {rule : FilterRule}
    (hrule : filterRule? name = some rule) {fieldOf : FieldLookup}
    (hfields : fieldOf.Within rows) {value : Value} {arguments : Arguments}
    (hvalue : value.Within rows) (harguments : arguments.Within rows) :
    Gives (fun value => value.Within rows) (rule fieldOf value arguments) := by
  have hall : ∀ other ∈ value :: arguments.values, other.Within rows :=
    List.forall_mem_cons.mpr ⟨hvalue, harguments.values⟩
  unfold filterRule? at hrule
  split at hrule <;> cases hrule
  -- The cases stand in the order of the vocabulary.
  iterate 6 exact onCharacters_within
  · exact alone_within (.text _)
  · exact alone_within (.text _)
  · exact trimFilter_within
  · exact replaceFilter_within
  · exact splitFilter_within
  · exact indentFilter_within
  · refine alone_within ?_
    simp only [Gives.bind_iff, Gives.pure_iff]
    exact Gives.of_forall fun _ => lines_within
  · exact alone_within lengthFilter_within
  · exact alone_within lengthFilter_within
  · exact orDefault_within hvalue harguments
  · exact orDefault_within hvalue harguments
  · exact roundFilter_within
  · exact alone_within abs_within
  · exact alone_within toInt_within
  · exact alone_within toFloat_within
  · exact alone_within (.bool _)
  · exact sort_within hvalue
  · exact joinFilter_within
  · exact alone_within (first_within hvalue)
  · exact alone_within (last_within hvalue)
  · exact onItems_within hvalue fun items hitems => least_within hitems
  · exact onItems_within hvalue fun items hitems => greatest_within hitems
  · refine alone_within ?_
    rw [Gives.bind_iff]
    exact Gives.of_forall fun items => total_within
  · exact onItems_within hvalue fun items hitems => .list items hitems
  · exact alone_within (reversed_within hvalue)
  · exact groupFilter_within hvalue harguments fun _ _ _ => batches_within
  · exact groupFilter_within hvalue harguments fun _ _ _ => slices_within
  · refine alone_within ?_
    simp only [Gives.bind_iff, Gives.pure_iff, within_list]
    exact pairs_within hvalue
  · exact sortedPairsFilter_within hvalue
  · exact attributeFilter_within hfields hvalue
  · exact distinctFilter_within hvalue
  iterate 4 exact choiceFilter_within hvalue
  · exact chained_within hall
  · simp only [Gives.bind_iff, Gives.pure_iff]
    refine (Gives.mapM fun other hother => items_within (hall other hother)).imp ?_
    exact fun lists hlists => within_produced (sideBySide_within hlists)

/-- Items with something done to each are within rows if that keeps values within them. -/
theorem mapItems_within {apply : String → Value → Arguments → Except Fault Value}
    {fieldOf : FieldLookup} (hfields : fieldOf.Within rows)
    (happly : ∀ name value arguments, value.Within rows → arguments.Within rows →
      Gives (fun value => value.Within rows) (apply name value arguments))
    {value : Value} {arguments : Arguments} (hvalue : value.Within rows)
    (harguments : arguments.Within rows) :
    Gives (fun value => value.Within rows) (mapItems apply fieldOf value arguments) := by
  have hother : ((arguments.named.find? "default").getD missing).Within rows :=
    within_getD harguments.named.find? within_missing
  unfold mapItems
  split
  next path hpath =>
    dsimp only
    split
    · simp
    · simp only [Gives.bind_iff, Gives.pure_iff, within_list]
      refine (items_within hvalue).imp fun items hitems => ?_
      -- What the path leads to replaces the item, or else the default does.
      refine Gives.imp (Gives.mapM (R := fun value => value.Within rows) fun item hitem => ?_)
        fun found hfound => Gives.of_forall fun _ => hfound
      split
      · split
        next found hfound =>
          rw [Gives.ok_iff]
          split
          · exact hother
          · exact atPath?_within hfields (hitems item hitem) found hfound
        · split
          · trivial
          · exact hother
      · exact within_getD (subscript?_within hfields (hitems item hitem) _) hother
  next =>
    split
    · simp
    next name further hpositional =>
      simp only [Gives.bind_iff, Gives.pure_iff, within_list]
      refine (items_within hvalue).imp fun items hitems => ?_
      refine Gives.mapM fun item hitem => happly name item _ (hitems item hitem) ⟨?_, ?_⟩
      · exact fun other h => harguments.positional other (by simp [hpositional, h])
      · exact harguments.named
    · simp

/-- Filters keep values within rows, however deep they apply one another. -/
theorem applyFilterWithin_within {fieldOf : FieldLookup} (hfields : fieldOf.Within rows)
    (fuel : Nat) (name : String) (value : Value) (arguments : Arguments)
    (hvalue : value.Within rows) (harguments : arguments.Within rows) :
    Gives (fun value => value.Within rows)
      (applyFilterWithin fieldOf fuel name value arguments) := by
  induction fuel generalizing name value arguments with
  | zero => trivial
  | succ fuel ih =>
      rw [applyFilterWithin]
      split
      · exact mapItems_within hfields ih hvalue harguments
      · split
        next rule hrule => exact filterRule?_within hrule hfields hvalue harguments
        next => trivial

/-- A filter keeps values within rows. -/
theorem applyFilter_within {fieldOf : FieldLookup} (hfields : fieldOf.Within rows)
    {name : String} {value : Value} {arguments : Arguments} (hvalue : value.Within rows)
    (harguments : arguments.Within rows) :
    Gives (fun value => value.Within rows) (applyFilter fieldOf name value arguments) :=
  applyFilterWithin_within hfields _ _ _ _ hvalue harguments

end Value

end RecordRecipe.Expr
