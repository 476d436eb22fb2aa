import RecordRecipe.Proofs.Run.Written
import RecordRecipe.Proofs.Text.Dot

/-!
# Graphs of runs

The graph sink draws an edge for every reference that sinks see, under the tables and the ids of
the two rows, and a node for every row, under its table and what it shows under `id`. A field `id`
takes the place of the id there, so that an edge may lead to no node, or to another row's.
`Recipe.graph_pictures` says exactly when the graph of a run pictures its rows, and that it does so
where no table lists a field `id`.
-/

namespace RecordRecipe

open RecordRecipe.Sink (Drawing dot dotEscape edgeLine edgeLines idText labelPart nodeLabel nodeLine
  nodeName)
open RecordRecipe.Dot (IsClosed Statement nodeText quote)

/-! ## Rows as nodes and edges -/

/-- A value as a graph shows it. -/
def FieldValue.drawn (value : FieldValue) : FieldValue :=
  match value.flatten with
  | .bool flag => .int (if flag then 1 else 0)
  | .date day => .text (FieldValue.date day).display
  | .moment time => .text (FieldValue.moment time).display
  | shown => shown

theorem FieldValue.encode_flat (sink : String) (value : FieldValue) :
    value.encode sink .flat = .ok value.drawn := by
  cases value <;> rfl

/-- The references among some fields that sinks see. -/
def visibleReferences (fields : Assoc FieldValue) : List (String × RowRef) :=
  (references fields).filter fun reference => !isHidden reference.1

namespace Row

variable (row : Row)

/-- A row as a graph shows it. -/
def drawn : EncodedRow :=
  Assoc.putAll ((row.fields.filter fun field => !isHidden field.1).map fun field =>
    (field.1, field.2.drawn)) [("id", .ofInt row.id)]

/-- What a row shows under `id`. -/
def shownId : String := idText row.drawn

/-- The edges of a row. -/
def edges : List Statement :=
  (visibleReferences row.fields).map fun reference =>
    .edge (nodeText row.table (toString row.id))
      (nodeText reference.2.table (toString reference.2.id)) (dotEscape reference.1)

/-- The node of a row. -/
def node : Statement :=
  .node (nodeText row.table row.shownId) (nodeLabel row.table row.drawn)

/-- The edges and the node of a row. -/
def statements : List Statement := row.edges ++ [row.node]

end Row

/-- The graph of some rows. -/
def graphOf (rows : List Row) : List Statement := rows.flatMap Row.statements

namespace Sink

theorem nodeName_eq_quote (table id : String) : nodeName table id = quote (nodeText table id) := by
  simp [nodeName, quote, nodeText, String.append_assoc]

theorem edgeLine_eq (source field : String) (target : RowRef) :
    edgeLine (quote source) field target =
      (Statement.edge source (nodeText target.table (toString target.id)) (dotEscape field)).text := by
  rw [edgeLine, nodeName_eq_quote]
  refine String.toList_inj.mp ?_
  simp [Statement.text, quote]

theorem edgeLines_eq (source : String) (fields : Assoc FieldValue) :
    edgeLines (quote source) fields =
      String.join ((visibleReferences fields).map fun reference =>
        (Statement.edge source (nodeText reference.2.table (toString reference.2.id))
          (dotEscape reference.1)).text) := by
  unfold visibleReferences
  induction fields with
  | nil => rfl
  | cons first rest ih =>
      obtain ⟨name, value⟩ := first
      cases value with
      | row target =>
          have hreferences : references ((name, .row target) :: rest) =
              (name, target) :: references rest := rfl
          rw [edgeLines, ih, hreferences]
          cases hhidden : isHidden name with
          | true => simp [hhidden]
          | false => simp [hhidden, edgeLine_eq]
      | _ => exact ih

/-- The node of a row as it is stored. -/
def nodeOf (table : String) (row : EncodedRow) : Statement :=
  .node (nodeText table (idText row)) (nodeLabel table row)

theorem nodeLine_eq (table : String) (row : EncodedRow) :
    nodeLine table row = (nodeOf table row).text := by
  rw [nodeLine, nodeName_eq_quote]
  refine String.toList_inj.mp ?_
  simp [nodeOf, Statement.text, quote]

@[simp] theorem Drawing.start_write (more : String) (state : Drawing) :
    (state.write more).start = state.write more := by
  have hstarted : state.start.started = true := by
    unfold Drawing.start
    split
    next h => exact h
    next => rfl
  exact if_pos hstarted

/-- Writing a row adds its edges and its node to the graph. -/
theorem dot_write (row : Row) (state : Drawing) :
    ∃ last, dot.write row state = (.ok (), last) ∧
      last.start.text = state.start.text ++ String.join (row.statements.map Statement.text) := by
  have hencode : encodeFields "dot" .flat row.fields [("id", .ofInt row.id)] = .ok row.drawn :=
    encodeFields_of_total (FieldValue.encode_flat "dot") row.fields _
  refine ⟨((state.write (edgeLines (nodeName row.table (toString row.id)) row.fields)).write
    (nodeLine row.table row.drawn)), ?_, ?_⟩
  · change ((do
      let encoded ← Action.lift (encodeFields "dot" .flat row.fields [("id", .ofInt row.id)])
      Action.modify (Drawing.write (nodeLine row.table encoded))) : Action Drawing Unit) _ = _
    rw [hencode]
    rfl
  · rw [Drawing.start_write, nodeName_eq_quote, edgeLines_eq, nodeLine_eq]
    change (state.write _).start.text ++ _ = _
    rw [Drawing.start_write]
    change (state.start.text ++ _) ++ _ = _
    have hnode : nodeOf row.table row.drawn = row.node := rfl
    simp [Row.statements, Row.edges, hnode, Function.comp_def, String.append_assoc]

/-- A graph to which rows have been written has all their edges and nodes. -/
theorem dot_takes {rows : List Row} {before after : Drawing} (h : dot.Takes rows before after) :
    after.start.text = before.start.text ++ String.join ((graphOf rows).map Statement.text) := by
  induction h with
  | none => simp [graphOf]
  | @write _ _ middle last row _ hwrite ih =>
      obtain ⟨written, hwritten, htext⟩ := dot_write row middle
      obtain rfl : written = last := congrArg Prod.snd (hwritten.symm.trans hwrite)
      rw [htext, ih]
      simp [graphOf, String.append_assoc]
  | @flush _ _ middle last _ hflush ih =>
      obtain rfl : middle = last := congrArg Prod.snd hflush
      exact ih

/-- Closing ends the graph. -/
theorem dot_close {rows : List Row} {state : Drawing} (h : dot.Takes rows {} state) :
    ∃ last, dot.close state = (.ok (), last) ∧ last.text = Dot.text (graphOf rows) := by
  refine ⟨_, rfl, ?_⟩
  change state.start.text ++ _ = _
  rw [dot_takes h]
  rfl

end Sink

/-! ## Closed texts -/

theorem Dot.isClosed_label (table : String) (row : EncodedRow) : IsClosed (nodeLabel table row) := by
  refine (Dot.isClosed_dotEscape _).append (IsClosed.join fun part hpart => ?_)
  obtain ⟨field, _, rfl⟩ := List.mem_map.mp hpart
  have hmark : IsClosed "\\n" := by decide
  have hcolon : IsClosed ": " := by decide
  exact ((hmark.append (Dot.isClosed_dotEscape _)).append hcolon).append (Dot.isClosed_dotEscape _)

theorem Dot.isClosed_nodeText (table : String) {id : String} (h : IsClosed id) :
    IsClosed (nodeText table id) := by
  have hspace : IsClosed " " := by decide
  exact ((Dot.isClosed_dotEscape table).append hspace).append h

theorem Dot.isClosed_toString (id : Nat) : IsClosed (toString id) :=
  Dot.isClosed_of_plain fun _ hc => by
    have hdigit := Dot.isDigit_of_mem_toString hc
    constructor <;> (rintro rfl; exact absurd hdigit (by decide))

/-- The graph of rows is read as it has been written, if what the rows show under `id` is closed. -/
theorem graph?_graphOf {rows : List Row} (h : ∀ row ∈ rows, IsClosed row.shownId) :
    Dot.graph? (Dot.text (graphOf rows)) = some (graphOf rows) := by
  refine Dot.graph?_text fun statement hstatement => ?_
  obtain ⟨row, hrow, hstatement⟩ := List.mem_flatMap.mp hstatement
  obtain hedge | hnode := List.mem_append.mp hstatement
  · obtain ⟨reference, _, rfl⟩ := List.mem_map.mp hedge
    exact ⟨Dot.isClosed_nodeText _ (Dot.isClosed_toString _),
      Dot.isClosed_nodeText _ (Dot.isClosed_toString _), Dot.isClosed_dotEscape _⟩
  · obtain rfl := List.mem_singleton.mp hnode
    exact ⟨Dot.isClosed_nodeText _ (h row hrow), Dot.isClosed_label _ _⟩

/-! ## Pictures -/

/-- A graph pictures rows that have been handed over under some names: every row is declared by one
node, which has its name; different rows have different names; and every reference that sinks see is
an edge from the name of the row that holds it to the name of the row that is referenced, which is
one of those that are declared. -/
structure Pictures (name : RowRef → String) (handed : List Handing) (graph : List Statement) :
    Prop where
  nodes : graph.filterMap Statement.name? = handed.map fun handing => name handing.row
  distinct : (handed.map fun handing => name handing.row).Nodup
  edges : graph.filterMap Statement.ends? = handed.flatMap fun handing =>
    (visibleReferences handing.fields).map fun reference =>
      (name handing.row, name reference.2, dotEscape reference.1)
  declared : ∀ handing ∈ handed, ∀ reference ∈ visibleReferences handing.fields,
    reference.2 ∈ handed.map Handing.row

/-- The names of nodes differ, and rows at the ends of edges show their ids under `id`. -/
structure NamesAgree (handed : List Handing) : Prop where
  distinct : (handed.map fun handing =>
    nodeText handing.row.table handing.written.shownId).Nodup
  shown : ∀ handing ∈ handed, ∀ reference ∈ visibleReferences handing.fields, ∀ other ∈ handed,
    other.row = handing.row ∨ other.row = reference.2 →
      other.written.shownId = toString other.row.id

/-- Lists of equally long pieces are the same only if their pieces are. -/
theorem flatMap_eq_iff {α β : Type} {items : List α} {first second : α → List β}
    (hlength : ∀ item ∈ items, (first item).length = (second item).length) :
    items.flatMap first = items.flatMap second ↔ ∀ item ∈ items, first item = second item := by
  induction items with
  | nil => simp
  | cons item items ih =>
      obtain ⟨hitem, hitems⟩ := List.forall_mem_cons.mp hlength
      rw [List.flatMap_cons, List.flatMap_cons, List.forall_mem_cons, ← ih hitems]
      exact ⟨fun h => List.append_inj h hitem, fun h => by rw [h.1, h.2]⟩

theorem Row.names_statements (row : Row) :
    row.statements.filterMap Statement.name? = [nodeText row.table row.shownId] := by
  simp [statements, edges, node, Statement.name?]

theorem Row.ends_statements (row : Row) :
    row.statements.filterMap Statement.ends? = (visibleReferences row.fields).map fun reference =>
      (nodeText row.table (toString row.id),
        nodeText reference.2.table (toString reference.2.id), dotEscape reference.1) := by
  simp [statements, edges, node, Function.comp_def, Statement.ends?]

theorem names_graphOf (handed : List Handing) :
    (graphOf (handed.map Handing.written)).filterMap Statement.name? =
      handed.map fun handing => nodeText handing.row.table handing.written.shownId := by
  rw [graphOf, List.filterMap_flatMap, List.flatMap_map]
  simp only [Row.names_statements]
  exact List.map_eq_flatMap.symm

theorem ends_graphOf (handed : List Handing) :
    (graphOf (handed.map Handing.written)).filterMap Statement.ends? =
      handed.flatMap fun handing => (visibleReferences handing.fields).map fun reference =>
        (nodeText handing.row.table (toString handing.row.id),
          nodeText reference.2.table (toString reference.2.id), dotEscape reference.1) := by
  rw [graphOf, List.filterMap_flatMap, List.flatMap_map]
  simp only [Row.ends_statements]
  rfl

variable {handed : List Handing}

/-- If a graph pictures its rows, the names under which they are declared agree with their edges. -/
theorem Pictures.namesAgree {name : RowRef → String}
    (h : Pictures name handed (graphOf (handed.map Handing.written))) : NamesAgree handed := by
  have hnames : ∀ handing ∈ handed,
      nodeText handing.row.table handing.written.shownId = name handing.row :=
    List.map_inj_left.mp ((names_graphOf handed).symm.trans h.nodes)
  have hends : ∀ handing ∈ handed, ∀ reference ∈ visibleReferences handing.fields,
      nodeText handing.row.table (toString handing.row.id) = name handing.row ∧
        nodeText reference.2.table (toString reference.2.id) = name reference.2 := by
    intro handing hhanding reference hreference
    have hedges := (flatMap_eq_iff (fun _ _ => by simp)).mp ((ends_graphOf handed).symm.trans h.edges)
    have hedge := List.map_inj_left.mp (hedges handing hhanding) reference hreference
    obtain ⟨hsource, hrest⟩ := Prod.mk.inj hedge
    exact ⟨hsource, (Prod.mk.inj hrest).1⟩
  constructor
  · rw [List.map_congr_left hnames]
    exact h.distinct
  · intro handing hhanding reference hreference other hother hrow
    obtain ⟨hsource, htarget⟩ := hends handing hhanding reference hreference
    have hdrawn : nodeText other.row.table (toString other.row.id) = name other.row := by
      rcases hrow with hrow | hrow
      · rw [hrow, hsource]
      · rw [hrow, htarget]
    exact Dot.nodeText_id_inj ((hnames other hother).trans hdrawn.symm)

/-- If names agree, the graph pictures its rows under the names under which they are declared. -/
theorem NamesAgree.pictures (h : NamesAgree handed) (hrows : (handed.map Handing.row).Nodup)
    (hdeclared : ∀ handing ∈ handed, ∀ reference ∈ visibleReferences handing.fields,
      reference.2 ∈ handed.map Handing.row) :
    ∃ name, Pictures name handed (graphOf (handed.map Handing.written)) := by
  let name (row : RowRef) : String :=
    ((handed.find? fun handing => handing.row = row).map fun handing =>
      nodeText handing.row.table handing.written.shownId).getD ""
  have hname : ∀ handing ∈ handed,
      nodeText handing.row.table handing.written.shownId = name handing.row := by
    intro handing hhanding
    have hfound : (handed.find? fun other => other.row = handing.row) = some handing := by
      cases hfind : handed.find? fun other => other.row = handing.row with
      | none => simpa using List.find?_eq_none.mp hfind handing hhanding
      | some other =>
          have hrow : other.row = handing.row := by simpa using List.find?_some hfind
          have hother := List.mem_of_find?_eq_some hfind
          rw [List.inj_on_of_nodup_map hrows hother hhanding hrow]
    simp only [name, hfound, Option.map_some, Option.getD_some]
  refine ⟨name, (names_graphOf handed).trans (List.map_congr_left hname), ?_, ?_, hdeclared⟩
  · rw [← List.map_congr_left hname]
    exact h.distinct
  · rw [ends_graphOf]
    refine List.flatMap_congr fun handing hhanding => List.map_congr_left fun reference hreference => ?_
    obtain ⟨other, hother, hrow⟩ := List.mem_map.mp (hdeclared handing hhanding reference hreference)
    have hsource := h.shown handing hhanding reference hreference handing hhanding (.inl rfl)
    have htarget := h.shown handing hhanding reference hreference other hother (.inr hrow)
    rw [← hrow, ← hname handing hhanding, ← hname other hother, hsource, htarget]

/-- A row without a field `id` shows its id, as long as that fits into 63 bits. -/
theorem Row.shownId_of_none (row : Row) (hkeys : row.fields.keys.Nodup)
    (hnone : row.fields.find? "id" = none) (hid : row.id < 2 ^ 63) :
    row.shownId = toString row.id := by
  have hfound : row.drawn.find? "id" = some (.ofInt row.id) := by
    rw [drawn, find?_putAll_visible hkeys FieldValue.drawn _ (by decide), hnone]
    rfl
  have hint : (Int64.ofInt row.id).toInt = row.id := by
    rw [Int64.toInt_ofInt]
    unfold Int.bmod
    simp only [Int64.size]
    omega
  unfold shownId idText
  rw [hfound]
  show toString (Int64.ofInt row.id).toInt = _
  rw [hint]
  rfl

/-- Where rows show their ids, their names agree. -/
theorem namesAgree_of_shown
    (hids : (handed.map fun handing => (handing.row.table, handing.row.id)).Nodup)
    (hshown : ∀ handing ∈ handed, handing.written.shownId = toString handing.row.id) :
    NamesAgree handed := by
  refine ⟨?_, fun _ _ _ _ other hother _ => hshown other hother⟩
  have hnames : ∀ handing ∈ handed, nodeText handing.row.table handing.written.shownId =
      nodeText handing.row.table (toString handing.row.id) :=
    fun handing hhanding => by rw [hshown handing hhanding]
  rw [List.map_congr_left hnames]
  have hinjective : Function.Injective fun pair : String × Nat =>
      nodeText pair.1 (toString pair.2) := by
    intro pair other heq
    obtain ⟨htable, hid⟩ := Dot.nodeText_inj heq
    exact Prod.ext htable hid
  have hnodup := hids.map hinjective
  rw [List.map_map] at hnodup
  exact hnodup

namespace Recipe

/-- A run that succeeds with the graph sink, and is followed by closing the sink, leaves the graph of
the rows that have been handed over, which are all that have been made. The text is read as this graph
if what the rows show under `id` is closed. The graph pictures the rows if and only if their names
agree; so it does wherever no table lists a field `id`. -/
theorem graph_pictures {recipe : Recipe} {request : Request} {summary : Summary}
    (hrecipe : recipe.Plain) (hrequest : request.Plain)
    (hdone : (recipe.generate request Sink.dot {}).1 = .ok summary) :
    let log := (recipe.observe request Sink.dot {}).2.out
    let graph := graphOf (log.handed.map Handing.written)
    ∃ last, (recipe.generate request Sink.dot >>= fun _ => Sink.dot.close) {} = (.ok (), last) ∧
      last.text = Dot.text graph ∧
      log.started.Perm (log.handed.map Handing.row) ∧
      ((∀ handing ∈ log.handed, IsClosed handing.written.shownId) →
        Dot.graph? last.text = some graph) ∧
      ((∃ name, Pictures name log.handed graph) ↔ NamesAgree log.handed) ∧
      ((∀ table, ¬ recipe.tables.Lists table "id") →
        (∀ table, (recipe.observe request Sink.dot {}).2.registry.ids.value table < 2 ^ 63) →
        Dot.graph? last.text = some graph ∧ ∃ name, Pictures name log.handed graph) := by
  intro log graph
  obtain ⟨declared, hdeclare, htakes⟩ := generate_takes hdone
  obtain rfl : {} = declared := congrArg Prod.snd hdeclare
  obtain ⟨last, hclose, htext⟩ := Sink.dot_close htakes
  have hrun : (recipe.generate request Sink.dot >>= fun _ => Sink.dot.close) {} = (.ok (), last) := by
    have hgenerated : recipe.generate request Sink.dot {} =
        (.ok summary, (recipe.generate request Sink.dot {}).2) := Prod.ext hdone rfl
    rw [Action.bind_apply, hgenerated]
    exact hclose
  rw [generate_eq_observe] at hdone
  have hkeeps := listed_keeps hrecipe hrequest
  have hsettled := settled_of_done hkeeps hdone
  have hwithin := Simulation.steps_within (Progress.first_within _ _) (observe_steps hkeeps hdone)
  have hdeclared : ∀ handing ∈ log.handed, ∀ reference ∈ visibleReferences handing.fields,
      reference.2 ∈ log.handed.map Handing.row := fun handing hhanding reference hreference =>
    hsettled.handed_of_reference hwithin hhanding (List.mem_of_mem_filter hreference)
  have hiff : (∃ name, Pictures name log.handed graph) ↔ NamesAgree log.handed :=
    ⟨fun ⟨_, hpictures⟩ => hpictures.namesAgree,
      fun hagree => hagree.pictures hsettled.ledger.nodup_handed hdeclared⟩
  have hread (hclosed : ∀ handing ∈ log.handed, IsClosed handing.written.shownId) :
      Dot.graph? last.text = some graph := by
    rw [htext]
    exact graph?_graphOf (List.forall_mem_map.mpr hclosed)
  refine ⟨last, hrun, htext, ?_, hread, hiff, fun hfields hids => ?_⟩
  · have hstarted := hsettled.ledger.accounted
    rw [waiting_nil, List.append_nil] at hstarted
    exact hstarted
  · have hshown : ∀ handing ∈ log.handed, handing.written.shownId = toString handing.row.id := by
      intro handing hhanding
      have hrow := hsettled.ledger.handed_subset (List.mem_map_of_mem hhanding)
      have hid := Nat.lt_of_le_of_lt (hsettled.ledger.id_mem hrow).2 (hids _)
      exact handing.written.shownId_of_none (hsettled.nodup_keys hhanding)
        (hsettled.find?_eq_none hhanding (by decide) (hfields _)) hid
    refine ⟨hread fun handing hhanding => ?_, hiff.mpr (namesAgree_of_shown ?_ hshown)⟩
    · rw [hshown handing hhanding]
      exact Dot.isClosed_toString _
    · simpa [Logged.handedRows, Function.comp_def] using hsettled.ledger.nodup_handed_ids

/-- The graph of six rows, two of which hold a reference, is read from its text and pictures them. -/
theorem graph_pictures_nested :
    ∃ last graph name,
      (nested.generate once Sink.dot >>= fun _ => Sink.dot.close) {} = (.ok (), last) ∧
      Dot.graph? last.text = some graph ∧
      Pictures name (nested.observe once Sink.dot {}).2.out.handed graph ∧
      graph.filterMap Statement.name? =
        ["A 2", "A 1", "A 3", "A 5", "A 4", "A 6"] ∧
      (graph.filterMap Statement.ends?).length = 2 := by
  have hsucceeds : (nested.generate once Sink.dot {}).1.isOk = true := by decide +kernel
  obtain ⟨summary, hdone⟩ := Gives.exists_of_isOk hsucceeds
  obtain ⟨last, hclosed, -, -, -, -, hpictures⟩ := graph_pictures nested_plain once_plain hdone
  have hlists : ∀ table, ¬ nested.tables.Lists table "id" :=
    fun _ hlisted => absurd (nested_lists hlisted) (by decide)
  have hids : ∀ table, (nested.observe once Sink.dot {}).2.registry.ids.value table < 2 ^ 63 := by
    have hlast : (nested.observe once Sink.dot {}).2.registry.ids = [("A", 6)] := by decide +kernel
    intro table
    rw [hlast, Counters.value, Assoc.find?]
    split <;> simp [Assoc.find?]
  obtain ⟨hread, name, hname⟩ := hpictures hlists hids
  exact ⟨last, _, name, hclosed, hread, hname, by decide +kernel, by decide +kernel⟩

/-- A graph whose edge leads to a node that is not declared. -/
theorem graph_of_renumbered :
    (renumbered.generate once Sink.dot {}).1.isOk = true ∧
    (renumbered.observe once Sink.dot {}).2.out.started.map (fun row => (row.table, row.id)) =
      [("B", 1), ("A", 1)] ∧
    Dot.graph? ((renumbered.generate once Sink.dot >>= fun _ => Sink.dot.close) {}).2.text =
      some [.node "A 7" "A(7)", .edge "B 1" "A 1" "ref", .node "B 1" "B(1)\\nref: 1"] := by
  decide +kernel

end Recipe

end RecordRecipe
