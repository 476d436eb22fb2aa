import RecordRecipe.Sink.Csv

/-!
# Reading comma-separated values

A reader of comma-separated values by the grammar of RFC 4180: a cell in quotes may hold any
characters, a quote written twice, and a cell without quotes holds none of the characters that
structure a text. A line without anything is no record. Reading gives back every list of records
that has been written, provided that none of them is without cells: `Csv.records?_recordLines`.
-/

namespace RecordRecipe.Csv

/-! ## The reader -/

/-- Where a reader stands in a cell: before it, in one without quotes, between the quotes of one, or
behind a quote that may be the last. -/
inductive Place where
  | start
  | plain
  | quoted
  | closing
deriving DecidableEq

/-- Read records, of the first of which some cells have been read, and a part of the next cell. -/
def readFrom? (place : Place) (cells : List String) (cell : List Char) :
    List Char → Option (List (List String))
  | [] => if place = .start ∧ cells = [] then some [] else none
  | c :: rest =>
      if place = .quoted then
        if c = '\x22' then readFrom? .closing cells cell rest
        else readFrom? .quoted cells (cell ++ [c]) rest
      else if c = ',' then readFrom? .start (cells ++ [String.ofList cell]) [] rest
      else if c = '\n' then
        if place = .start ∧ cells = [] then readFrom? .start [] [] rest
        else do return (cells ++ [String.ofList cell]) :: (← readFrom? .start [] [] rest)
      else if c = '\x22' then
        if place = .start then readFrom? .quoted cells [] rest
        else if place = .closing then readFrom? .quoted cells (cell ++ [c]) rest
        else none
      else if c = '\r' ∨ place = .closing then none
      else readFrom? .plain cells (cell ++ [c]) rest

/-- The records of a text, each with its cells. -/
def records? (text : String) : Option (List (List String)) :=
  readFrom? .start [] [] text.toList

/-! ## Reading what has been written -/

variable {place : Place} {cells : List String} {cell rest : List Char}

/-- A comma ends a cell that is not open. -/
theorem readFrom?_comma (h : place ≠ .quoted) :
    readFrom? place cells cell (',' :: rest) =
      readFrom? .start (cells ++ [String.ofList cell]) [] rest := by
  simp [readFrom?, h]

/-- A line break ends a record that has begun. -/
theorem readFrom?_break (h : place ≠ .quoted) (hbegun : place ≠ .start ∨ cells ≠ []) :
    readFrom? place cells cell ('\n' :: rest) =
      (readFrom? .start [] [] rest).map ((cells ++ [String.ofList cell]) :: ·) := by
  have hnot : ¬(place = .start ∧ cells = []) := by
    rintro ⟨hplace, hcells⟩
    exact hbegun.elim (· hplace) (· hcells)
  simp only [readFrom?, h, hnot, if_false, if_true, show ¬ ('\n' = ',') by decide]
  cases readFrom? .start [] [] rest <;> rfl

/-- A character that structures a text, so that a cell with it stands in quotes. -/
def Structural (c : Char) : Prop :=
  c = ',' ∨ c = '\x22' ∨ c = '\n' ∨ c = '\r'

/-- Other characters are read as they are. -/
theorem readFrom?_plain {content : List Char} (hcontent : ∀ c ∈ content, ¬Structural c)
    (hplace : place = .start ∨ place = .plain) (hne : content ≠ []) :
    readFrom? place cells cell (content ++ rest) =
      readFrom? .plain cells (cell ++ content) rest := by
  induction content generalizing place cell with
  | nil => exact absurd rfl hne
  | cons first content ih =>
      obtain ⟨hfirst, hcontent⟩ := List.forall_mem_cons.mp hcontent
      have hstep : readFrom? place cells cell (first :: (content ++ rest)) =
          readFrom? .plain cells (cell ++ [first]) (content ++ rest) := by
        simp only [Structural, not_or] at hfirst
        obtain rfl | rfl := hplace <;> simp [readFrom?, hfirst]
      rw [List.cons_append, hstep]
      cases content with
      | nil => rfl
      | cons second content =>
          rw [ih hcontent (.inr rfl) (List.cons_ne_nil _ _), List.append_assoc]
          rfl

/-- Between quotes a quote is written twice, and all other characters are read as they are. -/
theorem readFrom?_quoted (content : List Char) :
    readFrom? .quoted cells cell
        (content.flatMap (fun c => if c = '\x22' then ['\x22', '\x22'] else [c]) ++ rest) =
      readFrom? .quoted cells (cell ++ content) rest := by
  induction content generalizing cell with
  | nil => simp
  | cons first content ih =>
      rw [List.flatMap_cons, List.append_assoc]
      by_cases hquote : first = '\x22'
      · simp [hquote, readFrom?, ih]
      · simp [hquote, readFrom?, ih]

/-- A written cell is read up to its end. Only a cell without any characters leaves nothing behind
to tell that it has begun. -/
theorem readFrom?_cellText (cells : List String) (text : String) (rest : List Char) :
    ∃ place, place ≠ .quoted ∧ (place = .start → text = "") ∧
      readFrom? .start cells [] ((Sink.cellText text).toList ++ rest) =
        readFrom? place cells text.toList rest := by
  by_cases hquotes : Sink.needsQuotes text = true
  · refine ⟨.closing, by decide, nofun, ?_⟩
    have htext : (Sink.cellText text).toList ++ rest = '\x22' ::
        (text.toList.flatMap (fun c => if c = '\x22' then ['\x22', '\x22'] else [c]) ++
          '\x22' :: rest) := by
      simp [Sink.cellText, hquotes]
    have hopen (more : List Char) : readFrom? .start cells [] ('\x22' :: more) =
        readFrom? .quoted cells [] more := by
      simp [readFrom?]
    rw [htext, hopen, readFrom?_quoted, List.nil_append]
    simp [readFrom?]
  · have hcontent : ∀ c ∈ text.toList, ¬Structural c := by
      simpa [Sink.needsQuotes, Structural, and_assoc] using hquotes
    rw [Sink.cellText, if_neg hquotes]
    by_cases hempty : text.toList = []
    · exact ⟨.start, by decide, fun _ => String.toList_eq_nil_iff.mp hempty, by rw [hempty]; rfl⟩
    · exact ⟨.plain, by decide, nofun, readFrom?_plain hcontent (.inl rfl) hempty⟩

/-- A record with its line break is read as its cells. -/
theorem readFrom?_cells {first : String} {others : List String} (cells : List String)
    (h : cells ≠ [] ∨ others ≠ [] ∨ first ≠ "") (rest : List Char) :
    readFrom? .start cells []
        ((Text.joinWith "," ((first :: others).map Sink.cellText)).toList ++ '\n' :: rest) =
      (readFrom? .start [] [] rest).map ((cells ++ first :: others) :: ·) := by
  induction others generalizing first cells with
  | nil =>
      obtain ⟨place, hplace, hstart, hread⟩ := readFrom?_cellText cells first ('\n' :: rest)
      have hbegun : place ≠ .start ∨ cells ≠ [] := by
        obtain hcells | habsurd | hfirst := h
        · exact .inr hcells
        · exact absurd rfl habsurd
        · exact .inl fun hplace => hfirst (hstart hplace)
      rw [show Text.joinWith "," ([first].map Sink.cellText) = Sink.cellText first from rfl, hread,
        readFrom?_break hplace hbegun, String.ofList_toList]
  | cons second others ih =>
      obtain ⟨place, hplace, -, hread⟩ := readFrom?_cellText cells first
        (',' :: ((Text.joinWith "," ((second :: others).map Sink.cellText)).toList ++ '\n' :: rest))
      have hjoined : (Text.joinWith "," ((first :: second :: others).map Sink.cellText)).toList ++
          '\n' :: rest = (Sink.cellText first).toList ++ ',' ::
            ((Text.joinWith "," ((second :: others).map Sink.cellText)).toList ++ '\n' :: rest) := by
        simp [Text.joinWith]
      rw [hjoined, hread, readFrom?_comma hplace, String.ofList_toList,
        ih (cells ++ [first]) (.inl (by simp)), List.append_assoc]
      rfl

/-- A written record is read back in front of others. -/
theorem readFrom?_recordLine {record : List String} (h : record ≠ []) (rest : List Char) :
    readFrom? .start [] [] ((Sink.recordLine record).toList ++ rest) =
      (readFrom? .start [] [] rest).map (record :: ·) := by
  obtain ⟨first, others, rfl⟩ := List.exists_cons_of_ne_nil h
  by_cases hempty : first :: others = [""]
  · rw [Sink.recordLine, if_pos hempty, hempty]
    have hquotes : readFrom? .start [] [] ("\"\"\n".toList ++ rest) =
        readFrom? .closing [] [] ('\n' :: rest) := by
      simp [readFrom?]
    rw [hquotes, readFrom?_break (by decide) (.inl (by decide))]
    rfl
  · have hbegun : others ≠ [] ∨ first ≠ "" := by
      by_cases hothers : others = []
      · exact .inr fun hfirst => hempty (by rw [hfirst, hothers])
      · exact .inl hothers
    have hline : (Sink.recordLine (first :: others)).toList ++ rest =
        (Text.joinWith "," ((first :: others).map Sink.cellText)).toList ++ '\n' :: rest := by
      simp [Sink.recordLine, hempty]
    rw [hline, readFrom?_cells [] (.inr hbegun)]
    rfl

/-- Records that have been written are read back. -/
theorem records?_recordLines {records : List (List String)} (h : ∀ record ∈ records, record ≠ []) :
    records? (String.join (records.map Sink.recordLine)) = some records := by
  unfold records?
  induction records with
  | nil => simp [readFrom?]
  | cons record records ih =>
      obtain ⟨hrecord, hrecords⟩ := List.forall_mem_cons.mp h
      rw [List.map_cons, String.join_cons, String.toList_append, readFrom?_recordLine hrecord,
        ih hrecords]
      rfl

end RecordRecipe.Csv
