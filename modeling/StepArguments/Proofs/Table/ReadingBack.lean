import StepArguments.Proofs.Table.Rows

/-! # Reading a printed table back

A table that has been read is printed as text that can be read again, and the text gives the table
back unless one of two things is written in it.  A cell that ends in a backslash takes the pipe after
it into the cell, since a backslash is written as it is, and a first cell that starts with two dashes
makes a comment of its line.  `readsBack_iff` says that there is nothing else, and `not_readsBack`
gives a table of either kind.
-/

namespace StepArguments

variable {headers : List String} {t : Table} {text : List Char} {cells : List (List Char)}

/-! ## The printed lines -/

theorem Value.lookup_cellTexts (row : Bindings) (header : String) :
    (cellTexts row).lookup header = (row.get? header).map chars := by
  induction row with
  | nil => rfl
  | cons entry row ih =>
    obtain ⟨name, value⟩ := entry
    rw [cellTexts, Named.get?_cons]
    by_cases hName : header = name
    · simp [hName]
    · simp [List.lookup_cons, hName, beq_eq_false_iff_ne.2 hName, ih]

namespace Table

theorem rowLines_eq (headers : List String) (rows : List Bindings) :
    Value.rowLines headers rows =
      (rows.map fun row => pipeLine (rowCells headers row)).flatMap ('\n' :: ·) := by
  induction rows with
  | nil => rfl
  | cons row rows ih =>
    rw [Value.rowLines, ih, List.map_cons, List.flatMap_cons, rowCells]
    simp only [Value.lookup_cellTexts]

/-- The cells that are printed for a table, line by line. -/
def lines (t : Table) : List (List (List Char)) :=
  t.headers.map String.toList :: t.rows.map (rowCells t.headers)

theorem toList_display (hHeaders : t.headers ≠ []) : t.display.toList =
    pipeLine (t.headers.map String.toList) ++
      (t.rows.map fun row => pipeLine (rowCells t.headers row)).flatMap ('\n' :: ·) := by
  obtain ⟨headers, rows⟩ := t
  cases headers with
  | nil => exact absurd rfl hHeaders
  | cons header headers =>
    rw [display, value, Value.display, String.toList_ofList, Value.chars, rowLines_eq]
    simp

theorem WellFormed.tidy (wellFormed : t.WellFormed) :
    ∀ cells ∈ t.lines, ∀ cell ∈ cells, Tidy cell := by
  intro cells hCells cell hCell
  cases List.mem_cons.1 hCells with
  | inl hHeaders =>
    subst hHeaders
    obtain ⟨header, hHeader, rfl⟩ := List.mem_map.1 hCell
    exact wellFormed.headers header hHeader
  | inr hRows =>
    obtain ⟨row, hRow, rfl⟩ := List.mem_map.1 hRows
    obtain ⟨header, -, rfl⟩ := List.mem_map.1 hCell
    obtain ⟨read, -, hRead, rfl⟩ := wellFormed.rows row hRow
    -- under a header without a cell nothing is printed
    cases hGet : (nameCells t.headers read).get? header with
    | none => exact tidy_nil
    | some value =>
      obtain ⟨cell, hCell, rfl⟩ := exists_cell_of_get? hGet
      rw [Option.map_some, chars_ofList]
      exact hRead cell hCell

/-- The printed lines are what is read again, but for those that look like comments. -/
theorem parse_display (hHeaders : t.headers ≠ [])
    (hTidy : ∀ cells ∈ t.lines, ∀ cell ∈ cells, Tidy cell) :
    parse t.display.toList = ofLines ((t.lines.map pipeLine).filter isRow) := by
  have hFeed : ∀ cells ∈ t.lines, '\n' ∉ pipeLine cells := by
    intro cells hCells
    apply not_mem_pipeLine (by simp) (by simp)
    exact fun cell hCell => (hTidy cells hCells cell hCell).oneLine
  have hSplit : Text.splitAt '\n' t.display.toList = t.lines.map pipeLine := by
    obtain ⟨hFirst, hLater⟩ := List.forall_mem_cons.1 hFeed
    rw [toList_display hHeaders, Text.splitAt_lines hFirst]
    · simp [lines]
    · intro line hLine
      obtain ⟨row, hRow, rfl⟩ := List.mem_map.1 hLine
      exact hLater _ (List.mem_map_of_mem hRow)
  rw [parse, hSplit, List.map_map]
  congr 2
  simp

/-! ## Lines that come back -/

/-- A row comes back from its line if none of its cells ends in a backslash. -/
theorem reads_row_iff {row : Bindings}
    (hTrimmed : ∀ cell ∈ rowCells headers row, Text.trimChars cell = cell)
    (hRow : ∃ cells, cells.length = headers.length ∧ (∀ cell ∈ cells, Tidy cell) ∧
      row = nameCells headers cells) :
    (splitLine (pipeLine (rowCells headers row))).length = headers.length ∧
        row = nameCells headers (splitLine (pipeLine (rowCells headers row))) ↔
      ∀ cell ∈ rowCells headers row, cell.getLast? ≠ some '\\' := by
  constructor
  · intro ⟨hLength, hSame⟩
    apply not_backslash_of_splitLine
    · rw [hLength, length_rowCells]
    · -- the last cell of a line is the last one of the row that it names
      rw [← getLast?_rowCells hLength, ← hSame]
  · intro hEnds
    obtain ⟨cells, hLength, -, rfl⟩ := hRow
    rw [splitLine_pipeLine hTrimmed hEnds, nameCells_rowCells hLength, length_rowCells]
    exact ⟨rfl, rfl⟩

theorem reads_headers_iff
    (hTrimmed : ∀ cell ∈ headers.map String.toList, Text.trimChars cell = cell) :
    headers = (splitLine (pipeLine (headers.map String.toList))).map String.ofList ↔
      ∀ cell ∈ headers.map String.toList, cell.getLast? ≠ some '\\' := by
  rw [← splitLine_pipeLine_iff hTrimmed]
  constructor
  · intro hSame
    have hCells := congrArg (List.map String.toList) hSame
    rw [List.map_map] at hCells
    simpa [Function.comp_def] using hCells.symm
  · intro hSplit
    rw [hSplit]
    simp

theorem ofLines_lines_iff (wellFormed : t.WellFormed) :
    ofLines (t.lines.map pipeLine) = .ok t ↔
      ∀ cells ∈ t.lines, ∀ cell ∈ cells, cell.getLast? ≠ some '\\' := by
  obtain ⟨hHeader, hRows⟩ := List.forall_mem_cons.1 wellFormed.tidy
  have hRow_iff (row : Bindings) (hRow : row ∈ t.rows) :=
    have hTidy := hRows _ (List.mem_map_of_mem hRow)
    reads_row_iff (fun cell hCell => (hTidy cell hCell).trimmed) (wellFormed.rows row hRow)
  have hSame (read : Bindings → Bindings) :
      t.rows = t.rows.map read ↔ ∀ row ∈ t.rows, row = read row := by
    rw [← List.map_inj_left, List.map_id']
  rw [lines, List.map_cons, ofLines_cons_eq_ok_iff, List.forall_mem_cons,
    reads_headers_iff fun cell hCell => (hHeader cell hCell).trimmed, List.map_map, List.map_map,
    hSame]
  apply and_congr_right'
  rw [List.forall_mem_map, List.forall_mem_map]
  constructor
  · intro ⟨hLengths, hRead⟩ row hRow
    exact (hRow_iff row hRow).1 ⟨hLengths row hRow, hRead row hRow⟩
  · intro hEnds
    have hBack (row : Bindings) (hRow : row ∈ t.rows) := (hRow_iff row hRow).2 (hEnds row hRow)
    exact ⟨fun row hRow => (hBack row hRow).1, fun row hRow => (hBack row hRow).2⟩

/-! ## What cannot be read back -/

/-- A line of cells can be read back: none of the cells ends in a backslash, and the first one does
not start with two dashes. -/
structure Rereadable (cells : List (List Char)) : Prop where
  noBackslash : ∀ cell ∈ cells, cell.getLast? ≠ some '\\'
  noComment : ∀ cell ∈ cells.head?, ¬ ['-', '-'] <+: cell

instance (cells : List (List Char)) : Decidable (Rereadable cells) :=
  decidable_of_iff ((∀ cell ∈ cells, cell.getLast? ≠ some '\\') ∧
      ∀ cell ∈ cells.head?, ¬ ['-', '-'] <+: cell)
    ⟨fun ⟨noBackslash, noComment⟩ => ⟨noBackslash, noComment⟩,
      fun rereadable => ⟨rereadable.noBackslash, rereadable.noComment⟩⟩

/-- The printed text of a table gives the table. -/
def ReadsBack (t : Table) : Prop :=
  parse t.display.toList = .ok t

theorem length_of_ofLines {lines : List (List Char)} (hHeaders : t.headers ≠ [])
    (hRead : ofLines lines = .ok t) : lines.length = t.lines.length := by
  cases lines with
  | nil =>
    obtain rfl : {} = t := Except.ok.inj hRead
    exact absurd rfl hHeaders
  | cons header later =>
    obtain ⟨-, -, hRows⟩ := ofLines_cons_eq_ok_iff.1 hRead
    rw [Table.lines, hRows]
    simp

theorem WellFormed.readsBack_iff_rereadable (wellFormed : t.WellFormed) (hHeaders : t.headers ≠ []) :
    t.ReadsBack ↔ ∀ cells ∈ t.lines, Rereadable cells := by
  rw [ReadsBack, parse_display hHeaders wellFormed.tidy]
  constructor
  · intro hRead
    -- as many lines are read as were printed, and so none of them was a comment
    have hAll : ∀ line ∈ t.lines.map pipeLine, isRow line = true := by
      rw [← List.length_filter_eq_length_iff, List.length_map]
      exact length_of_ofLines hHeaders hRead
    rw [List.filter_eq_self.2 hAll, ofLines_lines_iff wellFormed] at hRead
    intro cells hCells
    exact ⟨hRead cells hCells, isRow_pipeLine_iff.1 (hAll _ (List.mem_map_of_mem hCells))⟩
  · intro hLines
    have hAll : ∀ line ∈ t.lines.map pipeLine, isRow line = true := by
      intro line hLine
      obtain ⟨cells, hCells, rfl⟩ := List.mem_map.1 hLine
      exact isRow_pipeLine_iff.2 (hLines cells hCells).noComment
    rw [List.filter_eq_self.2 hAll, ofLines_lines_iff wellFormed]
    exact fun cells hCells => (hLines cells hCells).noBackslash

/-- A table with headers that has been read is read back from its own text exactly if none of the
printed cells ends in a backslash and none of the printed lines starts with two dashes. -/
theorem readsBack_iff (hParse : parse text = .ok t) (hHeaders : t.headers ≠ []) :
    t.ReadsBack ↔ ∀ cells ∈ t.lines, Rereadable cells :=
  (wellFormed_of_parse hParse).readsBack_iff_rereadable hHeaders

/-- Goods with a repeated header, a pipe in a header and in a cell, an empty cell, a backslash inside
of one cell and a dash as another. -/
def goods : Table where
  headers := ["id", "in|out", "id"]
  rows := [[("id", .text "2"), ("in|out", .text "|x")], [("id", .text "-"), ("in|out", .text "b\\c")],
    [("id", .text ""), ("in|out", .text "")]]

def goodsText : List Char :=
  "id | in\\|out|id\n|-- stock --|\n|1|\\|x|2|\n\n  |0| b\\c|-|\n||||".toList

theorem readsBack_goods : parse goodsText = .ok goods ∧ goods.headers ≠ [] ∧ goods.ReadsBack := by
  have hParse : parse goodsText = .ok goods := rfl
  have hHeaders : goods.headers ≠ [] := by simp [goods]
  have hLines : ∀ cells ∈ goods.lines, Rereadable cells := by decide
  exact ⟨hParse, hHeaders, (readsBack_iff hParse hHeaders).2 hLines⟩

/-- A cell that starts with two dashes after a blank is printed as a comment, and one that ends in a
backslash before a blank takes the pipe that is printed after it. -/
theorem not_readsBack :
    (∃ t, parse "|a|\n| --x|".toList = .ok t ∧ t.headers ≠ [] ∧ ¬ t.ReadsBack) ∧
      ∃ t, parse "|a\\ |".toList = .ok t ∧ t.headers ≠ [] ∧ ¬ t.ReadsBack := by
  constructor
  · refine ⟨⟨["a"], [[("a", .text "--x")]]⟩, rfl, by simp, ?_⟩
    intro readsBack
    have hComment : parse (display ⟨["a"], [[("a", .text "--x")]]⟩).toList = .ok ⟨["a"], []⟩ := rfl
    have hSame := Except.ok.inj (hComment.symm.trans readsBack)
    cases hSame
  · refine ⟨⟨["a\\"], []⟩, rfl, by simp, ?_⟩
    intro readsBack
    have hPipe : parse (display ⟨["a\\"], []⟩).toList = .ok ⟨["a|"], []⟩ := rfl
    have hSame := Except.ok.inj (hPipe.symm.trans readsBack)
    simp at hSame

end Table

end StepArguments
