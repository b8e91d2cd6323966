import StepArguments.Proofs.Conversion.Satisfaction
import StepArguments.Proofs.Table.Lines

/-! # Rows of a table

A row holds one cell for each header that differs from the others, the last one where a header
repeats.  `rowCells` are the cells that are printed for a row, one for each header.  They name the
same row again (`nameCells_rowCells`), and the last of them is the last cell that was read
(`getLast?_rowCells`).  A table that has been read is `WellFormed` (`wellFormed_of_parse`).
-/

namespace StepArguments.Table

variable {text line : List Char} {headers : List String} {cells : List (List Char)}
  {row : Bindings} {rows : List Bindings} {lines : List (List Char)} {number : Nat} {t : Table}

/-! ## Cells of a row -/

/-- The cells that are printed for a row, in the order of the headers. -/
def rowCells (headers : List String) (row : Bindings) : List (List Char) :=
  headers.map fun header => ((row.get? header).map Value.chars).getD []

@[simp] theorem length_rowCells (headers : List String) (row : Bindings) :
    (rowCells headers row).length = headers.length :=
  List.length_map _

/-- The cells of a line, each with its header. -/
def entries (headers : List String) (cells : List (List Char)) : Bindings :=
  headers.zip (cells.map fun cell => .text (String.ofList cell))

theorem nameCells_eq (headers : List String) (cells : List (List Char)) :
    nameCells headers cells = Named.ofPairs (entries headers cells) := rfl

theorem names_entries (hLength : cells.length = headers.length) :
    (entries headers cells).names = headers := by
  apply List.map_fst_zip
  simp [hLength]

theorem mem_names_nameCells (hLength : cells.length = headers.length) (header : String) :
    header ∈ (nameCells headers cells).names ↔ header ∈ headers := by
  rw [nameCells_eq, Named.mem_names_ofPairs, names_entries hLength]

/-- What a row holds is the text of one of its cells. -/
theorem exists_cell_of_mem {entry : String × Value} (hEntry : entry ∈ nameCells headers cells) :
    ∃ cell ∈ cells, entry.2 = .text (String.ofList cell) := by
  refine Named.forall_ofPairs
    (P := fun value : Value => ∃ cell ∈ cells, value = .text (String.ofList cell)) ?_ entry hEntry
  intro put hPut
  obtain ⟨cell, hCell, hSame⟩ := List.mem_map.1 (List.of_mem_zip hPut).2
  exact ⟨cell, hCell, hSame.symm⟩

theorem exists_cell_of_get? {header : String} {value : Value}
    (hGet : (nameCells headers cells).get? header = some value) :
    ∃ cell ∈ cells, value = .text (String.ofList cell) :=
  exists_cell_of_mem (Named.mem_of_get? hGet)

theorem chars_ofList (cell : List Char) : (Value.text (String.ofList cell)).chars = cell := by
  simp [Value.chars]

theorem entries_rowCells (headers : List String) (row : Bindings) :
    entries headers (rowCells headers row) = headers.map fun header =>
      (header, .text (String.ofList (((row.get? header).map Value.chars).getD []))) := by
  induction headers with
  | nil => rfl
  | cons header headers ih => exact congrArg (_ :: ·) ih

/-- Under its header a row holds the cell that is printed for it. -/
theorem get?_nameCells_rowCells (hLength : cells.length = headers.length) (header : String) :
    (nameCells headers (rowCells headers (nameCells headers cells))).get? header =
      (nameCells headers cells).get? header := by
  rw [nameCells_eq, entries_rowCells, Named.get?_ofPairs, ← List.map_reverse, Named.get?_map_names]
  by_cases hHeader : header ∈ headers
  · have hSome := (Named.mem_names_iff _ header).1 ((mem_names_nameCells hLength header).2 hHeader)
    obtain ⟨value, hGet⟩ := Option.isSome_iff_exists.1 hSome
    obtain ⟨cell, -, rfl⟩ := exists_cell_of_get? hGet
    rw [if_pos (List.mem_reverse.2 hHeader), hGet, Option.map_some, chars_ofList, Option.getD_some]
  · have hNone := mt (mem_names_nameCells hLength header).1 hHeader
    rw [if_neg (mt List.mem_reverse.1 hHeader), Named.get?_eq_none_of_not_mem hNone]

/-- The printed cells of a row name the same row. -/
theorem nameCells_rowCells (hLength : cells.length = headers.length) :
    nameCells headers (rowCells headers (nameCells headers cells)) = nameCells headers cells := by
  apply Named.eq_of_names_eq
  · -- the names are those of the headers, whatever the cells under them
    apply Named.names_ofPairs_congr
    show (entries _ _).names = (entries _ _).names
    rw [names_entries (length_rowCells _ _), names_entries hLength]
  · exact Named.nodup_names_ofPairs _
  · exact get?_nameCells_rowCells hLength

/-- The last cell of a line counts, whatever the header above it. -/
theorem getLast?_rowCells (hLength : cells.length = headers.length) :
    (rowCells headers (nameCells headers cells)).getLast? = cells.getLast? := by
  cases hLast : cells.getLast? with
  | none =>
    obtain rfl := List.getLast?_eq_none_iff.1 hLast
    obtain rfl := List.eq_nil_of_length_eq_zero hLength.symm
    rfl
  | some cell =>
    obtain ⟨first, rfl⟩ := List.getLast?_eq_some_iff.1 hLast
    cases List.eq_nil_or_concat headers with
    | inl hNone =>
      subst hNone
      simp at hLength
    | inr hSome =>
      obtain ⟨others, header, hHeaders⟩ := hSome
      rw [List.concat_eq_append] at hHeaders
      subst hHeaders
      have hFirst : others.length = (first.map fun cell => Value.text (String.ofList cell)).length := by
        simpa using hLength.symm
      -- the last cell is put last, and so it is what the row holds under the last header
      have hGet : (nameCells (others ++ [header]) (first ++ [cell])).get? header =
          some (.text (String.ofList cell)) := by
        rw [nameCells_eq, Named.get?_ofPairs, entries, List.map_append, List.zip_append hFirst]
        simp [Named.get?_cons]
      rw [rowCells, List.map_append, List.map_singleton, List.getLast?_concat, hGet,
        Option.map_some, chars_ofList, Option.getD_some]

/-! ## Rows of lines -/

theorem readRows_eq_ok_iff : readRows headers number lines = .ok rows ↔
    (∀ line ∈ lines, (splitLine line).length = headers.length) ∧
      rows = lines.map fun line => nameCells headers (splitLine line) := by
  induction lines generalizing number rows with
  | nil =>
    show Except.ok [] = Except.ok rows ↔ _
    simp [eq_comm]
  | cons line lines ih =>
    rw [readRows, List.forall_mem_cons, List.map_cons]
    by_cases hLength : (splitLine line).length = headers.length
    · simp only [if_pos hLength]
      constructor
      · intro hRead
        obtain ⟨later, hLater, rfl⟩ := exists_of_map_eq_ok hRead
        obtain ⟨hLines, rfl⟩ := ih.1 hLater
        exact ⟨⟨hLength, hLines⟩, rfl⟩
      · intro hRows
        obtain ⟨⟨-, hLines⟩, rfl⟩ := hRows
        rw [ih.2 ⟨hLines, rfl⟩]
        rfl
    · simp [hLength]

theorem ofLines_cons_eq_ok_iff {header : List Char} : ofLines (header :: lines) = .ok t ↔
    t.headers = (splitLine header).map String.ofList ∧
      (∀ line ∈ lines, (splitLine line).length = t.headers.length) ∧
      t.rows = lines.map fun line => nameCells t.headers (splitLine line) := by
  constructor
  · intro hRead
    obtain ⟨rows, hRows, rfl⟩ := exists_of_map_eq_ok hRead
    exact ⟨rfl, readRows_eq_ok_iff.1 hRows⟩
  · intro ⟨hHeaders, hRows⟩
    obtain ⟨headers, rows⟩ := t
    dsimp only at hHeaders hRows
    subst hHeaders
    rw [ofLines, readRows_eq_ok_iff.2 hRows]
    rfl

/-! ## Tables that have been read -/

/-- A table of cells that can each stand in a line, one for every header in each row. -/
structure WellFormed (t : Table) : Prop where
  headers : ∀ header ∈ t.headers, Tidy header.toList
  rows : ∀ row ∈ t.rows, ∃ cells, cells.length = t.headers.length ∧
    (∀ cell ∈ cells, Tidy cell) ∧ row = nameCells t.headers cells

theorem wellFormed_of_ofLines (hLines : ∀ line ∈ lines, '\n' ∉ line)
    (hRead : ofLines lines = .ok t) : WellFormed t := by
  cases lines with
  | nil =>
    obtain rfl : {} = t := Except.ok.inj hRead
    constructor <;> simp
  | cons header lines =>
    obtain ⟨hHeader, hLater⟩ := List.forall_mem_cons.1 hLines
    obtain ⟨hHeaders, hLengths, hRows⟩ := ofLines_cons_eq_ok_iff.1 hRead
    constructor
    · intro name hName
      rw [hHeaders] at hName
      obtain ⟨cell, hCell, rfl⟩ := List.mem_map.1 hName
      rw [String.toList_ofList]
      exact tidy_of_mem_splitLine hHeader hCell
    · intro row hRow
      rw [hRows] at hRow
      obtain ⟨line, hLine, rfl⟩ := List.mem_map.1 hRow
      exact ⟨splitLine line, hLengths line hLine,
        fun cell => tidy_of_mem_splitLine (hLater line hLine), rfl⟩

theorem wellFormed_of_parse (hParse : parse text = .ok t) : WellFormed t := by
  apply wellFormed_of_ofLines _ hParse
  intro line hLine
  obtain ⟨piece, hPiece, rfl⟩ := List.mem_map.1 (List.mem_filter.1 hLine).1
  -- a line is what is left of a piece between two line feeds
  intro hFeed
  exact Text.not_mem_of_mem_splitAt hPiece ((Text.trimChars_infix piece).mem hFeed)

end StepArguments.Table
