import StepArguments.Proofs.Table.ReadingBack

/-! # Tables of texts

A table that is put together from texts, one under each header, reads back from its own text if none
of them can be taken for anything else in it (`parse_display_ofTexts`).  Pipes and backslashes
are safe inside of a cell, in any order and number: only a backslash at the end of a cell comes next
to a pipe that is not its own.
-/

namespace StepArguments.Table

variable {row : Bindings} {t : Table} {cell : List Char} {cells : List (List Char)}

/-! ## Rows of texts -/

/-- The texts of the values of a row, in their order. -/
def texts (row : Bindings) : List (List Char) :=
  row.map fun entry => entry.2.chars

theorem entries_texts (allTexts : ∀ entry ∈ row, ∃ text, entry.2 = .text text) :
    entries row.names (texts row) = row := by
  induction row with
  | nil => rfl
  | cons entry row ih =>
    obtain ⟨⟨text, hText⟩, hLater⟩ := List.forall_mem_cons.1 allTexts
    obtain ⟨name, value⟩ := entry
    obtain rfl : value = .text text := hText
    have hFirst : Value.text (String.ofList (Value.text text).chars) = .text text := by
      simp [Value.chars]
    show (name, Value.text (String.ofList (Value.text text).chars)) ::
      entries (Named.names row) (texts row) = _
    rw [hFirst, ih hLater]

/-- Under distinct names a row is named by its own texts. -/
theorem nameCells_texts (distinct : row.names.Nodup)
    (allTexts : ∀ entry ∈ row, ∃ text, entry.2 = .text text) :
    nameCells row.names (texts row) = row := by
  rw [nameCells_eq, entries_texts allTexts, Named.ofPairs_eq_self distinct]

theorem rowCells_names (distinct : row.names.Nodup) : rowCells row.names row = texts row := by
  rw [rowCells, Named.names, List.map_map, texts]
  apply List.map_congr_left
  intro entry hEntry
  have hGet : row.get? entry.1 = some entry.2 := Named.get?_of_mem distinct hEntry
  simp [hGet]

/-! ## Cells that come back -/

/-- A cell that stays what it is between two pipes: it is one line, has no blank at either end and
    ends in no backslash. -/
structure Lasting (cell : List Char) : Prop where
  oneLine : '\n' ∉ cell
  noBlankFirst : cell.head?.any Text.isBlank = false
  noBlankLast : cell.getLast?.any Text.isBlank = false
  noBackslash : cell.getLast? ≠ some '\\'

instance (cell : List Char) : Decidable (Lasting cell) :=
  decidable_of_iff ('\n' ∉ cell ∧ cell.head?.any Text.isBlank = false ∧
      cell.getLast?.any Text.isBlank = false ∧ cell.getLast? ≠ some '\\')
    ⟨fun ⟨oneLine, noBlankFirst, noBlankLast, noBackslash⟩ =>
      ⟨oneLine, noBlankFirst, noBlankLast, noBackslash⟩,
      fun lasting =>
        ⟨lasting.oneLine, lasting.noBlankFirst, lasting.noBlankLast, lasting.noBackslash⟩⟩

theorem Lasting.tidy (lasting : Lasting cell) : Tidy cell where
  trimmed := by
    apply Text.trimChars_eq_self
    · intro c hc
      simpa [hc] using lasting.noBlankFirst
    · intro c hc
      simpa [hc] using lasting.noBlankLast
  oneLine := lasting.oneLine

/-- Cells that come back from a line: each of them stays what it is, and the first one makes no
    comment of the line. -/
structure Writable (cells : List (List Char)) : Prop where
  lasting : ∀ cell ∈ cells, Lasting cell
  noComment : ∀ cell ∈ cells.head?, ¬ ['-', '-'] <+: cell

instance (cells : List (List Char)) : Decidable (Writable cells) :=
  decidable_of_iff ((∀ cell ∈ cells, Lasting cell) ∧ ∀ cell ∈ cells.head?, ¬ ['-', '-'] <+: cell)
    ⟨fun ⟨lasting, noComment⟩ => ⟨lasting, noComment⟩,
      fun writable => ⟨writable.lasting, writable.noComment⟩⟩

theorem Writable.rereadable (writable : Writable cells) : Rereadable cells where
  noBackslash cell hCell := (writable.lasting cell hCell).noBackslash
  noComment := writable.noComment

/-- A table of texts under distinct headers, all of whose lines come back. -/
structure OfTexts (t : Table) : Prop where
  headers : t.headers ≠ []
  distinct : t.headers.Nodup
  names : ∀ row ∈ t.rows, row.names = t.headers
  allTexts : ∀ row ∈ t.rows, ∀ entry ∈ row, ∃ text, entry.2 = .text text
  header : Writable (t.headers.map String.toList)
  rows : ∀ row ∈ t.rows, Writable (texts row)

theorem OfTexts.rowCells_eq (ofTexts : t.OfTexts) (hRow : row ∈ t.rows) :
    rowCells t.headers row = texts row := by
  have hNames := ofTexts.names row hRow
  have distinct : row.names.Nodup := hNames ▸ ofTexts.distinct
  rw [← hNames, rowCells_names distinct]

theorem OfTexts.wellFormed (ofTexts : t.OfTexts) : t.WellFormed where
  headers header hHeader :=
    (ofTexts.header.lasting header.toList (List.mem_map_of_mem hHeader)).tidy
  rows row hRow := by
    have hNames := ofTexts.names row hRow
    have distinct : row.names.Nodup := hNames ▸ ofTexts.distinct
    refine ⟨texts row, ?_, fun cell hCell => ((ofTexts.rows row hRow).lasting cell hCell).tidy, ?_⟩
    · rw [← hNames, texts, Named.names, List.length_map, List.length_map]
    · rw [← hNames, nameCells_texts distinct (ofTexts.allTexts row hRow)]

theorem OfTexts.rereadable (ofTexts : t.OfTexts) : ∀ cells ∈ t.lines, Rereadable cells := by
  refine List.forall_mem_cons.2 ⟨ofTexts.header.rereadable, ?_⟩
  intro cells hCells
  obtain ⟨row, hRow, rfl⟩ := List.mem_map.1 hCells
  rw [ofTexts.rowCells_eq hRow]
  exact (ofTexts.rows row hRow).rereadable

/-- A table of texts is read back from its own text, whatever pipes and backslashes are in them. -/
theorem parse_display_ofTexts (ofTexts : t.OfTexts) : parse t.display.toList = .ok t :=
  (ofTexts.wellFormed.readsBack_iff_rereadable ofTexts.headers).2 ofTexts.rereadable

/-- Patterns with a pipe and a backslash before it in a header, an empty header, pipes on their own,
backslashes before pipes and before one another, and empty cells. -/
def patterns : Table where
  headers := ["\\|a", "", "b|"]
  rows := [[("\\|a", .text "||"), ("", .text "\\\\|x"), ("b|", .text "\\d+ | \\w")],
    [("\\|a", .text ""), ("", .text "--"), ("b|", .text "\\|\\||")]]

theorem parse_display_ofTexts_patterns :
    patterns.OfTexts ∧ parse patterns.display.toList = .ok patterns := by
  have ofTexts : patterns.OfTexts := {
    headers := by simp [patterns]
    distinct := by decide
    names := by decide
    allTexts := by simp only [patterns, List.forall_mem_cons]; simp
    header := by decide
    rows := by decide
  }
  exact ⟨ofTexts, parse_display_ofTexts ofTexts⟩

end StepArguments.Table
