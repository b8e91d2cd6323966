import StepArguments.Table

/-! # Lines of cells, written and split

A line is written with a pipe before its first cell and one after each cell, and the pipes inside of
cells after a backslash.  To split it gives the cells back (`splitLine_pipeLine`) unless one of them
ends in a backslash, which takes the pipe after it into the cell (`splitLine_pipeLine_iff`).  The
number of cells and the last one are enough to see that this has not happened
(`not_backslash_of_splitLine`).
-/

namespace StepArguments.Table

variable {cell line rest under pattern : List Char} {cells : List (List Char)} {c : Char}

/-! ## Cells with their pipes -/

theorem escapeCell_pipe (cell : List Char) :
    escapeCell ('|' :: cell) = '\\' :: '|' :: escapeCell cell := rfl

theorem escapeCell_cons (hPipe : c ≠ '|') (cell : List Char) :
    escapeCell (c :: cell) = c :: escapeCell cell := by
  rw [escapeCell, List.flatMap_cons, if_neg hPipe]
  rfl

theorem escapeCell_concat_backslash (cell : List Char) :
    escapeCell (cell ++ ['\\']) = escapeCell cell ++ ['\\'] := by
  rw [escapeCell, List.flatMap_append]
  rfl

/-- What is written for a cell does not start with a pipe. -/
theorem head?_escapeCell_append :
    (escapeCell cell ++ rest).head? = some '|' ↔ cell = [] ∧ rest.head? = some '|' := by
  cases cell with
  | nil => simp [escapeCell]
  | cons c cell =>
    by_cases hPipe : c = '|'
    · subst hPipe
      simp [escapeCell_pipe]
    · simp [escapeCell_cons hPipe, hPipe]

/-- The cells of a line with a pipe after each. -/
def pipeCells (cells : List (List Char)) : List Char :=
  cells.flatMap fun cell => escapeCell cell ++ ['|']

theorem pipeCells_cons (cell : List Char) (cells : List (List Char)) :
    pipeCells (cell :: cells) = escapeCell cell ++ '|' :: pipeCells cells := by
  simp [pipeCells]

theorem pipeLine_eq (cells : List (List Char)) : pipeLine cells = '|' :: pipeCells cells := rfl

/-! ## Splitting them again -/

theorem splitCells_cons (hPipe : c ≠ '|') (hEscape : c = '\\' → line.head? ≠ some '|') :
    splitCells under (c :: line) = splitCells (c :: under) line := by
  rw [splitCells]
  · rintro further rfl rfl
    exact hEscape rfl rfl
  · exact hPipe

/-- The characters of a cell go under way as they are, unless its last one is a backslash before a
pipe. -/
theorem splitCells_escapeCell (hEnd : cell.getLast? = some '\\' → rest.head? ≠ some '|') :
    splitCells under (escapeCell cell ++ rest) = splitCells (cell.reverse ++ under) rest := by
  induction cell generalizing under with
  | nil => rfl
  | cons c cell ih =>
    have hLater : cell.getLast? = some '\\' → rest.head? ≠ some '|' := by
      intro hLast
      apply hEnd
      rw [List.getLast?_cons, hLast, Option.getD_some]
    rw [List.reverse_cons, List.append_assoc, List.singleton_append, ← ih hLater]
    by_cases hPipe : c = '|'
    · subst hPipe
      rw [escapeCell_pipe, List.cons_append, List.cons_append, splitCells]
    · rw [escapeCell_cons hPipe, List.cons_append]
      apply splitCells_cons hPipe
      -- a pipe of the cell is behind its own backslash: one next to it would be that of the rest
      rintro rfl hHead
      obtain ⟨rfl, hRest⟩ := head?_escapeCell_append.1 hHead
      exact hEnd rfl hRest

theorem splitCells_cell (hEnd : cell.getLast? ≠ some '\\') :
    splitCells under (escapeCell cell ++ '|' :: rest) =
      Text.trimChars (under.reverse ++ cell) :: splitCells [] rest := by
  rw [splitCells_escapeCell fun hLast => absurd hLast hEnd, splitCells]
  simp

/-- A backslash at the end of a cell takes the pipe after it into the cell. -/
theorem splitCells_backslash :
    splitCells under (escapeCell (cell ++ ['\\']) ++ '|' :: rest) =
      splitCells ('|' :: (cell.reverse ++ under)) rest := by
  rw [escapeCell_concat_backslash, List.append_assoc, List.singleton_append,
    splitCells_escapeCell fun _ => by simp, splitCells]

theorem splitCells_pipeCells (hTrimmed : ∀ cell ∈ cells, Text.trimChars cell = cell)
    (hEnds : ∀ cell ∈ cells, cell.getLast? ≠ some '\\') : splitCells [] (pipeCells cells) = cells := by
  induction cells with
  | nil => rfl
  | cons cell cells ih =>
    obtain ⟨hCell, hLater⟩ := List.forall_mem_cons.1 hTrimmed
    obtain ⟨hEnd, hLaterEnds⟩ := List.forall_mem_cons.1 hEnds
    rw [pipeCells_cons, splitCells_cell hEnd, ih hLater hLaterEnds, List.reverse_nil,
      List.nil_append, hCell]

theorem splitLine_pipeLine (hTrimmed : ∀ cell ∈ cells, Text.trimChars cell = cell)
    (hEnds : ∀ cell ∈ cells, cell.getLast? ≠ some '\\') : splitLine (pipeLine cells) = cells :=
  splitCells_pipeCells hTrimmed hEnds

/-! ## Cells that end in a backslash -/

theorem length_splitCells_nil (under : List Char) : (splitCells under []).length ≤ 1 := by
  rw [splitCells]
  split <;> simp

/-- Splitting joins cells at most; what is under way goes into the first of them. -/
theorem length_splitCells_pipeCells_le (hCells : cells ≠ []) :
    (splitCells under (pipeCells cells)).length ≤ cells.length := by
  induction cells generalizing under with
  | nil => exact absurd rfl hCells
  | cons cell cells ih =>
    rw [pipeCells_cons, List.length_cons]
    by_cases hEnd : cell.getLast? = some '\\'
    · obtain ⟨start, rfl⟩ := List.getLast?_eq_some_iff.1 hEnd
      rw [splitCells_backslash]
      cases cells with
      | nil => exact length_splitCells_nil _
      | cons next cells => exact Nat.le_succ_of_le (ih (List.cons_ne_nil next cells))
    · rw [splitCells_cell hEnd, List.length_cons]
      apply Nat.succ_le_succ
      cases cells with
      | nil => exact Nat.le_refl 0
      | cons next cells => exact ih (List.cons_ne_nil next cells)

/-- A last cell that ends in a backslash comes back with a pipe behind it. -/
theorem getLast?_splitCells_pipe (under : List Char) :
    (splitCells ('|' :: under) []).getLast? ≠ some (cell ++ ['\\']) := by
  intro hLast
  have hPipe : (Text.trimChars ('|' :: under).reverse).getLast? = some '|' := by
    rw [List.reverse_cons]
    exact Text.getLast?_trimChars_append _ (by decide)
  rw [splitCells] at hLast
  split at hLast
  · cases hLast
  · have hCell : Text.trimChars ('|' :: under).reverse = cell ++ ['\\'] := Option.some.inj hLast
    rw [hCell, List.getLast?_concat] at hPipe
    exact absurd hPipe (by decide)

theorem not_backslash_of_splitCells
    (hLength : (splitCells under (pipeCells cells)).length = cells.length)
    (hLast : (splitCells under (pipeCells cells)).getLast? = cells.getLast?) :
    ∀ cell ∈ cells, cell.getLast? ≠ some '\\' := by
  induction cells generalizing under with
  | nil => simp
  | cons cell cells ih =>
    rw [pipeCells_cons] at hLength hLast
    by_cases hEnd : cell.getLast? = some '\\'
    · -- the cell and the next one are one, or its pipe is the end of the last one
      obtain ⟨start, rfl⟩ := List.getLast?_eq_some_iff.1 hEnd
      rw [splitCells_backslash] at hLength hLast
      cases cells with
      | nil => exact absurd hLast (getLast?_splitCells_pipe _)
      | cons next cells =>
        have hFewer : ((start ++ ['\\']) :: next :: cells).length ≤ (next :: cells).length :=
          hLength ▸ length_splitCells_pipeCells_le (List.cons_ne_nil next cells)
        exact absurd hFewer (Nat.not_succ_le_self _)
    · -- the cell comes back by itself, and the last one is that of the other cells
      rw [splitCells_cell hEnd] at hLength hLast
      have hLater : (splitCells [] (pipeCells cells)).length = cells.length := Nat.succ.inj hLength
      refine List.forall_mem_cons.2 ⟨hEnd, ?_⟩
      cases cells with
      | nil => simp
      | cons next cells =>
        apply ih hLater
        obtain ⟨first, others, hSplit⟩ := List.exists_cons_of_length_eq_add_one hLater
        rw [hSplit] at hLast ⊢
        exact hLast

theorem not_backslash_of_splitLine (hLength : (splitLine (pipeLine cells)).length = cells.length)
    (hLast : (splitLine (pipeLine cells)).getLast? = cells.getLast?) :
    ∀ cell ∈ cells, cell.getLast? ≠ some '\\' :=
  @not_backslash_of_splitCells [] cells hLength hLast

theorem splitLine_pipeLine_iff (hTrimmed : ∀ cell ∈ cells, Text.trimChars cell = cell) :
    splitLine (pipeLine cells) = cells ↔ ∀ cell ∈ cells, cell.getLast? ≠ some '\\' := by
  constructor
  · intro hSplit
    apply not_backslash_of_splitLine <;> rw [hSplit]
  · exact splitLine_pipeLine hTrimmed

/-! ## A written line among other lines -/

theorem mem_escapeCell (hMem : c ∈ escapeCell cell) : c = '\\' ∨ c ∈ cell := by
  obtain ⟨d, hd, hWritten⟩ := List.mem_flatMap.1 hMem
  split at hWritten
  · rename_i hPipe
    subst hPipe
    rcases List.mem_cons.1 hWritten with hBackslash | hSelf
    · exact .inl hBackslash
    · obtain rfl := List.mem_singleton.1 hSelf
      exact .inr hd
  · obtain rfl := List.mem_singleton.1 hWritten
    exact .inr hd

theorem not_mem_pipeLine (hPipe : c ≠ '|') (hBackslash : c ≠ '\\')
    (hCells : ∀ cell ∈ cells, c ∉ cell) : c ∉ pipeLine cells := by
  intro hMem
  rcases List.mem_cons.1 hMem with rfl | hMem
  · exact hPipe rfl
  · obtain ⟨cell, hCell, hMem⟩ := List.mem_flatMap.1 hMem
    rcases List.mem_append.1 hMem with hWritten | hAfter
    · exact (mem_escapeCell hWritten).elim hBackslash (hCells cell hCell)
    · exact hPipe (List.mem_singleton.1 hAfter)

theorem getLast?_pipeLine (cells : List (List Char)) : (pipeLine cells).getLast? = some '|' := by
  have hPipe : (pipeCells cells).getLast?.getD '|' = '|' := by
    induction cells with
    | nil => rfl
    | cons cell cells ih =>
      rw [pipeCells_cons, List.getLast?_append, List.getLast?_cons, ih]
      rfl
  rw [pipeLine_eq, List.getLast?_cons, hPipe]

@[simp] theorem trimChars_pipeLine (cells : List (List Char)) :
    Text.trimChars (pipeLine cells) = pipeLine cells := by
  apply Text.trimChars_eq_self
  · intro c hHead
    obtain rfl : '|' = c := Option.some.inj hHead
    decide
  · intro c hLast
    rw [getLast?_pipeLine] at hLast
    obtain rfl : '|' = c := Option.some.inj hLast
    decide

/-- Written cells start as they are read where neither pipes nor backslashes are looked for. -/
theorem prefix_escapeCell_iff (hPipe : '|' ∉ pattern) (hBackslash : '\\' ∉ pattern) :
    pattern <+: escapeCell cell ++ '|' :: rest ↔ pattern <+: cell := by
  induction pattern generalizing cell with
  | nil => simp
  | cons p pattern ih =>
    rw [List.mem_cons, not_or] at hPipe hBackslash
    cases cell with
    | nil => simp [escapeCell, Ne.symm hPipe.1]
    | cons c cell =>
      by_cases hc : c = '|'
      · subst hc
        simp [escapeCell_pipe, Ne.symm hPipe.1, Ne.symm hBackslash.1]
      · rw [escapeCell_cons hc, List.cons_append, List.cons_prefix_cons, List.cons_prefix_cons,
          ih hPipe.2 hBackslash.2]

/-- A written line is a comment if its first cell starts with two dashes. -/
theorem isRow_pipeLine_iff :
    isRow (pipeLine cells) = true ↔ ∀ cell, cells.head? = some cell → ¬ ['-', '-'] <+: cell := by
  have hComment : (∃ rest, Text.after? ['|', '-', '-'] (pipeLine cells) = some rest) ↔
      ['-', '-'] <+: pipeCells cells := by
    simp only [Text.after?_eq_some_iff, pipeLine_eq, List.cons_append, List.cons.injEq, true_and]
    exact ⟨fun ⟨rest, hRest⟩ => ⟨rest, hRest.symm⟩, fun ⟨rest, hRest⟩ => ⟨rest, hRest.symm⟩⟩
  have hRow : isRow (pipeLine cells) = true ↔ ¬ ['-', '-'] <+: pipeCells cells := by
    rw [← hComment, isRow, pipeLine_eq]
    simp [Option.eq_none_iff_forall_ne_some]
  rw [hRow]
  cases cells with
  | nil => simp [pipeCells]
  | cons cell cells =>
    rw [pipeCells_cons, prefix_escapeCell_iff (by decide) (by decide)]
    simp

/-! ## Cells of a text -/

/-- A cell can stand in a line by itself: it holds no line feed and no blank at either end. -/
structure Tidy (cell : List Char) : Prop where
  trimmed : Text.trimChars cell = cell
  oneLine : '\n' ∉ cell

theorem tidy_nil : Tidy [] := ⟨rfl, List.not_mem_nil⟩

theorem tidy_trimChars (hLine : '\n' ∉ line) : Tidy (Text.trimChars line) where
  trimmed := Text.trimChars_trimChars line
  oneLine hMem := hLine ((Text.trimChars_infix line).mem hMem)

theorem tidy_of_mem_splitCells (hUnder : '\n' ∉ under) (hLine : '\n' ∉ line)
    (hCell : cell ∈ splitCells under line) : Tidy cell := by
  have hReverse {under : List Char} (hUnder : '\n' ∉ under) : '\n' ∉ under.reverse :=
    mt List.mem_reverse.1 hUnder
  -- neither the cell under way nor the rest of the line gets a line feed at any step
  fun_induction splitCells under line with
  | case1 under => cases hCell
  | case2 under =>
    obtain rfl := List.mem_singleton.1 hCell
    exact tidy_trimChars (hReverse hUnder)
  | case3 under line ih =>
    simp only [List.mem_cons, not_or] at hLine
    apply ih _ hLine.2.2 hCell
    simpa using hUnder
  | case4 under line ih =>
    rcases List.mem_cons.1 hCell with rfl | hLater
    · exact tidy_trimChars (hReverse hUnder)
    · exact ih List.not_mem_nil (fun hMem => hLine (List.mem_cons_of_mem _ hMem)) hLater
  | case5 under c line _ _ ih =>
    rw [List.mem_cons, not_or] at hLine
    apply ih _ hLine.2 hCell
    rw [List.mem_cons, not_or]
    exact ⟨hLine.1, hUnder⟩

theorem tidy_of_mem_splitLine (hLine : '\n' ∉ line) (hCell : cell ∈ splitLine line) :
    Tidy cell := by
  unfold splitLine at hCell
  split at hCell
  · exact tidy_of_mem_splitCells List.not_mem_nil
      (fun hMem => hLine (List.mem_cons_of_mem _ hMem)) hCell
  · exact tidy_of_mem_splitCells List.not_mem_nil hLine hCell

end StepArguments.Table
