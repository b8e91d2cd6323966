import StepArguments.Proofs.Markup.Marked
import StepArguments.Proofs.Table.Rows

/-! # The cells of a table and its text

A cell is a part of the text of its table, but for the backslashes in front of its pipes.  Taking
these away completes no opener and closes none: a cell holds a placeholder only if the text in which
it is written does (`Writes.marked`), and so a text without placeholders gives a table without them
(`unmarked_of_parse`).
-/

namespace StepArguments.Table

open Placeholder (Closes Marked)

variable {written written' cell cell' line text : List Char} {depth : Nat}

/-! ## Written cells -/

/-- A text is what a cell is written as: the pipes of the cell may follow a backslash each. -/
inductive Writes : (written cell : List Char) → Prop
  | nil : Writes [] []
  | pipe {written cell : List Char} : Writes written cell →
      Writes ('\\' :: '|' :: written) ('|' :: cell)
  | char {c : Char} {written cell : List Char} : Writes written cell →
      Writes (c :: written) (c :: cell)

theorem Writes.append (writes : Writes written cell) (writes' : Writes written' cell') :
    Writes (written ++ written') (cell ++ cell') := by
  induction writes with
  | nil => exact writes'
  | pipe _ ih => exact .pipe ih
  | char _ ih => exact .char ih

theorem Writes.head?_iff (writes : Writes written cell) :
    cell.head? = some '{' ↔ written.head? = some '{' := by
  cases writes with
  | nil => exact Iff.rfl
  | pipe writes => simp
  | char writes => exact Iff.rfl

theorem marked_pipe : Marked ('|' :: cell) ↔ Marked cell :=
  Placeholder.marked_cons fun hDollar => absurd hDollar (by decide)

theorem closes_pipe : Closes depth ('|' :: cell) ↔ Closes depth cell :=
  Placeholder.closes_cons (fun hDollar => absurd hDollar (by decide)) (by decide)

theorem closes_backslash : Closes depth ('\\' :: cell) ↔ Closes depth cell :=
  Placeholder.closes_cons (fun hDollar => absurd hDollar (by decide)) (by decide)

theorem Writes.closes (writes : Writes written cell) (closes : Closes depth cell) :
    Closes depth written := by
  induction writes generalizing depth with
  | nil => exact closes
  | pipe writes ih => exact closes_backslash.2 (closes_pipe.2 (ih (closes_pipe.1 closes)))
  | char writes ih => exact closes.cons_of (fun _ => writes.head?_iff) fun depth => ih

theorem Writes.marked (writes : Writes written cell) (marked : Marked cell) : Marked written := by
  induction writes with
  | nil => exact marked
  | pipe writes ih =>
    have hRest := ih (marked_pipe.1 marked)
    exact Placeholder.marked_of_marked_tail '\\' (marked_pipe.2 hRest)
  | char writes ih => exact marked.cons_of (fun _ => writes.head?_iff) writes.closes ih

/-! ## Cells of a line -/

theorem Writes.marked_of_trimmed (writes : Writes written cell)
    (marked : Marked (Text.trimChars cell)) (rest : List Char) : Marked (written ++ rest) :=
  (writes.marked (marked.of_infix (Text.trimChars_infix cell))).append rest

/-- A cell of the rest of a line is held by the rest of the line, or by it together with the text
    in which the cell under way was written. -/
theorem marked_of_mem_splitCells {under : List Char} (writes : Writes written under.reverse)
    (hCell : cell ∈ splitCells under line) (marked : Marked cell) : Marked (written ++ line) := by
  -- the text of the cell under way grows with the line; a pipe starts it anew
  fun_induction splitCells under line generalizing written with
  | case1 under => cases hCell
  | case2 under =>
    obtain rfl := List.mem_singleton.1 hCell
    exact writes.marked_of_trimmed marked []
  | case3 under line ih =>
    have further : Writes (written ++ ['\\', '|']) ('|' :: under).reverse := by
      rw [List.reverse_cons]
      exact writes.append (.pipe .nil)
    have hLine := ih further hCell
    rwa [List.append_assoc] at hLine
  | case4 under line ih =>
    rcases List.mem_cons.1 hCell with rfl | hLater
    · exact writes.marked_of_trimmed marked _
    · have hLine : Marked line := ih .nil hLater
      exact hLine.of_infix ⟨written ++ ['|'], [], by simp⟩
  | case5 under c line _ _ ih =>
    have further : Writes (written ++ [c]) (c :: under).reverse := by
      rw [List.reverse_cons]
      exact writes.append (.char .nil)
    have hLine := ih further hCell
    rwa [List.append_assoc] at hLine

theorem marked_of_mem_splitLine (hCell : cell ∈ splitLine line) (marked : Marked cell) :
    Marked line := by
  have nothing : Writes [] ([] : List Char).reverse := .nil
  unfold splitLine at hCell
  split at hCell
  · exact marked_pipe.2 (marked_of_mem_splitCells nothing hCell marked)
  · exact marked_of_mem_splitCells nothing hCell marked

/-! ## Rows -/

/-- No cell of a row is a text that holds a placeholder. -/
def Unmarked (row : Bindings) : Prop :=
  ∀ entry ∈ row, ∀ cell, entry.2 = .text cell → ¬ Marked cell.toList

theorem unmarked_nameCells (headers : List String) {cells : List (List Char)}
    (hCells : ∀ cell ∈ cells, ¬ Marked cell) : Unmarked (nameCells headers cells) := by
  intro entry hEntry text hText
  obtain ⟨cell, hCell, hSame⟩ := exists_cell_of_mem hEntry
  obtain rfl := Value.text.inj (hSame.symm.trans hText)
  rw [String.toList_ofList]
  exact hCells cell hCell

theorem unmarked_of_readRows {headers : List String} {number : Nat} {lines : List (List Char)}
    {rows : List Bindings} (hLines : ∀ line ∈ lines, ¬ Marked line)
    (hRead : readRows headers number lines = .ok rows) : ∀ row ∈ rows, Unmarked row := by
  obtain ⟨-, rfl⟩ := readRows_eq_ok_iff.1 hRead
  intro row hRow
  obtain ⟨line, hLine, rfl⟩ := List.mem_map.1 hRow
  apply unmarked_nameCells
  intro cell hCell marked
  exact hLines line hLine (marked_of_mem_splitLine hCell marked)

theorem unmarked_of_ofLines {lines : List (List Char)} {table : Table}
    (hLines : ∀ line ∈ lines, ¬ Marked line) (hRead : ofLines lines = .ok table) :
    ∀ row ∈ table.rows, Unmarked row := by
  cases lines with
  | nil =>
    obtain rfl := Except.ok.inj hRead
    intro row hRow
    cases hRow
  | cons header lines =>
    obtain ⟨rows, hRows, rfl⟩ := exists_of_map_eq_ok hRead
    exact unmarked_of_readRows (List.forall_mem_cons.1 hLines).2 hRows

/-- No cell of the table of a text holds a placeholder if the text holds none. -/
theorem unmarked_of_parse {table : Table} (unmarked : ¬ Marked text)
    (hParse : parse text = .ok table) : ∀ row ∈ table.rows, Unmarked row := by
  apply unmarked_of_ofLines _ hParse
  intro line hLine marked
  obtain ⟨piece, hPiece, rfl⟩ := List.mem_map.1 (List.mem_filter.1 hLine).1
  have hPart : Text.trimChars piece <:+: text :=
    (Text.trimChars_infix piece).trans (Text.infix_of_mem_splitAt hPiece)
  exact unmarked (marked.of_infix hPart)

end StepArguments.Table
