import Mathlib.Data.List.Forall2
import StepArguments.Proofs.Table.Rows

/-! # The layout of a table

Blank lines, comments, the blanks around a line and the characters between two lines are layout: a
text comes to the same table or the same error as the lines of cells in it, trimmed and by
themselves (`parse_join`).  `SameWidth` says when such lines are a table, `IsTableOf` what table
they are, and `IsMisfitOf` which of them is at fault if they are none.  All three speak of the lines
of cells alone, so that no number of a row depends on what was left out before it.
-/

namespace StepArguments.Table

variable {line header : List Char} {lines : List (List Char)} {headers : List String}
  {cells : List (List Char)} {number : Nat} {t : Table} {e : TableError}

/-! ## Lines of cells -/

/-- A line holds cells: without the blanks around it, it is neither empty nor a comment. -/
def HoldsCells (line : List Char) : Prop :=
  Text.trimChars line ≠ [] ∧ ¬ ['|', '-', '-'] <+: Text.trimChars line

instance (line : List Char) : Decidable (HoldsCells line) :=
  inferInstanceAs (Decidable (_ ∧ _))

/-- The lines that hold cells, without the blanks around them. -/
def cellLines (lines : List (List Char)) : List (List Char) :=
  (lines.filter fun line => HoldsCells line).map Text.trimChars

theorem isRow_iff : isRow line = true ↔ line ≠ [] ∧ ¬ ['|', '-', '-'] <+: line := by
  rw [isRow, Bool.and_eq_true, Option.isNone_iff_eq_none, Text.after?_eq_none_iff]
  simp

theorem filter_isRow (lines : List (List Char)) :
    (lines.map Text.trimChars).filter isRow = cellLines lines := by
  rw [List.filter_map, cellLines]
  congr 2
  funext line
  rw [Function.comp_apply, Bool.eq_iff_iff, isRow_iff, decide_eq_true_iff, HoldsCells]

theorem cellLines_cellLines (lines : List (List Char)) :
    cellLines (cellLines lines) = cellLines lines := by
  have hTrimmed : (cellLines lines).map Text.trimChars = cellLines lines := by
    simp [cellLines, Function.comp_def]
  rw [← filter_isRow, hTrimmed, ← filter_isRow, List.filter_filter]
  simp

theorem oneLine_cellLines (oneLine : ∀ line ∈ lines, '\n' ∉ line) :
    ∀ line ∈ cellLines lines, '\n' ∉ line := by
  intro trimmed hTrimmed hFeed
  obtain ⟨line, hLine, rfl⟩ := List.mem_map.1 hTrimmed
  exact oneLine line (List.mem_filter.1 hLine).1 ((Text.trimChars_infix line).mem hFeed)

/-! ## Lines put together -/

/-- What stands between a line and the next one. -/
inductive LineEnd where
  | feed
  | returnFeed

def LineEnd.blanks : LineEnd → List Char
  | .feed => []
  | .returnFeed => ['\r']

/-- The text of lines with their ends between them. -/
def LineEnd.join (ending : LineEnd) (lines : List (List Char)) : List Char :=
  separated (ending.blanks ++ ['\n']) lines

theorem LineEnd.trimChars_append (ending : LineEnd) (line : List Char) :
    Text.trimChars (line ++ ending.blanks) = Text.trimChars line := by
  apply Text.trimChars_append_blank
  cases ending with
  | feed => exact List.forall_mem_nil _
  | returnFeed => exact List.forall_mem_singleton.2 (by decide)

theorem LineEnd.oneLine (ending : LineEnd) : '\n' ∉ ending.blanks := by
  cases ending <;> decide

/-- The pieces of a text between its line feeds are its lines, but for blanks at their ends. -/
theorem trimmed_splitAt_join (ending : LineEnd) (oneLine : ∀ line ∈ lines, '\n' ∉ line)
    (hLines : lines ≠ []) :
    (Text.splitAt '\n' (ending.join lines)).map Text.trimChars = lines.map Text.trimChars := by
  induction lines with
  | nil => exact absurd rfl hLines
  | cons line later ih =>
    obtain ⟨hLine, hLater⟩ := List.forall_mem_cons.1 oneLine
    cases later with
    | nil => rw [LineEnd.join, separated, Text.splitAt_of_not_mem hLine]
    | cons next later =>
      -- what a line ends with stays at its piece, where trimming takes it away
      have hPiece : '\n' ∉ line ++ ending.blanks := by
        rw [List.mem_append, not_or]
        exact ⟨hLine, ending.oneLine⟩
      have hText : ending.join (line :: next :: later) =
          (line ++ ending.blanks) ++ '\n' :: ending.join (next :: later) := by
        simp [LineEnd.join, separated]
      rw [hText, Text.splitAt_append hPiece, List.map_cons, List.map_cons,
        ih hLater (List.cons_ne_nil next later), ending.trimChars_append]

/-- Of lines that are put together only those of cells are read. -/
theorem parse_join (ending : LineEnd) (oneLine : ∀ line ∈ lines, '\n' ∉ line) :
    parse (ending.join lines) = ofLines (cellLines lines) := by
  rw [parse]
  by_cases hLines : lines = []
  · subst hLines
    rfl
  · rw [trimmed_splitAt_join ending oneLine hLines, filter_isRow]

/-! ## Tables of lines -/

/-- All lines have as many cells as the first one. -/
def SameWidth : List (List Char) → Prop
  | [] => True
  | header :: later => ∀ line ∈ later, (splitLine line).length = (splitLine header).length

/-- An error is about the first line with another number of cells than the header, and has its
    number among the lines after the header. -/
def IsMisfitOf (lines : List (List Char)) (e : TableError) : Prop :=
  ∃ header before line after, lines = header :: (before ++ line :: after) ∧
    SameWidth (header :: before) ∧ (splitLine line).length ≠ (splitLine header).length ∧
    e = ⟨before.length + 1, (splitLine line).length, (splitLine header).length⟩

/-- A row of cells under headers: its names are the headers, each of them once, and under a header
    that repeats there is the last of its cells. -/
structure IsRowOf (headers : List String) (cells : List (List Char)) (row : Bindings) : Prop where
  distinct : row.names.Nodup
  names : ∀ name, name ∈ row.names ↔ name ∈ headers
  lastCell : ∀ before header cell after, headers.zip cells = before ++ (header, cell) :: after →
    (∀ other ∈ after, other.1 ≠ header) → row.get? header = some (.text (String.ofList cell))

/-- The table of lines of cells: headers from the first line, and a row from each later one. -/
inductive IsTableOf : List (List Char) → Table → Prop
  | empty : IsTableOf [] {}
  | rows {header : List Char} {later : List (List Char)} {t : Table} :
      t.headers = (splitLine header).map String.ofList →
      List.Forall₂ (fun line row => IsRowOf t.headers (splitLine line) row) later t.rows →
      IsTableOf (header :: later) t

theorem entries_eq (headers : List String) (cells : List (List Char)) :
    entries headers cells =
      (headers.zip cells).map fun entry => (entry.1, .text (String.ofList entry.2)) := by
  rw [entries, List.zip_map_right]
  rfl

theorem isRowOf_nameCells (hLength : cells.length = headers.length) :
    IsRowOf headers cells (nameCells headers cells) where
  distinct := Named.nodup_names_ofPairs _
  names := mem_names_nameCells hLength
  lastCell before header cell after hZip hLater := by
    have hNone : Named.get? ((after.map fun entry =>
        (entry.1, Value.text (String.ofList entry.2))).reverse) header = none := by
      apply Named.get?_eq_none_of_not_mem
      simp only [Named.names, ← List.map_reverse, List.map_map, List.mem_map, not_exists, not_and,
        List.mem_reverse]
      exact hLater
    rw [nameCells_eq, Named.get?_ofPairs, entries_eq, hZip, List.map_append, List.map_cons,
      List.reverse_append, List.reverse_cons, List.append_assoc, Named.get?_append, hNone,
      List.singleton_append, Named.get?_cons, if_pos rfl, Option.none_or]

/-- The first of some lines that breaks a rule is the first of all, or behind one that keeps it. -/
theorem exists_first_cons_iff {P : List Char → Prop} {R : Nat → List Char → Prop}
    {first : List Char} :
    (∃ before line after, first :: lines = before ++ line :: after ∧
        (∀ earlier ∈ before, P earlier) ∧ ¬ P line ∧ R before.length line) ↔
      (¬ P first ∧ R 0 first) ∨ (P first ∧ ∃ before line after, lines = before ++ line :: after ∧
        (∀ earlier ∈ before, P earlier) ∧ ¬ P line ∧ R (before.length + 1) line) := by
  constructor
  · rintro ⟨before, line, after, hLines, hBefore, hLine, hHere⟩
    cases before with
    | nil =>
      obtain ⟨rfl, -⟩ := List.cons.inj hLines
      exact .inl ⟨hLine, hHere⟩
    | cons same before =>
      obtain ⟨rfl, rfl⟩ := List.cons.inj hLines
      obtain ⟨hFirst, hBefore⟩ := List.forall_mem_cons.1 hBefore
      exact .inr ⟨hFirst, before, line, after, rfl, hBefore, hLine, hHere⟩
  · rintro (⟨hFirst, hHere⟩ | ⟨hFirst, before, line, after, rfl, hBefore, hLine, hHere⟩)
    · exact ⟨[], first, lines, rfl, List.forall_mem_nil _, hFirst, hHere⟩
    · exact ⟨first :: before, line, after, rfl, List.forall_mem_cons.2 ⟨hFirst, hBefore⟩, hLine,
        hHere⟩

theorem readRows_eq_error_iff : readRows headers number lines = .error e ↔
    ∃ before line after, lines = before ++ line :: after ∧
      (∀ earlier ∈ before, (splitLine earlier).length = headers.length) ∧
      (splitLine line).length ≠ headers.length ∧
      e = ⟨number + before.length, (splitLine line).length, headers.length⟩ := by
  induction lines generalizing number with
  | nil =>
    show Except.ok [] = Except.error e ↔ _
    simp
  | cons first later ih =>
    rw [readRows, exists_first_cons_iff
      (R := fun k line => e = ⟨number + k, (splitLine line).length, headers.length⟩)]
    by_cases hLength : (splitLine first).length = headers.length
    · have hRead : (readRows headers (number + 1) later).map
          (nameCells headers (splitLine first) :: ·) = .error e ↔
          readRows headers (number + 1) later = .error e := by
        cases readRows headers (number + 1) later <;> simp [Except.map]
      rw [if_pos hLength, hRead, ih]
      -- the rows behind are counted from the next number on
      simp only [hLength, ne_eq, not_true, false_and, true_and, false_or, Nat.add_assoc,
        Nat.add_comm 1]
    · rw [if_neg hLength, Except.error.injEq, eq_comm]
      simp only [hLength, not_false_iff, true_and, false_and, or_false, Nat.add_zero]

/-- Lines of cells are a table just if they have the same width. -/
theorem exists_ofLines_iff : (∃ t, ofLines lines = .ok t) ↔ SameWidth lines := by
  cases lines with
  | nil => exact ⟨fun _ => trivial, fun _ => ⟨{}, rfl⟩⟩
  | cons header later =>
    constructor
    · rintro ⟨t, hTable⟩ line hLine
      obtain ⟨hHeaders, hLengths, -⟩ := ofLines_cons_eq_ok_iff.1 hTable
      rw [hLengths line hLine, hHeaders, List.length_map]
    · intro hWidth
      let headers := (splitLine header).map String.ofList
      let t : Table := ⟨headers, later.map fun line => nameCells headers (splitLine line)⟩
      refine ⟨t, ofLines_cons_eq_ok_iff.2 ⟨rfl, fun line hLine => ?_, rfl⟩⟩
      rw [hWidth line hLine, List.length_map]

theorem isTableOf_of_ofLines (hTable : ofLines lines = .ok t) : IsTableOf lines t := by
  cases lines with
  | nil =>
    obtain rfl := Except.ok.inj hTable
    exact .empty
  | cons header later =>
    obtain ⟨hHeaders, hLengths, hRows⟩ := ofLines_cons_eq_ok_iff.1 hTable
    refine .rows hHeaders ?_
    rw [hRows, List.forall₂_map_right_iff, List.forall₂_same]
    exact fun line hLine => isRowOf_nameCells (hLengths line hLine)

theorem ofLines_eq_error_iff : ofLines lines = .error e ↔ IsMisfitOf lines e := by
  cases lines with
  | nil =>
    show Except.ok ({} : Table) = Except.error e ↔ _
    simp [IsMisfitOf]
  | cons header later =>
    have hWidth : ((splitLine header).map String.ofList).length = (splitLine header).length :=
      List.length_map _
    have hRead : ofLines (header :: later) = .error e ↔
        readRows ((splitLine header).map String.ofList) 1 later = .error e := by
      rw [ofLines]
      cases readRows ((splitLine header).map String.ofList) 1 later <;> simp [Except.map]
    rw [hRead, readRows_eq_error_iff, hWidth]
    constructor
    · rintro ⟨before, line, after, rfl, hBefore, hLine, rfl⟩
      exact ⟨header, before, line, after, rfl, hBefore, hLine, by rw [Nat.add_comm]⟩
    · rintro ⟨first, before, line, after, hLines, hBefore, hLine, rfl⟩
      obtain ⟨rfl, rfl⟩ := List.cons.inj hLines
      exact ⟨before, line, after, rfl, hBefore, hLine, by rw [Nat.add_comm]⟩

/-! ## Texts and their lines -/

/-- A text parses as its lines of cells do when nothing else stands in it, whatever ends the lines
    of either.  It is a table just if these lines have the same width, with a row for each of them
    but the first, and else the error is about the first of them that has another. -/
theorem parse_layout (lines : List (List Char)) (oneLine : ∀ line ∈ lines, '\n' ∉ line)
    (ending : LineEnd) :
    (∀ other : LineEnd, parse (ending.join lines) = parse (other.join (cellLines lines))) ∧
    ((∃ t, parse (ending.join lines) = .ok t) ↔ SameWidth (cellLines lines)) ∧
    (∀ t, parse (ending.join lines) = .ok t → IsTableOf (cellLines lines) t) ∧
    (∀ e, parse (ending.join lines) = .error e ↔ IsMisfitOf (cellLines lines) e) := by
  have hText := parse_join ending oneLine
  refine ⟨fun other => ?_, ?_, fun t hTable => ?_, fun e => ?_⟩
  · rw [hText, parse_join other (oneLine_cellLines oneLine), cellLines_cellLines]
  · rw [hText, exists_ofLines_iff]
  · rw [hText] at hTable
    exact isTableOf_of_ofLines hTable
  · rw [hText, ofLines_eq_error_iff]

/-- Comments and blank lines before the headers and between the rows, a header that repeats, and
    blanks around the lines. -/
def spacedLines : List (List Char) :=
  ["", "|-- sizes", " | size | price |size|\r", "\t", "|S|1|M|", "|--", "|L|2|XL", "  "].map
    String.toList

def closeLines : List (List Char) :=
  ["| size | price |size|", "|S|1|M|", "|L|2|XL"].map String.toList

/-- The table of these lines.  Under the header that repeats there is the last cell of each line. -/
def sizesTable : Table where
  headers := ["size", "price", "size"]
  rows := [[("size", .text "M"), ("price", .text "1")],
    [("size", .text "XL"), ("price", .text "2")]]

theorem parse_layout_spacedLines :
    (∀ line ∈ spacedLines, '\n' ∉ line) ∧
      parse (LineEnd.returnFeed.join spacedLines) = parse (LineEnd.feed.join closeLines) ∧
      parse (LineEnd.returnFeed.join spacedLines) = .ok sizesTable ∧
      IsTableOf closeLines sizesTable ∧
      (∀ line ∈ spacedLines ++ ["|M|".toList], '\n' ∉ line) ∧
      parse (LineEnd.feed.join (spacedLines ++ ["|M|".toList])) = .error ⟨3, 1, 3⟩ := by
  have oneLine : ∀ line ∈ spacedLines, '\n' ∉ line := by decide
  have oneLineMore : ∀ line ∈ spacedLines ++ ["|M|".toList], '\n' ∉ line := by decide
  have hLines : cellLines spacedLines = closeLines := by decide
  have hMore : cellLines (spacedLines ++ ["|M|".toList]) = closeLines ++ ["|M|".toList] := by decide
  obtain ⟨hSame, -, hRows, -⟩ := parse_layout spacedLines oneLine .returnFeed
  obtain ⟨-, -, -, hError⟩ := parse_layout (spacedLines ++ ["|M|".toList]) oneLineMore .feed
  rw [hLines] at hSame hRows
  rw [hMore] at hError
  have hWidth : SameWidth closeLines := by
    show ∀ line ∈ _, _
    decide
  have hParse : parse (LineEnd.returnFeed.join spacedLines) = .ok sizesTable :=
    (hSame .feed).trans rfl
  refine ⟨oneLine, hSame .feed, hParse, hRows _ hParse, oneLineMore, (hError _).2 ?_⟩
  exact ⟨_, closeLines.tail, "|M|".toList, [], rfl, hWidth, by decide, by decide⟩

end StepArguments.Table
