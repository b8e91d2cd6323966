import StepArguments.Text.Blank
import StepArguments.Text.Search
import StepArguments.Value.Display

/-! # Tables in pipe form

A table is written as lines of cells between pipes, the headers first. A pipe inside a cell is
written after a backslash, and lines that start with `|--` are comments. -/

namespace StepArguments

/-- A table: headers, and rows of cells named by them. -/
structure Table where
  headers : List String := []
  rows : List Bindings := []
deriving Inhabited

/-- A row with another number of cells than the header. -/
structure TableError where
  /-- The number of the row, counted from one without blank lines and comments. -/
  row : Nat
  cells : Nat
  headers : Nat
deriving DecidableEq

def TableError.message (e : TableError) : String :=
  "row " ++ toString e.row ++ " has " ++ toString e.cells ++ " cells, but the header has " ++
    toString e.headers

namespace Table

def value (t : Table) : Value :=
  .table t.headers t.rows

/-- The cells of the rest of a line, given the characters of the cell under way, the last one
first. What is left after the last pipe is a cell only if it is not blank. -/
def splitCells (cell : List Char) : List Char → List (List Char)
  | [] =>
    let last := Text.trimChars cell.reverse
    if last.isEmpty then [] else [last]
  -- a backslash before anything but a pipe stands for itself
  | '\\' :: '|' :: line => splitCells ('|' :: cell) line
  | '|' :: line => Text.trimChars cell.reverse :: splitCells [] line
  | c :: line => splitCells (c :: cell) line

/-- The cells of a line. A pipe at its start opens the first cell. -/
def splitLine : List Char → List (List Char)
  | '|' :: line => splitCells [] line
  | line => splitCells [] line

/-- Whether a trimmed line holds cells: it is not blank and no comment. -/
def isRow (line : List Char) : Bool :=
  !line.isEmpty && (Text.after? ['|', '-', '-'] line).isNone

/-- A row of cells under their headers. Of a repeated header the last cell counts. -/
def nameCells (headers : List String) (cells : List (List Char)) : Bindings :=
  Named.ofPairs (headers.zip (cells.map fun cell => .text (String.ofList cell)))

/-- The rows of lines, the first of which has a given number. -/
def readRows (headers : List String) : (number : Nat) → List (List Char) →
    Except TableError (List Bindings)
  | _, [] => .ok []
  | number, line :: lines =>
    let cells := splitLine line
    if cells.length = headers.length then
      (readRows headers (number + 1) lines).map (nameCells headers cells :: ·)
    else .error ⟨number, cells.length, headers.length⟩

/-- The table of lines that hold cells, the headers first. -/
def ofLines : List (List Char) → Except TableError Table
  | [] => .ok {}
  | header :: lines =>
    let headers := (splitLine header).map String.ofList
    (readRows headers 1 lines).map fun rows => ⟨headers, rows⟩

def parse (text : List Char) : Except TableError Table :=
  ofLines (((Text.splitAt '\n' text).map Text.trimChars).filter isRow)

def display (t : Table) : String :=
  t.value.display

end Table

end StepArguments
