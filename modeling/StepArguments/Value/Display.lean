import StepArguments.Decimal.Format
import StepArguments.Json.Text
import StepArguments.Text.Utf8
import StepArguments.Value

/-! # The text of a value

`Value.jsonChars` writes a value as compact JSON text: bytes as the text they hold, a table as a
list of its rows, and a double that is not finite as `null`. `Value.chars` is the text that takes
the place of a placeholder or an expression: a text itself, a table in its pipe form, lists and
maps in JSON. -/

namespace StepArguments

def separated (separator : List Char) : List (List Char) → List Char
  | [] => []
  | [part] => part
  | part :: parts => part ++ separator ++ separated separator parts

namespace Value

mutual

def jsonChars : Value → List Char
  | .null => "null".toList
  | .bool b => (toString b).toList
  | .integer i => Decimal.integerChars i.toInt
  | .float x => Decimal.exchange.write x
  | .text s => Json.quoted s.toList
  | .bytes bs => Json.quoted (Text.Utf8.decodeLossy bs)
  | .list items => '[' :: separated [','] (jsonItems items) ++ [']']
  | .map entries => '{' :: separated [','] (jsonEntries entries) ++ ['}']
  | .table _ rows => '[' :: separated [','] (jsonRows rows) ++ [']']

def jsonItems : List Value → List (List Char)
  | [] => []
  | v :: items => jsonChars v :: jsonItems items

def jsonEntries : List (String × Value) → List (List Char)
  | [] => []
  | (name, v) :: entries => (Json.quoted name.toList ++ ':' :: jsonChars v) :: jsonEntries entries

def jsonRows : List (List (String × Value)) → List (List Char)
  | [] => []
  | row :: rows => ('{' :: separated [','] (jsonEntries row) ++ ['}']) :: jsonRows rows

end

def json (v : Value) : String :=
  String.ofList v.jsonChars

end Value

/-- A cell of a table in its pipe form: a pipe is written after a backslash. -/
def escapeCell (cell : List Char) : List Char :=
  cell.flatMap fun c => if c = '|' then ['\\', '|'] else [c]

def pipeLine (cells : List (List Char)) : List Char :=
  '|' :: cells.flatMap fun cell => escapeCell cell ++ ['|']

namespace Value

mutual

def chars : Value → List Char
  | .text s => s.toList
  | .float x => Decimal.plain.write x
  | .bytes bs => Text.Utf8.decodeLossy bs
  | .table [] _ => []
  | .table headers rows =>
    pipeLine (headers.map String.toList) ++ rowLines headers rows
  | .null => jsonChars .null
  | .bool b => jsonChars (.bool b)
  | .integer i => jsonChars (.integer i)
  | .list items => jsonChars (.list items)
  | .map entries => jsonChars (.map entries)

/-- The lines of a table after the first, each after its line feed. -/
def rowLines (headers : List String) : List (List (String × Value)) → List Char
  | [] => []
  | row :: rows =>
    let cells := cellTexts row
    '\n' :: pipeLine (headers.map fun header => (cells.lookup header).getD []) ++
      rowLines headers rows

def cellTexts : List (String × Value) → List (String × List Char)
  | [] => []
  | (name, v) :: cells => (name, chars v) :: cellTexts cells

end

def display (v : Value) : String :=
  String.ofList v.chars

@[simp] theorem display_text (s : String) : (text s).display = s := by
  rw [display, chars, String.ofList_toList]

end Value

end StepArguments
