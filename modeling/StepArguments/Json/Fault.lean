import StepArguments.Text.Utf8

/-! # Faults of JSON text

A reader reports why it stopped and how many bytes were left; `Fault.locate` turns that into a line
and a column, the column counted in bytes. -/

namespace StepArguments.Json

/-- Why a text is not the JSON text asked for. -/
inductive Cause where
  | endInList
  | endInObject
  | endInString
  | endInValue
  | expectedColon
  | expectedCommaInList
  | expectedCommaInObject
  | expectedWord
  | expectedValue
  | invalidEscape
  | invalidNumber
  | numberOutOfRange
  | controlCharacter
  | keyNotString
  | loneSurrogate
  | trailingComma
  | trailingCharacters
  | cutSurrogatePair
  | tooDeep
  /-- A value of another kind than the one expected. -/
  | invalidType (found expected : String)
  /-- A value of the right kind outside the expected range. -/
  | invalidValue (found expected : String)
  | duplicateField (name : String)

def Cause.message : Cause → String
  | .endInList => "EOF while parsing a list"
  | .endInObject => "EOF while parsing an object"
  | .endInString => "EOF while parsing a string"
  | .endInValue => "EOF while parsing a value"
  | .expectedColon => "expected `:`"
  | .expectedCommaInList => "expected `,` or `]`"
  | .expectedCommaInObject => "expected `,` or `\x7d`"
  | .expectedWord => "expected ident"
  | .expectedValue => "expected value"
  | .invalidEscape => "invalid escape"
  | .invalidNumber => "invalid number"
  | .numberOutOfRange => "number out of range"
  | .controlCharacter => "control character (\\u0000-\\u001F) found while parsing a string"
  | .keyNotString => "key must be a string"
  | .loneSurrogate => "lone leading surrogate in hex escape"
  | .trailingComma => "trailing comma"
  | .trailingCharacters => "trailing characters"
  | .cutSurrogatePair => "unexpected end of hex escape"
  | .tooDeep => "recursion limit exceeded"
  | .invalidType found expected => "invalid type: " ++ found ++ ", expected " ++ expected
  | .invalidValue found expected => "invalid value: " ++ found ++ ", expected " ++ expected
  | .duplicateField name => "duplicate field `" ++ name ++ "`"

/-- A cause, and the number of bytes of the text after the place it is reported at. -/
structure Fault where
  cause : Cause
  left : Nat

/-- A reader of the start of a text: what it read, and the rest of the text. -/
abbrev Reader (α : Type) := List Char → Except Fault (α × List Char)

def Fault.here (cause : Cause) (rest : List Char) : Fault :=
  ⟨cause, Text.Utf8.size rest⟩

/-- A fault reported one byte further on, or at the end of the text. -/
def Fault.next (cause : Cause) (rest : List Char) : Fault :=
  ⟨cause, Text.Utf8.size rest - 1⟩

/-- A fault of JSON text with its line and its column. -/
structure Error where
  cause : Cause
  line : Nat
  column : Nat

/-- Counts lines and the bytes since the last line feed over the first bytes of a text. -/
def locateFrom (line column : Nat) : (bytes : Nat) → List Char → Nat × Nat
  | 0, _ => (line, column)
  | bytes + 1, [] => (line, column + bytes + 1)
  | bytes + 1, c :: s =>
    if c = '\n' then locateFrom (line + 1) 0 bytes s
    else if c.utf8Size ≤ bytes + 1 then
      locateFrom line (column + c.utf8Size) (bytes + 1 - c.utf8Size) s
    else (line, column + bytes + 1)
termination_by _ s => s.length

def Fault.locate (f : Fault) (text : List Char) : Error :=
  let (line, column) := locateFrom 1 0 (Text.Utf8.size text - f.left) text
  ⟨f.cause, line, column⟩

/-- The wording of an error: the cause and its place. -/
def Error.message (e : Error) : String :=
  e.cause.message ++ " at line " ++ toString e.line ++ " column " ++ toString e.column

/-- A text without leading blanks; JSON text knows four of them. -/
def skipBlanks (s : List Char) : List Char :=
  s.dropWhile fun c => c == ' ' || c == '\n' || c == '\t' || c == '\r'

/-- Reads a whole text: after the value only blanks may follow. -/
def readAll {α : Type} (reader : Reader α) (text : List Char) : Except Error α :=
  match reader text with
  | .error f => .error (f.locate text)
  | .ok (a, rest) =>
    match skipBlanks rest with
    | [] => .ok a
    | rest => .error ((Fault.next .trailingCharacters rest).locate text)

end StepArguments.Json
