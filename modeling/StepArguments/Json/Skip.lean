import StepArguments.Json.Reader

/-! # Passing over values

`skipValue` reads a value whose content does not matter. It keeps the open brackets on a stack, so
that no depth is too much, and looks less closely at numbers and texts than `readValue` does. -/

namespace StepArguments.Json

/-- An open bracket. -/
inductive Bracket where
  | list
  | map
deriving DecidableEq

def Bracket.atEnd : Bracket → Cause
  | .list => .endInList
  | .map => .endInObject

def Bracket.notComma : Bracket → Cause
  | .list => .expectedCommaInList
  | .map => .expectedCommaInObject

def Bracket.closedBy : Bracket → Char → Bool
  | .list, c => c == ']'
  | .map, c => c == '}'

def skipEscape : Reader Unit
  | [] => .error (.here .endInString [])
  | c :: s =>
    if c = 'u' then (readHexQuad s).map fun (_, s) => ((), s)
    else if (escaped? c).isSome then .ok ((), s)
    else .error (.next .invalidEscape (c :: s))

/-- Passes over a quoted text after its first quote, with a bound on the number of characters. -/
def skipTextWithin : (bound : Nat) → Reader Unit
  | 0, s => .error (.here .endInString s)
  | _ + 1, [] => .error (.here .endInString [])
  | bound + 1, c :: s =>
    if c = '"' then .ok ((), s)
    else if c = '\\' then do
      let ((), s) ← skipEscape s
      skipTextWithin bound s
    else if c.toNat < 0x20 then .error (.here .controlCharacter (c :: s))
    else skipTextWithin bound s

def skipText : Reader Unit := fun s =>
  skipTextWithin (s.length + 1) s

/-- A fault behind the next byte, or at the end of the text. -/
def wrongDigit (s : List Char) : Fault :=
  .next .invalidNumber s

def skipExponent : Reader Unit := fun s =>
  let s :=
    match s with
    | '+' :: s => s
    | '-' :: s => s
    | s => s
  if startsWithDigit s then .ok ((), s.dropWhile Char.isDigit) else .error (wrongDigit s)

def skipFraction : Reader Unit := fun s =>
  if startsWithDigit s then
    match s.dropWhile Char.isDigit with
    | 'e' :: s => skipExponent s
    | 'E' :: s => skipExponent s
    | s => .ok ((), s)
  else .error (wrongDigit s)

def skipNumber : Reader Unit := fun s =>
  let fraction : Reader Unit
    | '.' :: s => skipFraction s
    | 'e' :: s => skipExponent s
    | 'E' :: s => skipExponent s
    | s => .ok ((), s)
  match s with
  | '0' :: s => if startsWithDigit s then .error (wrongDigit s) else fraction s
  | s => if startsWithDigit s then fraction (s.dropWhile Char.isDigit) else .error (wrongDigit s)

def skipScalar : Reader Unit
  | 'n' :: s => readWord "ull".toList s
  | 't' :: s => readWord "rue".toList s
  | 'f' :: s => readWord "alse".toList s
  | '"' :: s => skipText s
  | '-' :: s => skipNumber s
  | s => if startsWithDigit s then skipNumber s else .error (.next .expectedValue s)

def skipKey : Reader Unit := fun s =>
  match skipBlanks s with
  | [] => .error (.next .endInObject [])
  | '"' :: s => do
    let ((), s) ← skipText s
    readColon s
  | s => .error (.next .keyNotString s)

/-- What is expected next. -/
inductive Phase where
  | value
  /-- What may follow an opening bracket. -/
  | opened
  /-- What may follow a value. -/
  | closed

/-- Passes over what is expected and all open brackets, with a bound on the number of steps. -/
def skipFrom : (bound : Nat) → Phase → List Bracket → Reader Unit
  | 0, _, _, s => .error (.here .endInValue s)
  | _ + 1, .closed, [], s => .ok ((), s)
  | _ + 1, .opened, [], s => .ok ((), s)
  | bound + 1, .value, brackets, s =>
    match skipBlanks s with
    | [] => .error (.next .endInValue [])
    | '[' :: s => skipFrom bound .opened (.list :: brackets) s
    | '{' :: s => skipFrom bound .opened (.map :: brackets) s
    | s => do
      let ((), s) ← skipScalar s
      skipFrom bound .closed brackets s
  | bound + 1, phase, bracket :: brackets, s =>
    let item (s : List Char) : Except Fault (Unit × List Char) := do
      match bracket with
      | .list => skipFrom bound .value (bracket :: brackets) s
      | .map =>
        let ((), s) ← skipKey s
        skipFrom bound .value (bracket :: brackets) s
    match skipBlanks s with
    | [] => .error (.next bracket.atEnd [])
    | c :: s =>
      -- a comma before the closing bracket is found out by the next value
      if bracket.closedBy c then skipFrom bound .closed brackets s
      else
        match phase with
        | .opened => item (c :: s)
        | _ => if c = ',' then item s else .error (.next bracket.notComma (c :: s))

/-- Passes over a value. Each step but the first takes a character or closes a bracket. -/
def skipValue : Reader Unit := fun s =>
  skipFrom (2 * s.length + 2) .value [] s

end StepArguments.Json
