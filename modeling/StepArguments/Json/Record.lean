import StepArguments.Json.Skip
import StepArguments.Text.Visible

/-! # Reading records

A record is read from a map of its fields, in any order and with unknown fields passed over, or from
a list of its fields in their order; a missing field keeps what the record has already. A value of
the wrong kind is named in the fault. -/

namespace StepArguments.Json

/-- A field of a record: its name, and how its value changes the record. -/
structure Field (ρ : Type) where
  name : String
  read : (depth : Nat) → Reader (ρ → ρ)

/-- The fault of a value of the wrong kind. Anything but a list and a map is read to its end. -/
def wrongKind (expected : String) (s : List Char) : Fault :=
  let found (what : String) (rest : List Char) : Fault := .here (.invalidType what expected) rest
  let number (negative : Bool) (s : List Char) : Fault :=
    match readNumber negative s with
    | .ok (n, rest) => found n.describe rest
    | .error fault => fault
  let word (rest what : String) (s : List Char) : Fault :=
    match readWord rest.toList s with
    | .ok ((), rest) => found what rest
    | .error fault => fault
  match s with
  | [] => .next .endInValue []
  | c :: s =>
    if c = 'n' then word "ull" "null" s
    else if c = 't' then word "rue" "boolean `true`" s
    else if c = 'f' then word "alse" "boolean `false`" s
    else if c = '-' then number true s
    else if c.isDigit then number false (c :: s)
    else if c = '"' then
      match readText s with
      | .ok (text, rest) => found ("string " ++ String.ofList (Text.showChars text)) rest
      | .error fault => fault
    else if c = '[' then found "sequence" (c :: s)
    else if c = '{' then found "map" (c :: s)
    else .next .expectedValue (c :: s)

def readBoolean : Reader Bool := fun s =>
  match skipBlanks s with
  | 't' :: s => (readWord "rue".toList s).map fun ((), s) => (true, s)
  | 'f' :: s => (readWord "alse".toList s).map fun ((), s) => (false, s)
  | s => .error (wrongKind "a boolean" s)

/-- Reads a natural number below `2 ^ 64`. -/
def readNatural : Reader Nat := fun s => do
  let s := skipBlanks s
  let (n, rest) ←
    match s with
    | '-' :: s => readNumber true s
    | s => if startsWithDigit s then readNumber false s else .error (wrongKind "usize" s)
  match n with
  | .natural n => .ok (n, rest)
  | .negative _ => .error (.here (.invalidValue n.describe "usize") rest)
  | .double _ => .error (.here (.invalidType n.describe "usize") rest)

/-- Reads fields from a map after its opening brace. A field that comes twice is reported behind
its second key; the blanks after it, and a brace that closes the map, count as read. -/
def readFields {ρ : Type} (fields : List (Field ρ)) (depth : Nat) :
    (bound : Nat) → (seen : List String) → ρ → Reader ρ
  | 0, _, _, s => .error (.here .endInObject s)
  | bound + 1, seen, record, s => do
    match ← readKeyStart seen.isEmpty s with
    | none => .ok (record, (skipBlanks s).drop 1)
    | some s =>
      let (key, s) ← readText s
      let key := String.ofList key
      match fields.find? (·.name == key) with
      | none =>
        let ((), s) ← readColon s
        let ((), s) ← skipValue s
        readFields fields depth bound (key :: seen) record s
      | some field =>
        if seen.contains key then
          -- the end of the map is looked for before the fault is located
          let rest :=
            match skipBlanks s with
            | '}' :: s => s
            | s => s
          .error (.here (.duplicateField key) rest)
        else
          let ((), s) ← readColon s
          let (change, s) ← field.read depth s
          readFields fields depth bound (key :: seen) (change record) s

def readListEnd : Reader Unit := fun s =>
  match skipBlanks s with
  | [] => .error (.next .endInList [])
  | ']' :: s => .ok ((), s)
  | ',' :: s =>
    match skipBlanks s with
    | ']' :: s => .error (.next .trailingComma (']' :: s))
    | s => .error (.next .trailingCharacters s)
  | s => .error (.next .trailingCharacters s)

/-- Reads fields in their order from a list after its opening bracket. -/
def readListed {ρ : Type} (depth : Nat) (first : Bool) : List (Field ρ) → ρ → Reader ρ
  | [], record, s => (readListEnd s).map fun ((), s) => (record, s)
  | field :: fields, record, s => do
    match ← readItemStart first s with
    | none => .ok (record, (skipBlanks s).drop 1)
    | some s =>
      let (change, s) ← field.read depth s
      readListed depth false fields (change record) s

def readRecord {ρ : Type} (expected : String) (fields : List (Field ρ)) (start : ρ)
    (depth : Nat) : Reader ρ := fun s =>
  match skipBlanks s, depth with
  | '{' :: s, 0 => .error (.next .tooDeep ('{' :: s))
  | '[' :: s, 0 => .error (.next .tooDeep ('[' :: s))
  | '{' :: s, depth + 1 => readFields fields depth (s.length + 1) [] start s
  | '[' :: s, depth + 1 => readListed depth true fields start s
  | s, _ => .error (wrongKind expected s)

/-- Reads named values from a map; of a repeated name the last value counts. -/
def readBindings (depth : Nat) : Reader Bindings := fun s =>
  match skipBlanks s, depth with
  | '{' :: s, 0 => .error (.next .tooDeep ('{' :: s))
  | '{' :: s, depth + 1 =>
    (readEntries (readValue depth) (s.length + 1) true s).map fun (entries, s) =>
      (Named.ofPairs entries, s)
  | s, _ => .error (wrongKind "a map" s)

end StepArguments.Json
