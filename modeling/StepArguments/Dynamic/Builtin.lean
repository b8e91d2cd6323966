import StepArguments.Dynamic.Calendar
import StepArguments.Dynamic.Registry

/-! # Built-in dynamic variables

Variables that are there without registration: the time, and values drawn at random. A random value
is made from a number that the surroundings draw, and `Builtin.admits` states its form. -/

namespace StepArguments

/-- A built-in dynamic variable. -/
inductive Builtin where
  | randomUuid
  | timestamp
  | isoTimestamp
  | currentDate
  | randomInt
  | randomString
  | randomAlphanumeric
  | randomEmail
  | randomBoolean
deriving DecidableEq

/-- A drawn number for each number of earlier draws. -/
abbrev Draws := (earlier : Nat) → Nat

namespace Builtin

def all : List Builtin :=
  [.randomUuid, .timestamp, .isoTimestamp, .currentDate, .randomInt, .randomString,
    .randomAlphanumeric, .randomEmail, .randomBoolean]

def name : Builtin → String
  | .randomUuid => "random-uuid"
  | .timestamp => "timestamp"
  | .isoTimestamp => "iso-timestamp"
  | .currentDate => "current-date"
  | .randomInt => "random-int"
  | .randomString => "random-string"
  | .randomAlphanumeric => "random-alphanumeric"
  | .randomEmail => "random-email"
  | .randomBoolean => "random-boolean"

/-- What a built-in variable is, for people. -/
def description : Builtin → String
  | .randomUuid => "Random UUID v4"
  | .timestamp => "Unix timestamp in seconds"
  | .isoTimestamp => "ISO 8601 timestamp (UTC)"
  | .currentDate => "Current date (YYYY-MM-DD)"
  | .randomInt => "Random integer 0-1000"
  | .randomString => "Random alphanumeric string (16 chars)"
  | .randomAlphanumeric => "Random alphanumeric string (8 chars)"
  | .randomEmail => "Random email address"
  | .randomBoolean => "Random boolean (true/false)"

def sample : Builtin → String
  | .randomUuid => "550e8400-e29b-41d4-a716-446655440000"
  | .timestamp => "1706284800"
  | .isoTimestamp => "2024-01-26T12:00:00+00:00"
  | .currentDate => "2024-01-26"
  | .randomInt => "427"
  | .randomString => "aB3dE5fG7hI9jK1m"
  | .randomAlphanumeric => "aB3dE5fG"
  | .randomEmail => "abc12def@example.com"
  | .randomBoolean => "true"

def ofName? (name : String) : Option Builtin :=
  all.find? (·.name == name)

/-! ## Random texts -/

def alphabet : List Char :=
  "ABCDEFGHIJKLMNOPQRSTUVWXYZabcdefghijklmnopqrstuvwxyz0123456789".toList

def letters (draw : Nat) : (count : Nat) → List Char
  | 0 => []
  | count + 1 => alphabet.getD (draw % 62) 'A' :: letters (draw / 62) count

def hexDigits (draw : Nat) : (count : Nat) → List Char
  | 0 => []
  | count + 1 => Json.hexDigit draw :: hexDigits (draw / 16) count

/-- A random identifier of version 4: of its 32 hexadecimal digits, the thirteenth is the version
and the seventeenth one of `8` to `b`. -/
def uuid (draw : Nat) : List Char :=
  hexDigits draw 8 ++ '-' :: hexDigits (draw >>> 32) 4 ++
    '-' :: '4' :: hexDigits (draw >>> 48) 3 ++
    '-' :: Json.hexDigit (8 + (draw >>> 60) % 4) :: hexDigits (draw >>> 62) 3 ++
    '-' :: hexDigits (draw >>> 74) 12

/-! ## Values -/

/-- The value of a built-in variable at an instant, made from a drawn number. -/
def value (b : Builtin) (now : Instant) (draw : Nat) : Value :=
  match b with
  | .randomUuid => .text (String.ofList (uuid draw))
  | .timestamp => .integer (Int64.ofInt now.seconds)
  | .isoTimestamp => .text (String.ofList now.chars)
  | .currentDate => .text (String.ofList now.date.chars)
  | .randomInt => .integer (Int64.ofNat (draw % 1001))
  | .randomString => .text (String.ofList (letters draw 16))
  | .randomAlphanumeric => .text (String.ofList (letters draw 8))
  | .randomEmail =>
    .text (String.ofList ((letters draw 8).map Char.toLower ++ "@example.com".toList))
  | .randomBoolean => .bool (draw % 2 == 0)

/-! ## Forms -/

/-- Whether a text is a random identifier of version 4, in lower case. -/
def isUuid (s : List Char) : Bool :=
  s.length == 36 && s.zipIdx.all fun (c, i) =>
    if i = 8 ∨ i = 13 ∨ i = 18 ∨ i = 23 then c == '-'
    else if i = 14 then c == '4'
    else if i = 19 then c ∈ ['8', '9', 'a', 'b']
    else c.isDigit || ('a' ≤ c && c ≤ 'f')

/-- Whether a value has the form of the values of a built-in variable at an instant. -/
def admits (b : Builtin) (now : Instant) : Value → Bool
  | .text s =>
    let s := s.toList
    match b with
    | .randomUuid => isUuid s
    | .isoTimestamp => "+00:00".toList.isSuffixOf s
    | .currentDate => s.length == 10
    | .randomString => s.length == 16 && s.all Char.isAlphanum
    | .randomAlphanumeric => s.length == 8 && s.all Char.isAlphanum
    | .randomEmail =>
      s.drop 8 == "@example.com".toList && (s.take 8).all fun c => c.isLower || c.isDigit
    | _ => false
  | .integer i =>
    match b with
    | .timestamp => i.toInt == now.seconds
    | .randomInt => 0 ≤ i.toInt && i.toInt ≤ 1000
    | _ => false
  | .bool _ => b == .randomBoolean
  | _ => false

/-- The provider of a built-in variable that reads a clock and draws numbers. -/
def provider (b : Builtin) (now : Instant) (draws : Draws) : Provider where
  answer earlier := .ok (b.value now (draws earlier))

def registry (now : Instant) (draws : Draws) : Registry :=
  all.map fun b => (b.name, b.provider now draws)

end Builtin

end StepArguments
