import StepArguments.Decimal.Read
import StepArguments.Json.Reader
import StepArguments.Yaml.Node

/-! # Values of YAML nodes

Plain scalars stand for the absent value, truth values and numbers of the core types; all others are
texts. Records are read from mappings of their fields. -/

namespace StepArguments.Yaml

def radixNumber? (radix : Nat) (digits : List Char) : Option Nat :=
  if digits.isEmpty then none
  else
    digits.foldlM (fun n c => do
      let digit ← Json.hexValue? c
      if digit < radix then some (radix * n + digit) else none) 0

def prefixedNumber? : List Char → Option Nat
  | '0' :: 'x' :: digits => radixNumber? 16 digits
  | '0' :: 'o' :: digits => radixNumber? 8 digits
  | '0' :: 'b' :: digits => radixNumber? 2 digits
  | _ => none

/-- Decimal digits. A zero in front of other digits makes no number. -/
def decimalNumber? (digits : List Char) : Option Nat :=
  match digits with
  | '0' :: _ :: _ => none
  | digits => radixNumber? 10 digits

/-- A natural number, with or without a plus sign. -/
def naturalNumber? (s : List Char) : Option Nat :=
  let digits :=
    match s with
    | '+' :: s => s
    | s => s
  (prefixedNumber? digits).or (decimalNumber? digits)

def negativeNumber? : List Char → Option Nat
  | '-' :: digits => (prefixedNumber? digits).or (decimalNumber? digits)
  | _ => none

/-- Whether a text is a run of digits that starts with a zero and so is no number. -/
def isPaddedNumber (s : List Char) : Bool :=
  let digits :=
    match s with
    | '+' :: s => s
    | '-' :: s => s
    | s => s
  1 < digits.length && digits.head? == some '0' && digits.all Char.isDigit

def truth? (s : List Char) : Option Bool :=
  if String.ofList s ∈ ["true", "True", "TRUE"] then some true
  else if String.ofList s ∈ ["false", "False", "FALSE"] then some false
  else none

def isNull (s : List Char) : Bool :=
  s.isEmpty || String.ofList s ∈ ["null", "Null", "NULL", "~"]

/-- Whether a text stands for a double that is not finite. Such a double is the absent value. -/
def isNotFinite (s : List Char) : Bool :=
  String.ofList s ∈
    [".inf", ".Inf", ".INF", "+.inf", "+.Inf", "+.INF", "-.inf", "-.Inf", "-.INF", ".nan", ".NaN",
      ".NAN"]

def double? (s : List Char) : Option Float :=
  let read? (s : List Char) :=
    match Decimal.readFloat s with
    | .ok x => if Decimal.isFinite x then some x else none
    | .error _ => none
  match s with
  | '+' :: '+' :: _ => none
  | '+' :: '-' :: _ => none
  | '+' :: s => read? s
  | s => read? s

def otherValue (s : List Char) : Value :=
  if isPaddedNumber s then .text (String.ofList s)
  else if isNotFinite s then .null
  else
    match double? s with
    | some x => .float x
    | none => .text (String.ofList s)

/-- The value of a plain scalar. An integer beyond 64 bits has none up to 128 bits, and is a double
beyond that. -/
def plainValue? (s : List Char) : Option Value :=
  if isNull s then some .null
  else
    match truth? s, naturalNumber? s, negativeNumber? s with
    | some b, _, _ => some (.bool b)
    | none, some n, _ =>
      if n < UInt64.size then some (Json.Number.natural n).value
      else if n < 1 <<< 128 then none
      else some (otherValue s)
    | none, none, some n =>
      if n ≤ 1 <<< 63 then some (.integer (Int64.ofInt (-(n : Int))))
      else if n ≤ 1 <<< 127 then none
      else some (otherValue s)
    | none, none, none => some (otherValue s)

namespace Node

def depthLimit : Nat := 128

def text? : Node → Option String
  | .scalar _ text => some (String.ofList text)
  | _ => none

mutual

/-- The value of a node in which collections are nested at most to a depth. The keys of a mapping
are texts, and of a repeated key the last entry counts. -/
def value? (depth : Nat) : Node → Option Value
  | .scalar plain text => if plain then plainValue? text else some (.text (String.ofList text))
  | .sequence items => if depth = 0 then none else (itemValues? (depth - 1) items).map .list
  | .mapping entries =>
    if depth = 0 then none
    else (entryValues? (depth - 1) entries).map fun entries => .map (Named.ofPairs entries)

def itemValues? (depth : Nat) : List Node → Option (List Value)
  | [] => some []
  | item :: items => do
    let v ← item.value? depth
    let values ← itemValues? depth items
    some (v :: values)

def entryValues? (depth : Nat) : List (Node × Node) → Option (List (String × Value))
  | [] => some []
  | (key, item) :: entries => do
    let name ← key.text?
    let v ← item.value? depth
    let values ← entryValues? depth entries
    some ((name, v) :: values)

end

/-- A truth value, which is plain. -/
def boolean? : Node → Option Bool
  | .scalar true text => truth? text
  | _ => none

/-- A natural number below `2 ^ 64`, which is plain. -/
def natural? : Node → Option Nat
  | .scalar true text => (naturalNumber? text).filter (· < UInt64.size)
  | _ => none

end Node

/-- A field of a record: its name, and how its node changes the record. -/
structure Field (ρ : Type) where
  name : String
  read? : (depth : Nat) → Node → Option (ρ → ρ)

/-- Reads fields from the entries of a mapping. Unknown fields are passed over, and no field may
come twice. -/
def readFields? {ρ : Type} (fields : List (Field ρ)) (depth : Nat) :
    (seen : List String) → ρ → List (Node × Node) → Option ρ
  | _, record, [] => some record
  | seen, record, (key, node) :: entries => do
    let name ← key.text?
    match fields.find? (·.name == name) with
    | none => readFields? fields depth seen record entries
    | some field =>
      if seen.contains name then none
      else
        let change ← field.read? depth node
        readFields? fields depth (name :: seen) (change record) entries

/-- Reads a record; nothing at all leaves it as it is. -/
def readRecord? {ρ : Type} (fields : List (Field ρ)) (start : ρ) (depth : Nat) : Node → Option ρ
  | .scalar true [] => some start
  | .mapping entries => if depth = 0 then none else readFields? fields (depth - 1) [] start entries
  | _ => none

/-- Reads named values; nothing at all is no values. -/
def readBindings? (depth : Nat) : Node → Option Bindings
  | .scalar true [] => some []
  | .mapping entries =>
    if depth = 0 then none else (Node.entryValues? (depth - 1) entries).map Named.ofPairs
  | _ => none

end StepArguments.Yaml
