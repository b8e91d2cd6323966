import StepArguments.Json.Number
import StepArguments.Json.Text
import StepArguments.Value

/-! # Reading JSON text

`readText` reads the rest of a quoted text, and `readValue` a value, in which lists and maps may be
nested up to a given depth. Each failure tells what was wrong and where. -/

namespace StepArguments.Json

/-! ## Quoted texts -/

def hexValue? (c : Char) : Option Nat :=
  if c.isDigit then some (c.toNat - '0'.toNat)
  else if 'a' ≤ c ∧ c ≤ 'f' then some (c.toNat - 'a'.toNat + 10)
  else if 'A' ≤ c ∧ c ≤ 'F' then some (c.toNat - 'A'.toNat + 10)
  else none

def hexQuad? : List Char → Option (Nat × List Char)
  | a :: b :: c :: d :: s => do
    let a ← hexValue? a
    let b ← hexValue? b
    let c ← hexValue? c
    let d ← hexValue? d
    some (((a * 16 + b) * 16 + c) * 16 + d, s)
  | _ => none

/-- Reads four hexadecimal digits. If they are wrong, the next four bytes count as read. -/
def readHexQuad : Reader Nat := fun s =>
  match hexQuad? s with
  | some (n, s) => .ok (n, s)
  | none =>
    if Text.Utf8.size s < 4 then .error ⟨.endInString, 0⟩
    else .error ⟨.invalidEscape, Text.Utf8.size s - 4⟩

/-- Reads the letter that has to follow the first half of a surrogate pair. -/
def readPairLetter (letter : Char) : Reader Unit
  | [] => .error (.here .endInString [])
  | c :: s => if c = letter then .ok ((), s) else .error (.next .cutSurrogatePair (c :: s))

/-- Reads the digits of a `\u` escape, and the second half of a surrogate pair. -/
def readCodePoint : Reader Char := fun s => do
  let (high, s) ← readHexQuad s
  if 0xDC00 ≤ high ∧ high ≤ 0xDFFF then .error (.here .loneSurrogate s)
  else if high < 0xD800 ∨ 0xDBFF < high then .ok (Char.ofNat high, s)
  else
    let ((), s) ← readPairLetter '\\' s
    let ((), s) ← readPairLetter 'u' s
    let (low, s) ← readHexQuad s
    if low < 0xDC00 ∨ 0xDFFF < low then .error (.here .loneSurrogate s)
    else .ok (Char.ofNat ((high - 0xD800) * 0x400 + (low - 0xDC00) + 0x10000), s)

def escaped? (c : Char) : Option Char :=
  if c = '"' ∨ c = '\\' ∨ c = '/' then some c
  else if c = 'b' then some (Char.ofNat 0x08)
  else if c = 'f' then some (Char.ofNat 0x0C)
  else if c = 'n' then some '\n'
  else if c = 'r' then some '\r'
  else if c = 't' then some '\t'
  else none

def readEscape : Reader Char
  | [] => .error (.here .endInString [])
  | c :: s =>
    if c = 'u' then readCodePoint s
    else
      match escaped? c with
      | some c => .ok (c, s)
      | none => .error (.next .invalidEscape (c :: s))

/-- Reads a quoted text after its first quote, with a bound on the number of characters. -/
def readTextWithin : (bound : Nat) → Reader (List Char)
  | 0, s => .error (.here .endInString s)
  | bound + 1, s =>
    match s with
    | [] => .error (.here .endInString [])
    | c :: s =>
      if c = '"' then .ok ([], s)
      else if c = '\\' then do
        let (c, s) ← readEscape s
        let (text, s) ← readTextWithin bound s
        .ok (c :: text, s)
      else if c.toNat < 0x20 then .error (.here .controlCharacter s)
      else do
        let (text, s) ← readTextWithin bound s
        .ok (c :: text, s)

def readText : Reader (List Char) := fun s =>
  readTextWithin (s.length + 1) s

def readWord : (word : List Char) → Reader Unit
  | [], s => .ok ((), s)
  | _ :: _, [] => .error (.here .endInValue [])
  | w :: word, c :: s =>
    if w = c then readWord word s else .error (.next .expectedWord (c :: s))

/-! ## Lists and maps -/

/-- What stands before the next item of a list: its end, or the item. -/
def readItemStart (first : Bool) (s : List Char) : Except Fault (Option (List Char)) :=
  match skipBlanks s with
  | [] => .error (.next .endInList [])
  | ']' :: _ => .ok none
  | ',' :: s =>
    if first then .ok (some (',' :: s))
    else
      match skipBlanks s with
      | [] => .error (.next .endInValue [])
      | ']' :: s => .error (.next .trailingComma (']' :: s))
      | s => .ok (some s)
  | s => if first then .ok (some s) else .error (.next .expectedCommaInList s)

/-- Reads the items of a list after its opening bracket, up to its closing one. -/
def readItems {α : Type} (item : Reader α) : (bound : Nat) → (first : Bool) → Reader (List α)
  | 0, _, s => .error (.here .endInList s)
  | bound + 1, first, s => do
    match ← readItemStart first s with
    | none => .ok ([], (skipBlanks s).drop 1)
    | some s =>
      let (a, s) ← item s
      let (items, s) ← readItems item bound false s
      .ok (a :: items, s)

/-- What stands before the next key of a map: its end, or the text after the quote of the key. -/
def readKeyStart (first : Bool) (s : List Char) : Except Fault (Option (List Char)) :=
  match skipBlanks s with
  | [] => .error (.next .endInObject [])
  | '}' :: _ => .ok none
  | ',' :: s =>
    if first then .error (.next .keyNotString (',' :: s))
    else
      match skipBlanks s with
      | [] => .error (.next .endInValue [])
      | '"' :: s => .ok (some s)
      | '}' :: s => .error (.next .trailingComma ('}' :: s))
      | s => .error (.next .keyNotString s)
  | '"' :: s =>
    if first then .ok (some s) else .error (.next .expectedCommaInObject ('"' :: s))
  | s => .error (.next (if first then .keyNotString else .expectedCommaInObject) s)

def readColon : Reader Unit := fun s =>
  match skipBlanks s with
  | [] => .error (.next .endInObject [])
  | ':' :: s => .ok ((), s)
  | s => .error (.next .expectedColon s)

/-- Reads the entries of a map after its opening brace, up to its closing one. -/
def readEntries {α : Type} (item : Reader α) :
    (bound : Nat) → (first : Bool) → Reader (List (String × α))
  | 0, _, s => .error (.here .endInObject s)
  | bound + 1, first, s => do
    match ← readKeyStart first s with
    | none => .ok ([], (skipBlanks s).drop 1)
    | some s =>
      let (key, s) ← readText s
      let ((), s) ← readColon s
      let (a, s) ← item s
      let (entries, s) ← readEntries item bound false s
      .ok ((String.ofList key, a) :: entries, s)

/-! ## Values -/

/-- The value of a number: an integer if it fits 64 bits with a sign. -/
def Number.value : Number → Value
  | .natural n =>
    if n < 1 <<< 63 then .integer (Int64.ofNat n) else .float (UInt64.ofNat n).toFloat
  | .negative i => .integer i
  | .double x => .float x

/-- Reads a value in which lists and maps are nested at most to a depth. -/
def readValue : (depth : Nat) → Reader Value := fun depth s =>
  match skipBlanks s with
  | [] => .error (.next .endInValue [])
  | c :: s =>
    if c = 'n' then (readWord "ull".toList s).map fun ((), s) => (.null, s)
    else if c = 't' then (readWord "rue".toList s).map fun ((), s) => (.bool true, s)
    else if c = 'f' then (readWord "alse".toList s).map fun ((), s) => (.bool false, s)
    else if c = '"' then (readText s).map fun (text, s) => (.text (String.ofList text), s)
    else if c = '-' then (readNumber true s).map fun (n, s) => (n.value, s)
    else if c.isDigit then (readNumber false (c :: s)).map fun (n, s) => (n.value, s)
    else if c = '[' then
      match depth with
      | 0 => .error (.next .tooDeep (c :: s))
      | depth + 1 =>
        (readItems (readValue depth) (s.length + 1) true s).map fun (items, s) =>
          (.list items, s)
    else if c = '{' then
      match depth with
      | 0 => .error (.next .tooDeep (c :: s))
      | depth + 1 =>
        (readEntries (readValue depth) (s.length + 1) true s).map fun (entries, s) =>
          (.map (Named.ofPairs entries), s)
    else .error (.next .expectedValue (c :: s))

def depthLimit : Nat := 127

def parse (text : List Char) : Except Error Value :=
  readAll (readValue depthLimit) text

end StepArguments.Json
