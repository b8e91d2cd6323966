import StepArguments.Text.Case.Data

/-! # Letter case

The full case mappings: a character may have several counterparts, and a capital sigma at the end
of a word becomes a final small sigma. -/

namespace StepArguments.Text

namespace Case

/-- The place of a code point in a run, counted in code points. -/
def Run.offset? (r : Run) (code : Nat) : Option Nat :=
  if r.first ≤ code ∧ code ≤ r.last ∧ (code - r.first) % r.step = 0 then some (code - r.first)
  else none

def inRuns? (runs : List Run) (code : Nat) : Option Nat :=
  runs.findSome? fun r => (r.offset? code).map (r.target + ·)

/-- The counterparts of a character; a character that has none stands for itself. -/
def counterparts (runs : List Run) (sequences : List (Nat × List Nat)) (c : Char) : List Char :=
  match inRuns? runs c.toNat with
  | some code => [Char.ofNat code]
  | none =>
    match sequences.lookup c.toNat with
    | some codes => codes.map Char.ofNat
    | none => [c]

end Case

def isUpper (c : Char) : Bool :=
  inRanges Case.uppercaseRanges c

def isCased (c : Char) : Bool :=
  inRanges Case.casedRanges c

/-- Whether a character is passed over when the end of a word is looked for. -/
def isCaseIgnorable (c : Char) : Bool :=
  inRanges Case.caseIgnorableRanges c

/-- The lower-case counterparts of a character, whatever stands around it. -/
def lowerChar (c : Char) : List Char :=
  Case.counterparts Case.lowerRuns Case.lowerSequences c

def upperChar (c : Char) : List Char :=
  Case.counterparts Case.upperRuns Case.upperSequences c

/-- Whether the first character that counts is a letter that has case. -/
def meetsLetter (s : List Char) : Bool :=
  match s.dropWhile isCaseIgnorable with
  | [] => false
  | c :: _ => isCased c

/-- Lower case, given the characters before, the nearest first. A capital sigma after a letter and
before none is a final one. -/
def lowerAfter (before : List Char) : List Char → List Char
  | [] => []
  | c :: s =>
    -- the one mapping that depends on the text around it
    let here :=
      if c = 'Σ' then [if meetsLetter before && !meetsLetter s then 'ς' else 'σ']
      else lowerChar c
    here ++ lowerAfter (c :: before) s

def lowerChars (s : List Char) : List Char :=
  lowerAfter [] s

def upperChars (s : List Char) : List Char :=
  s.flatMap upperChar

def lower (s : String) : String :=
  String.ofList (lowerChars s.toList)

end StepArguments.Text
