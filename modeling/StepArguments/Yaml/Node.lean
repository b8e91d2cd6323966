import StepArguments.Yaml.Token

/-! # YAML nodes

The tree of a YAML text, read from its tokens. What is left out where a node may stand is an empty
plain scalar. -/

namespace StepArguments.Yaml

/-- A node of a YAML text. -/
inductive Node where
  | scalar (plain : Bool) (text : List Char)
  | sequence (items : List Node)
  | mapping (entries : List (Node × Node))
deriving Inhabited

namespace Node

def empty : Node := .scalar true []

def atAny (stops : List Token) : List Token → Bool
  | [] => false
  | token :: _ => stops.contains token

def afterComma? : List Token → Option (List Token)
  | .flowEntry :: tokens => some tokens
  | _ => none

mutual

/-- Reads a node, with a bound on the number of steps. Block collections may start where `block`
says so, and a sequence without indentation of its own where `indentless` does. -/
def read? (block indentless : Bool) : (bound : Nat) → List Token → Option (Node × List Token)
  | 0, _ => none
  | bound + 1, tokens =>
    match tokens with
    | .scalar plain text :: tokens => some (.scalar plain text, tokens)
    | .flowSequence :: tokens =>
      (readFlowItems? true bound tokens).map fun (items, tokens) => (.sequence items, tokens)
    | .flowMapping :: tokens =>
      (readFlowEntries? true bound tokens).map fun (entries, tokens) => (.mapping entries, tokens)
    | .blockEntry :: _ =>
      if indentless then
        (readIndentless? bound tokens).map fun (items, tokens) => (.sequence items, tokens)
      else none
    | .blockSequence :: tokens =>
      if block then
        (readItems? bound tokens).map fun (items, tokens) => (.sequence items, tokens)
      else none
    | .blockMapping :: tokens =>
      if block then
        (readEntries? bound tokens).map fun (entries, tokens) => (.mapping entries, tokens)
      else none
    | _ => none

/-- Reads a node, unless one of several tokens shows that there is none. -/
def readUnless? (stops : List Token) (block indentless : Bool) :
    (bound : Nat) → List Token → Option (Node × List Token)
  | 0, _ => none
  | bound + 1, tokens =>
    if atAny stops tokens then some (empty, tokens) else read? block indentless bound tokens

def readItems? : (bound : Nat) → List Token → Option (List Node × List Token)
  | 0, _ => none
  | bound + 1, tokens =>
    match tokens with
    | .blockEnd :: tokens => some ([], tokens)
    | .blockEntry :: tokens => do
      let (item, tokens) ← readUnless? [.blockEntry, .blockEnd] true false bound tokens
      let (items, tokens) ← readItems? bound tokens
      some (item :: items, tokens)
    | _ => none

/-- Reads the items of a sequence without indentation of its own, which anything else ends. -/
def readIndentless? : (bound : Nat) → List Token → Option (List Node × List Token)
  | 0, _ => none
  | bound + 1, tokens =>
    match tokens with
    | .blockEntry :: tokens => do
      let (item, tokens) ←
        readUnless? [.blockEntry, .key, .value, .blockEnd] true false bound tokens
      let (items, tokens) ← readIndentless? bound tokens
      some (item :: items, tokens)
    | tokens => some ([], tokens)

def readEntries? : (bound : Nat) → List Token → Option (List (Node × Node) × List Token)
  | 0, _ => none
  | bound + 1, tokens =>
    match tokens with
    | .blockEnd :: tokens => some ([], tokens)
    | .key :: tokens => do
      let (key, tokens) ← readUnless? [.key, .value, .blockEnd] true true bound tokens
      let (value, tokens) ← readValue? [.key, .value, .blockEnd] true bound tokens
      let (entries, tokens) ← readEntries? bound tokens
      some ((key, value) :: entries, tokens)
    | _ => none

/-- Reads the value behind a key, if there is one. -/
def readValue? (stops : List Token) (block : Bool) :
    (bound : Nat) → List Token → Option (Node × List Token)
  | 0, _ => none
  | bound + 1, tokens =>
    match tokens with
    | .value :: tokens => readUnless? stops block block bound tokens
    | tokens => some (empty, tokens)

/-- Reads the key of an entry in a flow sequence. Where none is there, the token that shows it is
taken as well. -/
def readFlowKey? : (bound : Nat) → List Token → Option (Node × List Token)
  | 0, _ => none
  | bound + 1, tokens =>
    if atAny [.value, .flowEntry, .flowSequenceEnd] tokens then some (empty, tokens.drop 1)
    else read? false false bound tokens

/-- Reads the items of a flow sequence to its end. A key with its value is a mapping of one
entry. -/
def readFlowItems? (first : Bool) : (bound : Nat) → List Token → Option (List Node × List Token)
  | 0, _ => none
  | bound + 1, tokens =>
    match tokens with
    | .flowSequenceEnd :: tokens => some ([], tokens)
    | tokens => do
      let tokens ← if first then some tokens else afterComma? tokens
      match tokens with
      | .flowSequenceEnd :: tokens => some ([], tokens)
      | .key :: tokens => do
        let (key, tokens) ← readFlowKey? bound tokens
        let (value, tokens) ← readValue? [.flowEntry, .flowSequenceEnd] false bound tokens
        let (items, tokens) ← readFlowItems? false bound tokens
        some (.mapping [(key, value)] :: items, tokens)
      | tokens => do
        let (item, tokens) ← read? false false bound tokens
        let (items, tokens) ← readFlowItems? false bound tokens
        some (item :: items, tokens)

def readFlowEntries? (first : Bool) :
    (bound : Nat) → List Token → Option (List (Node × Node) × List Token)
  | 0, _ => none
  | bound + 1, tokens =>
    match tokens with
    | .flowMappingEnd :: tokens => some ([], tokens)
    | tokens => do
      let tokens ← if first then some tokens else afterComma? tokens
      match tokens with
      | .flowMappingEnd :: tokens => some ([], tokens)
      | .key :: tokens => do
        let stops := [.value, .flowEntry, .flowMappingEnd]
        let (key, tokens) ← readUnless? stops false false bound tokens
        let (value, tokens) ← readValue? [.flowEntry, .flowMappingEnd] false bound tokens
        let (entries, tokens) ← readFlowEntries? false bound tokens
        some ((key, value) :: entries, tokens)
      | tokens => do
        let (key, tokens) ← read? false false bound tokens
        let (entries, tokens) ← readFlowEntries? false bound tokens
        some ((key, empty) :: entries, tokens)

end

def skipEnds : List Token → List Token
  | .documentEnd :: tokens => skipEnds tokens
  | tokens => tokens

/-- Reads the only document of a text; none if the text holds nothing. -/
def ofTokens? (tokens : List Token) : Option (Option Node) :=
  let bound := 4 * tokens.length + 4
  let finish (node : Node) (tokens : List Token) :=
    if (skipEnds tokens).isEmpty then some (some node) else none
  match tokens with
  | [] => some none
  | .documentStart :: tokens =>
    if tokens.isEmpty || atAny [.documentStart, .documentEnd] tokens then finish empty tokens
    else (read? true false bound tokens).bind fun (node, tokens) => finish node tokens
  | tokens => (read? true false bound tokens).bind fun (node, tokens) => finish node tokens

def ofText? (text : List Char) : Option (Option Node) :=
  (Token.ofText? text).bind ofTokens?

end Node

end StepArguments.Yaml
