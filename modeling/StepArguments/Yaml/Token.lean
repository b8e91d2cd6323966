import StepArguments.Yaml.Scalar

/-! # YAML tokens

The tokens of a YAML text. Indentation opens and closes block collections, and a key shows only by
the colon behind it: a place where a key may start is remembered, and the tokens of the key are put
in front of it when the colon comes. -/

namespace StepArguments.Yaml

/-- A token of a YAML text. -/
inductive Token where
  | documentStart
  | documentEnd
  | blockSequence
  | blockMapping
  | blockEnd
  | flowSequence
  | flowSequenceEnd
  | flowMapping
  | flowMappingEnd
  /-- A comma between the items of a flow collection. -/
  | flowEntry
  /-- A hyphen before an item of a block sequence. -/
  | blockEntry
  | key
  | value
  | scalar (plain : Bool) (text : List Char)
deriving DecidableEq

/-- A place where a key may have started. -/
structure KeyPlace where
  /-- The number of tokens before the place. -/
  tokens : Nat
  line : Nat
  column : Nat
  index : Nat
  /-- Whether only a key makes sense at the place. -/
  required : Bool

/-- The state of reading tokens. -/
structure Scanner where
  cursor : Cursor
  /-- The columns of the open block collections, the innermost first. -/
  indents : List Nat := []
  /-- Whether a key may start here. -/
  keyAllowed : Bool := true
  /-- Where a key may have started, for each open flow collection and for the block around them, the
  innermost first. -/
  keys : List (Option KeyPlace) := [none]
  tokens : Array Token := #[]

namespace Scanner

/-! ## The state -/

/-- The column of the innermost block collection, or one before the first column. -/
def indent (s : Scanner) : Int :=
  match s.indents with
  | [] => -1
  | column :: _ => column

def inFlow (s : Scanner) : Bool :=
  1 < s.keys.length

def add (s : Scanner) (token : Token) : Scanner :=
  { s with tokens := s.tokens.push token }

def insert (s : Scanner) (place : Nat) (token : Token) : Scanner :=
  { s with tokens := s.tokens.extract 0 place ++ #[token] ++ s.tokens.extract place s.tokens.size }

def move (s : Scanner) (c : Cursor) : Scanner :=
  { s with cursor := c }

def allowKey (s : Scanner) (allowed : Bool) : Scanner :=
  { s with keyAllowed := allowed }

/-! ## Keys -/

/-- Forgets the place where a key may have started; a required key cannot be missing. -/
def dropKey? (s : Scanner) : Option Scanner :=
  match s.keys with
  | some place :: keys => if place.required then none else some { s with keys := none :: keys }
  | _ => some s

def saveKey? (s : Scanner) : Option Scanner :=
  if s.keyAllowed then
    (dropKey? s).map fun s =>
      let place : KeyPlace :=
        { tokens := s.tokens.size, line := s.cursor.line, column := s.cursor.column, index := s.cursor.index
          required := !s.inFlow && s.indent == s.cursor.column }
      { s with keys := some place :: s.keys.drop 1 }
  else some s

/-- The most bytes that a key may take before its colon, unless a question mark shows it. -/
def keyLimit : Nat := 1024

/-- Forgets all places whose line is over or that lie too far back for a key. -/
def dropStale? (s : Scanner) : Option Scanner := do
  let keys ← s.keys.mapM fun place? =>
    match place? with
    | some place =>
      if place.line < s.cursor.line || place.index + keyLimit < s.cursor.index then
        if place.required then none else some none
      else some (some place)
    | none => some none
  some { s with keys }

/-! ## Indentation and gaps -/

/-- Opens a block collection at a column, unless one is open there. -/
def openBlock (s : Scanner) (column place : Nat) (token : Token) : Scanner :=
  if !s.inFlow && s.indent < column then
    { s.insert place token with indents := column :: s.indents }
  else s

def closeBlocks (s : Scanner) (column : Int) : (indents : List Nat) → Scanner
  | [] => { s with indents := [] }
  | i :: indents =>
    if !s.inFlow && column < i then closeBlocks (s.add .blockEnd) column indents
    else { s with indents := i :: indents }

/-- Passes over blanks, comments and line breaks, and over a mark of the byte order at the start of a
line. Tabs count as blanks only where no key may start. -/
def skipGaps (s : Scanner) : (bound : Nat) → Scanner
  | 0 => s
  | bound + 1 =>
    let c := if s.cursor.atOrderMark then s.cursor.next else s.cursor
    let c := c.skipWhile fun x => x == ' ' || (x == '\t' && (s.inFlow || !s.keyAllowed))
    -- a comment reaches to the end of its line
    let c := if c.rest.head? = some '#' then c.skipWhile (!isBreak ·) else c
    if startsWithBreak c.rest then
      -- outside flow collections a key may start on each line
      let s := s.move c.takeBreak.2
      skipGaps (if s.inFlow then s else s.allowKey true) bound
    else s.move c

/-! ## Taking tokens -/

def single (s : Scanner) (token : Token) : Scanner :=
  (s.add token).move s.cursor.next

def takeMark? (s : Scanner) (token : Token) : Option Scanner := do
  let s := s.closeBlocks (-1) s.indents
  let s ← s.dropKey?
  some (((s.allowKey false).add token).move (s.cursor.skip 3))

def openFlow? (s : Scanner) (token : Token) : Option Scanner := do
  let s ← s.saveKey?
  some (({ s with keys := none :: s.keys }.allowKey true).single token)

def closeFlow? (s : Scanner) (token : Token) : Option Scanner := do
  let s ← s.dropKey?
  let keys := if s.inFlow then s.keys.drop 1 else s.keys
  some (({ s with keys }.allowKey false).single token)

def takeComma? (s : Scanner) : Option Scanner := do
  let s ← s.dropKey?
  some ((s.allowKey true).single .flowEntry)

/-- Opens a block collection at an indicator, if one may start here. -/
def openAt? (s : Scanner) (token : Token) : Option Scanner :=
  if s.inFlow then some s
  else if s.keyAllowed then some (s.openBlock s.cursor.column s.tokens.size token)
  else none

def takeHyphen? (s : Scanner) : Option Scanner := do
  let s ← s.openAt? .blockSequence
  let s ← s.dropKey?
  some ((s.allowKey true).single .blockEntry)

def takeQuestion? (s : Scanner) : Option Scanner := do
  let s ← s.openAt? .blockMapping
  let s ← s.dropKey?
  some ((s.allowKey (!s.inFlow)).single .key)

/-- Takes a colon: behind a key, whose tokens are put in front of it, or by itself. -/
def takeColon? (s : Scanner) : Option Scanner :=
  match s.keys with
  | some place :: keys =>
    -- the key comes behind the start of its mapping, if that starts here
    let s := { s with keys := none :: keys }
    let s := (s.insert place.tokens .key).openBlock place.column place.tokens .blockMapping
    some ((s.allowKey false).single .value)
  | _ => do
    let s ← s.openAt? .blockMapping
    some ((s.allowKey (!s.inFlow)).single .value)

def takeScalar? (s : Scanner) (plain : Bool) (take? : Cursor → Option Taken) : Option Scanner := do
  let s ← s.saveKey?
  let taken ← take? s.cursor
  some (((s.allowKey taken.brokeLine).add (.scalar plain taken.text)).move taken.after)

def takeBlock? (s : Scanner) (literal : Bool) : Option Scanner := do
  let s ← s.dropKey?
  let taken ← block? literal s.indent s.cursor
  some (((s.allowKey true).add (.scalar false taken.text)).move taken.after)

/-- Whether a character begins a token of its own or is reserved, so that no plain scalar starts
with it without further ado. -/
def isIndicator (c : Char) : Bool :=
  c ∈ ['-', '?', ':', ',', '[', ']', '{', '}', '#', '&', '*', '!', '|', '>', '\'', '"', '%', '@',
    '\x60']

/-- Takes the next token, which starts with a character. Anchors, aliases, tags and directives are
not known. -/
def take? (s : Scanner) (c : Char) (rest : List Char) : Option Scanner :=
  if s.cursor.column = 0 && c == '%' then none
  else if s.cursor.atMark '-' then s.takeMark? .documentStart
  else if s.cursor.atMark '.' then s.takeMark? .documentEnd
  else if c == '[' then s.openFlow? .flowSequence
  else if c == '{' then s.openFlow? .flowMapping
  else if c == ']' then s.closeFlow? .flowSequenceEnd
  else if c == '}' then s.closeFlow? .flowMappingEnd
  else if c == ',' then s.takeComma?
  else if c == '-' && endsWord rest then s.takeHyphen?
  else if c == '?' && (s.inFlow || endsWord rest) then s.takeQuestion?
  else if c == ':' && (s.inFlow || endsWord rest) then s.takeColon?
  else if c == '|' && !s.inFlow then s.takeBlock? true
  else if c == '>' && !s.inFlow then s.takeBlock? false
  else if c == '\'' then s.takeScalar? false (quoted? true)
  else if c == '"' then s.takeScalar? false (quoted? false)
  else if !(isIndicator c || isGap c) || (c == '-' && !rest.head?.any isGap) ||
      (!s.inFlow && (c == '?' || c == ':') && !endsWord rest) then
    s.takeScalar? true (plain? s.inFlow (s.indent + 1).toNat)
  else none

/-- Takes all tokens, with a bound on their number. At the end all block collections are closed. -/
def takeAll? : (bound : Nat) → Scanner → Option (Array Token)
  | 0, _ => none
  | bound + 1, s => do
    let s ← (s.skipGaps (s.cursor.rest.length + 1)).dropStale?
    match s.cursor.rest with
    | [] => do
      let s ← (s.closeBlocks (-1) s.indents).dropKey?
      some s.tokens
    | c :: rest => do
      let s := s.closeBlocks s.cursor.column s.indents
      let s ← s.take? c rest
      takeAll? bound s

end Scanner

def Token.ofText? (text : List Char) : Option (List Token) :=
  if text.all isAllowed then
    (Scanner.takeAll? (text.length + 1) { cursor := { rest := text } }).map Array.toList
  else none

end StepArguments.Yaml
