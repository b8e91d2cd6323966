import StepArguments.Json.Reader
import StepArguments.Yaml.Cursor

/-! # YAML scalars

The texts of YAML: plain, between single or double quotes, and as a block of lines. Inside the first
three, a line break with the blanks around it reads as one space, and further breaks as themselves;
a block keeps its breaks or joins its lines. -/

namespace StepArguments.Yaml

/-- What stands between two words of a scalar: blanks, or a first line break and further ones. -/
structure Gap where
  blanks : List Char := []
  first : Option (List Char) := none
  others : List Char := []

namespace Gap

def text (g : Gap) : List Char :=
  match g.first with
  | none => g.blanks
  | some ['\n'] => if g.others.isEmpty then [' '] else g.others
  | some first => first ++ g.others

/-- Takes a gap further, with a bound on the number of characters. After a line break, a tab before
the column `indent` is wrong. -/
def take? (indent : Nat) : (bound : Nat) → Gap → Cursor → Option (Gap × Cursor)
  | 0, g, c => some (g, c)
  | bound + 1, g, c =>
    match c.rest with
    | [] => some (g, c)
    | x :: _ =>
      if isGap x then
        match g.first with
        | some _ =>
          if x == '\t' && c.column < indent then none else take? indent bound g c.next
        | none => take? indent bound { g with blanks := g.blanks ++ [x] } c.next
      else if isBreak x then
        let (read, c) := c.takeBreak
        match g.first with
        | some _ => take? indent bound { g with others := g.others ++ read } c
        | none => take? indent bound { g with first := some read } c
      else some (g, c)

end Gap

/-! ## Plain scalars -/

/-- Whether a text starts with a colon or an indicator that ends a plain scalar. -/
def endsPlain (inFlow : Bool) : List Char → Bool
  | ':' :: s => endsWord s
  | c :: _ => inFlow && (c == ',' || c == '[' || c == ']' || c == '{' || c == '}')
  | [] => true

def strayColon (inFlow : Bool) : List Char → Bool
  | ':' :: c :: _ =>
    inFlow && (c == ',' || c == '?' || c == '[' || c == ']' || c == '{' || c == '}')
  | _ => false

/-- Takes a word of a plain scalar, with a bound on the number of characters. -/
def plainWord? (inFlow : Bool) : (bound : Nat) → Cursor → Option (List Char × Cursor)
  | 0, c => some ([], c)
  | bound + 1, c =>
    if endsWord c.rest then some ([], c)
    else if strayColon inFlow c.rest then none
    else if endsPlain inFlow c.rest then some ([], c)
    else
      match c.rest with
      | [] => some ([], c)
      | x :: _ => (plainWord? inFlow bound c.next).map fun (word, c) => (x :: word, c)

/-- A scalar as it was taken, the place after it, and whether a line break ended it. -/
structure Taken where
  text : List Char
  after : Cursor
  brokeLine : Bool := false

def plainFrom? (inFlow : Bool) (indent : Nat) :
    (bound : Nat) → (text : List Char) → Gap → Cursor → Option Taken
  | 0, text, _, c => some ⟨text, c, false⟩
  | bound + 1, text, gap, c => do
    let broke := gap.first.isSome
    -- a document and a comment may begin only where a word does
    if c.atDocumentMark then some ⟨text, c, broke⟩
    else if c.rest.head? = some '#' then some ⟨text, c, broke⟩
    else
      let (word, after) ← plainWord? inFlow (c.rest.length + 1) c
      let text := if word.isEmpty then text else text ++ gap.text ++ word
      let broke := broke && word.isEmpty
      if !(after.rest.head?.any fun x => isGap x || isBreak x) then some ⟨text, after, broke⟩
      else
        let start : Gap := if word.isEmpty then gap else {}
        let (gap, after) ← start.take? indent (after.rest.length + 1) after
        if !inFlow && after.column < indent then some ⟨text, after, gap.first.isSome⟩
        else plainFrom? inFlow indent bound text gap after

/-- Takes a plain scalar. Lines that go on with it stand at the column `indent` or behind it. -/
def plain? (inFlow : Bool) (indent : Nat) (c : Cursor) : Option Taken :=
  plainFrom? inFlow indent (c.rest.length + 1) [] {} c

/-! ## Quoted scalars -/

def hexNumber? : (count : Nat) → (number : Nat) → List Char → Option Nat
  | 0, number, _ => some number
  | _ + 1, _, [] => none
  | count + 1, number, c :: s => do
    let digit ← Json.hexValue? c
    hexNumber? count (number * 16 + digit) s

/-- The character of a code, which is no surrogate. -/
def scalarChar? (code : Nat) : Option Char :=
  if h : code.isValidChar then some (Char.ofNatAux code h) else none

/-- What a backslash with the text after it stands for, and how many characters that is. -/
def escape? : List Char → Option (Char × Nat)
  | [] => none
  | c :: s =>
    let code (count : Nat) := do
      let char ← (hexNumber? count 0 s).bind scalarChar?
      some (char, count + 1)
    if c == 'x' then code 2
    else if c == 'u' then code 4
    else if c == 'U' then code 8
    else
      (List.lookup c
        [('0', 0x00), ('a', 0x07), ('b', 0x08), ('t', 0x09), ('\t', 0x09), ('n', 0x0A), ('v', 0x0B),
          ('f', 0x0C), ('r', 0x0D), ('e', 0x1B), (' ', 0x20), ('"', 0x22), ('/', 0x2F),
          ('\\', 0x5C), ('N', 0x85), ('_', 0xA0), ('L', 0x2028), ('P', 0x2029)]).map
        fun code => (Char.ofNat code, 1)

/-- Takes the characters of a quoted scalar up to its quote, a blank or a break; whether an escaped
break ended them. -/
def quotedWord? (single : Bool) : (bound : Nat) → Cursor → Option (List Char × Bool × Cursor)
  | 0, _ => none
  | bound + 1, c =>
    if endsWord c.rest then some ([], false, c)
    else
      match c.rest with
      | [] => some ([], false, c)
      | x :: s =>
        let go (char : Char) (count : Nat) :=
          (quotedWord? single bound (c.skip count)).map fun (word, broke, c) =>
            (char :: word, broke, c)
        if single then
          if x == '\'' then
            match s with
            | '\'' :: _ => go '\'' 2
            | _ => some ([], false, c)
          else go x 1
        else if x == '"' then some ([], false, c)
        else if x == '\\' then
          if startsWithBreak s then some ([], true, c.next.takeBreak.2)
          else (escape? s).bind fun (char, count) => go char (count + 1)
        else go x 1

/-- Takes a quoted scalar after its first quote. A mark of a document is wrong in it. -/
def quotedFrom? (single : Bool) : (bound : Nat) → (text : List Char) → Cursor → Option Taken
  | 0, _, _ => none
  | bound + 1, text, c => do
    if c.atDocumentMark then none
    else
      let (word, broke, c) ← quotedWord? single (c.rest.length + 1) c
      match c.rest with
      | [] => none
      | x :: _ =>
        if !broke && x == (if single then '\'' else '"') then some ⟨text ++ word, c.next, false⟩
        else
          -- an escaped break counts as a break that reads as nothing
          let start : Gap := if broke then { first := some [] } else {}
          let (gap, c) ← start.take? 0 (c.rest.length + 1) c
          quotedFrom? single bound (text ++ word ++ gap.text) c

def quoted? (single : Bool) (c : Cursor) : Option Taken :=
  quotedFrom? single (c.rest.length + 1) [] c.next

/-! ## Blocks -/

/-- What becomes of the line breaks at the end of a block. -/
inductive Chomping where
  | strip
  | clip
  | keep
deriving DecidableEq

/-- Reads the signs behind the indicator of a block: its chomping and the depth of its lines, in
either order. -/
def blockHeader? (c : Cursor) : Option (Chomping × Option Nat × Cursor) :=
  let sign? (c : Cursor) : Option (Chomping × Cursor) :=
    match c.rest with
    | '+' :: _ => some (.keep, c.next)
    | '-' :: _ => some (.strip, c.next)
    | _ => none
  let digit? (c : Cursor) : Option (Nat × Cursor) :=
    match c.rest with
    | x :: _ => if x.isDigit then some (x.toNat - '0'.toNat, c.next) else none
    | [] => none
  let (chomping, depth, c) :=
    match sign? c with
    | some (chomping, c) =>
      match digit? c with
      | some (depth, c) => (chomping, some depth, c)
      | none => (chomping, none, c)
    | none =>
      match digit? c with
      | some (depth, c) =>
        match sign? c with
        | some (chomping, c) => (chomping, some depth, c)
        | none => (.clip, some depth, c)
      | none => (.clip, none, c)
  if depth = some 0 then none else some (chomping, depth, c)

/-- Passes over empty lines: their breaks, the greatest column that blanks reach, and the first place
with something else. A tab in the place of indentation is wrong. -/
def blockBreaks? (indent : Nat) : (bound : Nat) → (read : List Char) → (reached : Nat) → Cursor →
    Option (List Char × Nat × Cursor)
  | 0, read, reached, c => some (read, reached, c)
  | bound + 1, read, reached, c =>
    let blanks := (c.rest.takeWhile (· == ' ')).length
    let c := c.skip (if indent = 0 then blanks else min blanks (indent - c.column))
    let reached := max reached c.column
    if (indent = 0 || c.column < indent) && startsWithTab c.rest then none
    else if startsWithBreak c.rest then
      let (text, c) := c.takeBreak
      blockBreaks? indent bound (read ++ text) reached c
    else some (read, reached, c)

/-- What was taken of a block: its text, the last line break, the breaks of the empty lines after it,
and whether its last line starts with a blank. -/
structure Block where
  text : List Char := []
  lastBreak : List Char := []
  emptyLines : List Char := []
  startsBlank : Bool := false

def blockLines? (literal : Bool) (indent : Nat) :
    (bound : Nat) → Block → Cursor → Option (Block × Cursor)
  | 0, b, c => some (b, c)
  | bound + 1, b, c =>
    if c.column ≠ indent || c.rest.isEmpty then some (b, c)
    else do
      let startsBlank := c.rest.head?.any isGap
      -- a line break is folded between two lines that both start with a word
      let joint :=
        if !literal && b.lastBreak == ['\n'] && !b.startsBlank && !startsBlank then
          (if b.emptyLines.isEmpty then [' '] else b.emptyLines)
        else b.lastBreak ++ b.emptyLines
      let line := c.rest.takeWhile (!isBreak ·)
      let (lastBreak, c) := (c.skip line.length).takeBreak
      let (emptyLines, _, c) ← blockBreaks? indent (c.rest.length + 1) [] 0 c
      blockLines? literal indent bound ⟨b.text ++ joint ++ line, lastBreak, emptyLines, startsBlank⟩ c

/-- Takes a block scalar. Its lines stand at a column that is given relative to `parent`, the column
of the collection around it, or that its first line shows. -/
def block? (literal : Bool) (parent : Int) (c : Cursor) : Option Taken := do
  let (chomping, depth, c) ← blockHeader? c.next
  let c := c.skipWhile isGap
  let c := if c.rest.head? = some '#' then c.skipWhile (!isBreak ·) else c
  if !endsLine c.rest then none
  else
    let c := c.takeBreak.2
    -- a given depth counts from the collection around the block
    let given := (depth.map fun depth => depth + parent.toNat).getD 0
    let (emptyLines, reached, c) ← blockBreaks? given (c.rest.length + 1) [] 0 c
    let indent := if given = 0 then max reached (max (parent + 1).toNat 1) else given
    let (b, c) ← blockLines? literal indent (c.rest.length + 1) { emptyLines } c
    let text := if chomping = .strip then b.text else b.text ++ b.lastBreak
    some ⟨if chomping = .keep then text ++ b.emptyLines else text, c, true⟩

end StepArguments.Yaml
