/-! # Places in YAML text

A cursor is a place in a text: what is left of it, and the line and the column reached. The classes
of characters that YAML tells apart are those of blanks, of line breaks and of all that may stand in
a text. -/

namespace StepArguments.Yaml

def isAllowed (c : Char) : Bool :=
  let n := c.toNat
  n == 0x09 || n == 0x0A || n == 0x0D || (0x20 ≤ n && n ≤ 0x7E) || n == 0x85 ||
    (0xA0 ≤ n && n ≤ 0xFFFD) || 0x10000 ≤ n

def isGap (c : Char) : Bool :=
  c == ' ' || c == '\t'

def isBreak (c : Char) : Bool :=
  c == '\r' || c == '\n' || c == '\u0085' || c == '\u2028' || c == '\u2029'

/-- Whether a text is over, its line is over, or a word of it is. -/
def endsWord : List Char → Bool
  | [] => true
  | c :: _ => isGap c || isBreak c

def endsLine : List Char → Bool
  | [] => true
  | c :: _ => isBreak c

def startsWithBreak : List Char → Bool
  | [] => false
  | c :: _ => isBreak c

def startsWithTab : List Char → Bool
  | c :: _ => c == '\t'
  | [] => false

/-- A place in a text. -/
structure Cursor where
  rest : List Char
  line : Nat := 0
  column : Nat := 0
  /-- The number of bytes that the text before the place takes in UTF-8. -/
  index : Nat := 0

namespace Cursor

def next (c : Cursor) : Cursor :=
  match c.rest with
  | [] => c
  | x :: s => ⟨s, c.line, c.column + 1, c.index + x.utf8Size⟩

def skip (c : Cursor) : (count : Nat) → Cursor
  | 0 => c
  | count + 1 => c.next.skip count

def skipWhile (p : Char → Bool) (c : Cursor) : Cursor :=
  c.skip (c.rest.takeWhile p).length

/-- What a line break reads as, and the place after it. A carriage return with its line feed is one
break, and all breaks but two read as a line feed. -/
def takeBreak (c : Cursor) : List Char × Cursor :=
  match c.rest with
  | '\r' :: '\n' :: s => (['\n'], ⟨s, c.line + 1, 0, c.index + 2⟩)
  | b :: s =>
    (if b == '\u2028' || b == '\u2029' then [b] else ['\n'],
      ⟨s, c.line + 1, 0, c.index + b.utf8Size⟩)
  | [] => ([], c)

/-- Whether a place is the start of a line with a mark of the byte order. -/
def atOrderMark (c : Cursor) : Bool :=
  c.column == 0 && c.rest.head? == some '\ufeff'

/-- Whether a place starts with a mark of a document: three equal characters at the start of a line,
and no word goes on after them. -/
def atMark (mark : Char) (c : Cursor) : Bool :=
  c.column == 0 &&
    match c.rest with
    | x :: y :: z :: s => x == mark && y == mark && z == mark && endsWord s
    | _ => false

/-- Whether a place starts with a mark that begins or ends a document. -/
def atDocumentMark (c : Cursor) : Bool :=
  c.atMark '-' || c.atMark '.'

end Cursor

end StepArguments.Yaml
