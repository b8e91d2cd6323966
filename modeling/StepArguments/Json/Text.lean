/-! # Quoted text

The strings of JSON text: `escape` writes one character, `body` those of a whole text and `quoted`
the text with its quotes, which `inside` takes off again. Control characters below U+0020, the quote
and the backslash are escaped, all else stands for itself. -/

namespace StepArguments.Json

def hexDigit (n : Nat) : Char :=
  Nat.digitChar (n % 16)

def escape (c : Char) : List Char :=
  if c = '"' then ['\\', '"']
  else if c = '\\' then ['\\', '\\']
  else if c = '\n' then ['\\', 'n']
  else if c = '\r' then ['\\', 'r']
  else if c = '\t' then ['\\', 't']
  else if c.toNat = 0x08 then ['\\', 'b']
  else if c.toNat = 0x0C then ['\\', 'f']
  else if c.toNat < 0x20 then ['\\', 'u', '0', '0', hexDigit (c.toNat / 16), hexDigit c.toNat]
  else [c]

def body (s : List Char) : List Char :=
  s.flatMap escape

def quoted (s : List Char) : List Char :=
  '"' :: body s ++ ['"']

/-- What stands between the quotes of a quoted text. -/
def inside (s : List Char) : List Char :=
  (quoted s).tail.dropLast

theorem inside_eq_body (s : List Char) : inside s = body s := by
  rw [inside, quoted, List.cons_append, List.tail_cons, List.dropLast_concat]

end StepArguments.Json
