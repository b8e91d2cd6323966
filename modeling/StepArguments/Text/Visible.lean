import StepArguments.Text.Visible.Data

/-! # Texts in messages

A message quotes a text so that every character can be seen: quotes and backslashes follow a
backslash, and characters that do not show for themselves are written by their code. -/

namespace StepArguments.Text

def hexChars (n : Nat) : List Char :=
  Nat.toDigits 16 n

def showChar (c : Char) : List Char :=
  if c = '\x00' then ['\\', '0']
  else if c = '\t' then ['\\', 't']
  else if c = '\r' then ['\\', 'r']
  else if c = '\n' then ['\\', 'n']
  else if c = '"' ∨ c = '\\' then ['\\', c]
  else if inRanges hiddenRanges c then '\\' :: 'u' :: '{' :: hexChars c.toNat ++ ['}']
  else [c]

/-- A text between quotes, as a message shows it. -/
def showChars (s : List Char) : List Char :=
  '"' :: s.flatMap showChar ++ ['"']

end StepArguments.Text
