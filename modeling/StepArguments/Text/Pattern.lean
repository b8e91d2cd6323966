/-! # Pattern text

`quote` writes a text as a regular expression that matches just this text: each character that has
a meaning in patterns follows a backslash. -/

namespace StepArguments.Text.Pattern

def special : List Char :=
  ['\\', '.', '+', '*', '?', '(', ')', '|', '[', ']', '{', '}', '^', '$', '#', '&', '-', '~']

def quote (s : List Char) : List Char :=
  s.flatMap fun c => if c ∈ special then ['\\', c] else [c]

end StepArguments.Text.Pattern
