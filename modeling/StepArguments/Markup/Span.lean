import StepArguments.Text.Utf8

/-! # Spans

A span is a part of a text, given by byte offsets. A scanner works on characters and yields the text
before, inside and after what it found; `Span` measures that in bytes. -/

namespace StepArguments

/-- A part of a text by its byte offsets, the second one excluded. -/
structure Span where
  first : Nat
  last : Nat
deriving DecidableEq

def Span.covers (s : Span) (text : String) : Bool :=
  s.first == 0 && s.last == Text.Utf8.size text.toList

/-- Something found in a text: the text before it, what it holds and the text after it. -/
structure Cut where
  before : List Char
  inside : List Char
  after : List Char
deriving DecidableEq

def Cut.behind (text : List Char) (c : Cut) : Cut :=
  { c with before := text ++ c.before }

end StepArguments
