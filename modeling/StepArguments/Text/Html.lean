/-! # HTML text

`escape` writes the four characters that have a meaning in HTML as entities; `unescape` reads those
four entities back, from left to right. `unescape_escape` says that nothing is lost. -/

namespace StepArguments.Text.Html

def escapeChar (c : Char) : List Char :=
  if c = '&' then "&amp;".toList
  else if c = '<' then "&lt;".toList
  else if c = '>' then "&gt;".toList
  else if c = '"' then "&quot;".toList
  else [c]

def escape (s : List Char) : List Char :=
  s.flatMap escapeChar

/-- The text that HTML text stands for: each of the four entities is its character. -/
def unescape : List Char → List Char
  | '&' :: 'a' :: 'm' :: 'p' :: ';' :: s => '&' :: unescape s
  | '&' :: 'l' :: 't' :: ';' :: s => '<' :: unescape s
  | '&' :: 'g' :: 't' :: ';' :: s => '>' :: unescape s
  | '&' :: 'q' :: 'u' :: 'o' :: 't' :: ';' :: s => '"' :: unescape s
  | c :: s => c :: unescape s
  | [] => []

theorem escape_append (s t : List Char) : escape (s ++ t) = escape s ++ escape t := by
  simp [escape]

/-- An escaped character reads as itself, whatever follows it. -/
theorem unescape_escapeChar (c : Char) (s : List Char) :
    unescape (escapeChar c ++ s) = c :: unescape s := by
  by_cases hamp : c = '&'
  · subst hamp; simp [escapeChar, unescape]
  by_cases hlt : c = '<'
  · subst hlt; simp [escapeChar, unescape]
  by_cases hgt : c = '>'
  · subst hgt; simp [escapeChar, unescape]
  by_cases hquot : c = '"'
  · subst hquot; simp [escapeChar, unescape]
  · simp [escapeChar, unescape, hamp, hlt, hgt, hquot]

theorem unescape_escape (s : List Char) : unescape (escape s) = s := by
  induction s with
  | nil => simp [escape, unescape]
  | cons c s ih => rw [escape, List.flatMap_cons, unescape_escapeChar, ← escape, ih]

end StepArguments.Text.Html
