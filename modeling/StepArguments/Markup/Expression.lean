import StepArguments.Markup.Span
import StepArguments.Text.Search

/-! # Expressions

An expression is `#{` with its content and a closing brace. The content holds no further opener, so
that the innermost expressions are found first. Of the braces that could close it, those after a
closing parenthesis are preferred: the reluctant strategy takes the first of them, the greedy one
the last. -/

namespace StepArguments

/-- Which of the braces after a closing parenthesis ends an expression. -/
inductive Strategy where
  | reluctant
  | greedy
deriving DecidableEq

namespace Expression

/-! ## Cuts -/

/-- Divides a text before the next opener, be it of an expression or of a placeholder. -/
def region : List Char → List Char × List Char
  | [] => ([], [])
  | '#' :: '{' :: s => ([], '#' :: '{' :: s)
  | '$' :: '{' :: s => ([], '$' :: '{' :: s)
  | c :: s => (c :: (region s).1, (region s).2)

/-- The text up to the first parenthesis that a brace follows, and the text after that brace. -/
def firstCall? : List Char → Option (List Char × List Char)
  | [] => none
  | ')' :: '}' :: s => some ([')'], s)
  | c :: s => (firstCall? s).map fun (content, after) => (c :: content, after)

/-- The text up to the last parenthesis that a brace follows, and the text after that brace. -/
def lastCall? : List Char → Option (List Char × List Char)
  | [] => none
  | ')' :: '}' :: s =>
    match lastCall? s with
    | some (content, after) => some (')' :: '}' :: content, after)
    | none => some ([')'], s)
  | c :: s => (lastCall? s).map fun (content, after) => (c :: content, after)

/-- The content of an expression in its region, and the text after its closing brace. -/
def close? (strategy : Strategy) (region : List Char) : Option (List Char × List Char) :=
  let call? :=
    match strategy with
    | .reluctant => firstCall? region
    | .greedy => lastCall? region
  call?.or (Text.cut? ['}'] region)

def cut? (strategy : Strategy) : List Char → Option Cut
  | [] => none
  | '#' :: '{' :: s =>
    match close? strategy (region s).1 with
    | some (content, after) => some ⟨[], content, after ++ (region s).2⟩
    | none => (cut? strategy s).map (Cut.behind ['#', '{'])
  | c :: s => (cut? strategy s).map (Cut.behind [c])

/-! ## What a cut divides -/

theorem region_append (s : List Char) : (region s).1 ++ (region s).2 = s := by
  fun_induction region s <;> simp_all

theorem eq_of_firstCall? {s content after : List Char}
    (h : firstCall? s = some (content, after)) : s = content ++ '}' :: after := by
  fun_induction firstCall? s generalizing content after with
  | case1 => simp at h
  | case2 s =>
    obtain ⟨rfl, rfl⟩ := Prod.mk.inj (Option.some.inj h)
    rfl
  | case3 c s _ ih =>
    obtain ⟨⟨content, after⟩, hs, heq⟩ := Option.map_eq_some_iff.1 h
    obtain ⟨rfl, rfl⟩ := Prod.mk.inj heq
    simpa using ih hs

theorem eq_of_lastCall? {s content after : List Char}
    (h : lastCall? s = some (content, after)) : s = content ++ '}' :: after := by
  fun_induction lastCall? s generalizing content after with
  | case1 => simp at h
  | case2 s content' after' hs ih =>
    obtain ⟨rfl, rfl⟩ := Prod.mk.inj (Option.some.inj h)
    simpa using ih hs
  | case3 s =>
    obtain ⟨rfl, rfl⟩ := Prod.mk.inj (Option.some.inj h)
    rfl
  | case4 c s _ ih =>
    obtain ⟨⟨content, after⟩, hs, heq⟩ := Option.map_eq_some_iff.1 h
    obtain ⟨rfl, rfl⟩ := Prod.mk.inj heq
    simpa using ih hs

theorem eq_of_close? {strategy : Strategy} {s content after : List Char}
    (h : close? strategy s = some (content, after)) : s = content ++ '}' :: after := by
  rcases Option.or_eq_some_iff.1 h with h | ⟨-, h⟩
  · cases strategy
    · exact eq_of_firstCall? h
    · exact eq_of_lastCall? h
  · simpa using Text.eq_of_cut? h

theorem eq_of_cut? {strategy : Strategy} {s : List Char} {m : Cut} (h : cut? strategy s = some m) :
    s = m.before ++ '#' :: '{' :: m.inside ++ '}' :: m.after := by
  fun_induction cut? strategy s generalizing m with
  | case1 => simp at h
  | case2 s content after hclose =>
    obtain rfl := Option.some.inj h
    have := region_append s
    rw [eq_of_close? hclose] at this
    simpa using this.symm
  | case3 s _ ih =>
    obtain ⟨m, hs, rfl⟩ := Option.map_eq_some_iff.1 h
    simpa [Cut.behind] using ih hs
  | case4 c s _ ih =>
    obtain ⟨m, hs, rfl⟩ := Option.map_eq_some_iff.1 h
    simpa [Cut.behind] using ih hs

theorem length_after_lt {strategy : Strategy} {s : List Char} {m : Cut}
    (h : cut? strategy s = some m) : m.after.length < s.length := by
  have := congrArg List.length (eq_of_cut? h)
  simp only [List.length_append, List.length_cons] at this
  omega

/-! ## All expressions -/

/-- All expressions that a strategy finds in a text, each in the text after the one before it. -/
def cuts (strategy : Strategy) (s : List Char) : List Cut :=
  match _h : cut? strategy s with
  | none => []
  | some m => m :: cuts strategy m.after
termination_by s.length
decreasing_by exact length_after_lt _h

end Expression

/-- An expression found in a text: where it stands, and its content. -/
structure Expression where
  span : Span
  content : String
deriving DecidableEq

namespace Expression

/-! ## Spans -/

def written (e : Expression) : String :=
  String.ofList ('#' :: '{' :: e.content.toList ++ ['}'])

/-- A cut of the text from a byte offset on, in the bytes of the whole text. -/
def ofCut (offset : Nat) (c : Cut) : Expression :=
  let first := offset + Text.Utf8.size c.before
  ⟨⟨first, first + Text.Utf8.size c.inside + 3⟩, String.ofList c.inside⟩

def find? (strategy : Strategy) (text : String) (offset : Nat) : Option Expression := do
  let rest ← Text.Utf8.drop? offset text.toList
  (cut? strategy rest).map (ofCut offset)

/-- The expressions of the cuts of a text, which starts at a byte offset. -/
def ofCuts (offset : Nat) : List Cut → List Expression
  | [] => []
  | c :: cuts =>
    let e := ofCut offset c
    e :: ofCuts e.span.last cuts

/-- All expressions that a strategy finds in a text, in order. -/
def all (strategy : Strategy) (text : String) : List Expression :=
  ofCuts 0 (cuts strategy text.toList)

end StepArguments.Expression
