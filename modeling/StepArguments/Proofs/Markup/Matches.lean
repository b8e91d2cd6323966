import StepArguments.Proofs.Evaluator.Recording

/-! # The leftmost expression

A search for an expression tries one opener after the other and takes the first one whose region has
a brace, whichever strategy there is.  Only what is taken of the region depends on the strategy.
`find?_matches` says so for every offset between two characters, compares the strategies, and
follows the contents to the processors: none of them is ever asked for a text with an opener in it.
-/

namespace StepArguments.Expression

open Text.Utf8 (size)

variable {strategy : Strategy} {s before rest : List Char} {e e' r g : Expression} {text : String}
  {offset first : Nat}

/-! ## Places in a text -/

/-- At a byte offset of a text stands an opener whose region has a brace. -/
def ClosesAt (s : List Char) (first : Nat) : Prop :=
  ∃ rest region, OpenerAt '#' s first rest ∧ IsRegion rest region ∧ '}' ∈ region

/-- An expression of a text: an opener and what a strategy takes of its region, with the brace. -/
structure Stands (strategy : Strategy) (s : List Char) (e : Expression) : Prop where
  opener : ∃ rest region, OpenerAt '#' s e.span.first rest ∧ IsRegion rest region ∧
    IsContent region strategy e.content.toList
  last : e.span.last = e.span.first + size e.content.toList + 3

theorem closesAt_iff (strategy : Strategy) : ClosesAt s first ↔
    ∃ rest content, OpenerAt '#' s first rest ∧ Closed strategy rest content := by
  constructor
  · rintro ⟨rest, region, opener, isRegion, hBrace⟩
    obtain ⟨content, closed⟩ := (exists_closed_iff isRegion).2 hBrace
    exact ⟨rest, content, opener, closed⟩
  · rintro ⟨rest, content, opener, region, isRegion, isContent⟩
    exact ⟨rest, region, opener, isRegion, isContent.closed.mem (by simp)⟩

theorem Stands.closesAt (stands : Stands strategy s e) : ClosesAt s e.span.first := by
  obtain ⟨rest, region, opener, isRegion, isContent⟩ := stands.opener
  exact (closesAt_iff strategy).2 ⟨rest, _, opener, region, isRegion, isContent⟩

theorem Stands.eq_of_content {strategy' : Strategy} (stands : Stands strategy s e)
    (stands' : Stands strategy' s e') (hFirst : e.span.first = e'.span.first)
    (hContent : e.content.toList = e'.content.toList) : e = e' := by
  have hLast := stands.last
  have hLast' := stands'.last
  rw [← hContent, ← hFirst, ← hLast] at hLast'
  obtain ⟨⟨first, last⟩, content⟩ := e
  obtain ⟨⟨first', last'⟩, content'⟩ := e'
  obtain rfl : content = content' := String.toList_inj.1 hContent
  obtain rfl : first = first' := hFirst
  obtain rfl : last' = last := hLast'
  rfl

/-- At most one expression of a strategy starts at a byte offset. -/
theorem Stands.unique (stands : Stands strategy s e) (stands' : Stands strategy s e')
    (hFirst : e.span.first = e'.span.first) : e = e' := by
  obtain ⟨rest, region, opener, isRegion, isContent⟩ := stands.opener
  obtain ⟨rest', region', opener', isRegion', isContent'⟩ := stands'.opener
  rw [← hFirst] at opener'
  obtain rfl := opener.unique opener'
  obtain rfl : region = region' := isRegion.eq.trans isRegion'.eq.symm
  exact stands.eq_of_content stands' hFirst (isContent.unique isContent')

/-! ## Searching from an offset on -/

theorem find?_size (hText : text.toList = before ++ rest) :
    find? strategy text (size before) = (cut? strategy rest).map (ofCut (size before)) := by
  rw [find?, hText, Text.Utf8.drop?_size_append]
  rfl

/-- The expression is the first one of a text at a byte offset or behind it. -/
structure IsFirst (strategy : Strategy) (s : List Char) (offset : Nat) (e : Expression) : Prop where
  stands : Stands strategy s e
  behind : offset ≤ e.span.first
  least : ∀ first, offset ≤ first → ClosesAt s first → e.span.first ≤ first

theorem IsFirst.unique (isFirst : IsFirst strategy s offset e)
    (isFirst' : IsFirst strategy s offset e') : e = e' := by
  have hLe := isFirst.least _ isFirst'.behind isFirst'.stands.closesAt
  have hGe := isFirst'.least _ isFirst.behind isFirst.stands.closesAt
  exact isFirst.stands.unique isFirst'.stands (by omega)

theorem isFirst_of_find? (boundary : Text.Utf8.IsBoundary offset text.toList)
    (hFind : find? strategy text offset = some e) : IsFirst strategy text.toList offset e := by
  obtain ⟨before, rest, hText, rfl⟩ := boundary
  have finds := finds_cut? strategy rest
  rw [find?_size hText] at hFind
  obtain ⟨c, hCut, rfl⟩ := Option.map_eq_some_iff.1 hFind
  rw [hCut] at finds
  rw [hText]
  obtain ⟨opener, region, isRegion, isContent⟩ := finds.opener before
  refine ⟨⟨⟨_, region, opener, isRegion, ?_⟩, ?_⟩, Nat.le_add_right _ _,
    fun first hFirst closes => ?_⟩
  · rwa [ofCut, String.toList_ofList]
  · simp only [ofCut, String.toList_ofList]
  · obtain ⟨_, _, opener', closed⟩ := (closesAt_iff strategy).1 closes
    exact finds.first_le opener' hFirst closed

theorem find?_eq_none_iff (boundary : Text.Utf8.IsBoundary offset text.toList) :
    find? strategy text offset = none ↔ ∀ first, offset ≤ first → ¬ ClosesAt text.toList first := by
  constructor
  · obtain ⟨before, rest, hText, rfl⟩ := boundary
    intro hFind first hFirst closes
    have finds := finds_cut? strategy rest
    rw [find?_size hText, Option.map_eq_none_iff] at hFind
    rw [hFind] at finds
    obtain ⟨_, _, opener, closed⟩ := (closesAt_iff strategy).1 (hText ▸ closes)
    exact finds.not_closed opener hFirst closed
  · intro hNone
    rw [Option.eq_none_iff_forall_ne_some]
    intro e hFind
    have found := isFirst_of_find? boundary hFind
    exact hNone _ found.behind found.stands.closesAt

theorem find?_eq_some_iff (boundary : Text.Utf8.IsBoundary offset text.toList) (e : Expression) :
    find? strategy text offset = some e ↔ IsFirst strategy text.toList offset e :=
  eq_some_iff_of_unique (fun _ => isFirst_of_find? boundary)
    (fun hNone _ wanted =>
      (find?_eq_none_iff boundary).1 hNone _ wanted.behind wanted.stands.closesAt)
    (fun _ _ => IsFirst.unique) e

/-- What an expression that was found can be used for: it and its content can be taken out of the
text, and the content is that of an innermost expression. -/
structure Usable (s : List Char) (e : Expression) : Prop where
  inBounds : e.span.InBounds s
  content_inBounds : Span.InBounds ⟨e.span.first + 2, e.span.last - 1⟩ s
  content_holds : Span.Holds ⟨e.span.first + 2, e.span.last - 1⟩ s e.content.toList
  unopened : Unopened e.content.toList

theorem size_writtenAs (content : List Char) : size (writtenAs content) = size content + 3 := by
  have hHash : '#'.utf8Size = 1 := rfl
  have hOpen : '{'.utf8Size = 1 := rfl
  have hClose : size ['}'] = 1 := rfl
  rw [writtenAs, Text.Utf8.size_append, Text.Utf8.size_cons, Text.Utf8.size_cons, hHash, hOpen,
    hClose]
  omega

theorem Stands.usable (stands : Stands strategy s e) : Usable s e := by
  have hLast := stands.last
  obtain ⟨rest, region, ⟨before, hText, hFirst⟩, isRegion, isContent⟩ := stands.opener
  obtain ⟨after, hRest⟩ : e.content.toList ++ ['}'] <+: rest := by
    obtain ⟨behind, rfl, -⟩ := isRegion.ends
    exact isContent.closed.trans (List.prefix_append region behind)
  have hOpener : size (before ++ ['#', '{']) = e.span.first + 2 := by
    rw [Text.Utf8.size_append, hFirst]
    rfl
  have holds : e.span.Holds s (writtenAs e.content.toList) :=
    ⟨before, after, by simp [hText, ← hRest, writtenAs], hFirst.symm,
      by rw [hLast, size_writtenAs, hFirst, Nat.add_assoc]⟩
  have contentHolds : Span.Holds ⟨e.span.first + 2, e.span.last - 1⟩ s e.content.toList :=
    ⟨before ++ ['#', '{'], '}' :: after, by simp [hText, ← hRest], hOpener.symm,
      by rw [hOpener]; simp only [hLast]; omega⟩
  exact ⟨holds.inBounds, contentHolds.inBounds, contentHolds, isContent.unopened isRegion⟩

/-! ## Both strategies -/

/-- What the reluctant strategy finds against what the greedy one finds: both start at the same
opener, the reluctant one ends no later, and only where the region has two calls do they differ. -/
structure Compares (s : List Char) (r g : Expression) : Prop where
  first : r.span.first = g.span.first
  last_le : r.span.last ≤ g.span.last
  same : ∀ rest region, OpenerAt '#' s r.span.first rest → IsRegion rest region →
    (∀ call call', EndsCall region call → EndsCall region call' → call = call') → r = g

theorem IsFirst.compares (reluctant : IsFirst .reluctant s offset r)
    (greedy : IsFirst .greedy s offset g) : Compares s r g := by
  have hLe := reluctant.least _ greedy.behind greedy.stands.closesAt
  have hGe := greedy.least _ reluctant.behind reluctant.stands.closesAt
  have hFirst : r.span.first = g.span.first := by omega
  -- both contents are taken of one region, as both start at one opener
  have hLast := reluctant.stands.last
  have hLast' := greedy.stands.last
  obtain ⟨rest, region, opener, isRegion, isContent⟩ := reluctant.stands.opener
  obtain ⟨rest', region', opener', isRegion', isContent'⟩ := greedy.stands.opener
  rw [← hFirst] at opener'
  obtain rfl := opener.unique opener'
  obtain rfl : region = region' := isRegion.eq.trans isRegion'.eq.symm
  refine ⟨hFirst, ?_, fun rest'' region'' opener'' isRegion'' oneCall => ?_⟩
  · obtain ⟨more, hMore⟩ := isContent.prefix_of_greedy isContent'
    rw [hLast, hLast', hFirst, ← hMore, Text.Utf8.size_append]
    omega
  · obtain rfl := opener.unique opener''
    obtain rfl : region = region'' := isRegion.eq.trans isRegion''.eq.symm
    exact reluctant.stands.eq_of_content greedy.stands hFirst
      (isContent.eq_of_one_call isContent' oneCall)

theorem isSome_find?_iff (boundary : Text.Utf8.IsBoundary offset text.toList) :
    (find? strategy text offset).isSome = true ↔
      ∃ first, offset ≤ first ∧ ClosesAt text.toList first := by
  rw [Option.isSome_iff_ne_none, ne_eq, find?_eq_none_iff boundary]
  simp

/-! ## What processors are asked -/

/-- No processor is asked for a text with an opener in it, however long an evaluation goes on. -/
theorem unopened_of_evaluate {ev : Evaluator} {passes : Nat} {h h' : History}
    {result : Except EvaluationFailure Value}
    (hEvaluate : ev.evaluate passes text h = some (result, h')) :
    ∃ events, h' = events ++ h ∧ ∀ place content, .processor place content ∈ events →
      Unopened content.toList := by
  refine Evaluator.evaluate_keeps
    (P := fun later => ∃ events, later = events ++ h ∧ ∀ place content,
      .processor place content ∈ events → Unopened content.toList) ?_ ?_ hEvaluate
    ⟨[], rfl, by simp⟩
  · rintro place content later unopened ⟨events, rfl, hEvents⟩
    refine ⟨.processor place content :: events, rfl, fun place' content' hMem => ?_⟩
    obtain hHere | hBefore := List.mem_cons.1 hMem
    · obtain ⟨-, rfl⟩ := Event.processor.inj hHere
      exact unopened
    · exact hEvents place' content' hBefore
  · rintro report later ⟨events, rfl, hEvents⟩
    refine ⟨.report report :: events, rfl, fun place content hMem => ?_⟩
    obtain hHere | hBefore := List.mem_cons.1 hMem
    · cases hHere
    · exact hEvents place content hBefore

/-- From a place between two characters both strategies find the leftmost expression, or none if
there is none.  They find it at the same opener, and no content of an expression has an opener. -/
theorem find?_matches (boundary : Text.Utf8.IsBoundary offset text.toList) :
    (∀ strategy e, find? strategy text offset = some e ↔
      IsFirst strategy text.toList offset e) ∧
    (∀ strategy, find? strategy text offset = none ↔
      ∀ first, offset ≤ first → ¬ ClosesAt text.toList first) ∧
    (∀ strategy e, find? strategy text offset = some e → Usable text.toList e) ∧
    ((find? .reluctant text offset).isSome = (find? .greedy text offset).isSome) ∧
    (∀ r g, find? .reluctant text offset = some r → find? .greedy text offset = some g →
      Compares text.toList r g) ∧
    ∀ (ev : Evaluator) passes input h result h', ev.evaluate passes input h = some (result, h') →
      ∃ events, h' = events ++ h ∧ ∀ place content, .processor place content ∈ events →
        Unopened content.toList := by
  refine ⟨fun strategy => find?_eq_some_iff boundary, fun strategy => find?_eq_none_iff boundary,
    fun strategy e hFind => (isFirst_of_find? boundary hFind).stands.usable, ?_,
    fun r g hReluctant hGreedy =>
      (isFirst_of_find? boundary hReluctant).compares (isFirst_of_find? boundary hGreedy),
    fun ev passes input h result h' hEvaluate => unopened_of_evaluate hEvaluate⟩
  rw [Bool.eq_iff_iff, isSome_find?_iff boundary, isSome_find?_iff boundary]

/-- Two calls in one region, behind a letter of two bytes. -/
theorem find?_matches_calls :
    Text.Utf8.IsBoundary 2 "é#\x7ba(x)\x7d b(y)\x7d".toList ∧
      IsFirst .reluctant "é#\x7ba(x)\x7d b(y)\x7d".toList 2 ⟨⟨2, 9⟩, "a(x)"⟩ ∧
      IsFirst .greedy "é#\x7ba(x)\x7d b(y)\x7d".toList 2 ⟨⟨2, 15⟩, "a(x)\x7d b(y)"⟩ := by
  have hText : "é#\x7ba(x)\x7d b(y)\x7d".toList = ['é'] ++ "#\x7ba(x)\x7d b(y)\x7d".toList := by
    decide
  have boundary : Text.Utf8.IsBoundary 2 "é#\x7ba(x)\x7d b(y)\x7d".toList :=
    ⟨_, _, hText, by decide⟩
  have hReluctant : find? .reluctant "é#\x7ba(x)\x7d b(y)\x7d" 2 = some ⟨⟨2, 9⟩, "a(x)"⟩ :=
    (find?_size hText).trans (by decide)
  have hGreedy : find? .greedy "é#\x7ba(x)\x7d b(y)\x7d" 2 =
      some ⟨⟨2, 15⟩, "a(x)\x7d b(y)"⟩ :=
    (find?_size hText).trans (by decide)
  have hMatches := (find?_matches boundary).1
  exact ⟨boundary, (hMatches .reluctant _).1 hReluctant, (hMatches .greedy _).1 hGreedy⟩

end StepArguments.Expression
