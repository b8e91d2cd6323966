import StepArguments.Proofs.Markup.Marked
import StepArguments.Proofs.Markup.Openers

/-! # Regions and contents

The text behind an opener counts up to the next opener only: that is its region (`IsRegion`).  Which
brace of the region ends the expression depends on the braces that directly follow a parenthesis
(`EndsCall`).  `IsContent` says for each strategy which one it is, and `close?_eq_some_iff` that the
scanner takes just that one.
-/

namespace StepArguments.Expression

variable {strategy : Strategy} {c : Char} {s region content content' other after : List Char}

/-! ## Regions -/

/-- A text with neither an opener of an expression nor one of a placeholder. -/
structure Unopened (s : List Char) : Prop where
  expression : ¬ ['#', '{'] <:+: s
  placeholder : ¬ ['$', '{'] <:+: s

theorem Unopened.of_infix (free : Unopened s) (hInfix : other <:+: s) : Unopened other where
  expression h := free.expression (h.trans hInfix)
  placeholder h := free.placeholder (h.trans hInfix)

theorem Unopened.cons (free : Unopened s) (hHash : c = '#' → s.head? ≠ some '{')
    (hDollar : c = '$' → s.head? ≠ some '{') : Unopened (c :: s) where
  expression h := by
    obtain hHere | hLater := List.infix_cons_iff.1 h
    · obtain ⟨more, hMore⟩ := hHere
      obtain ⟨rfl, rfl⟩ := List.cons.inj hMore
      exact hHash rfl rfl
    · exact free.expression hLater
  placeholder h := by
    obtain hHere | hLater := List.infix_cons_iff.1 h
    · obtain ⟨more, hMore⟩ := hHere
      obtain ⟨rfl, rfl⟩ := List.cons.inj hMore
      exact hDollar rfl rfl
    · exact free.placeholder hLater

/-- A text up to the next opener, or up to its end. -/
structure IsRegion (s region : List Char) : Prop where
  ends : ∃ rest, s = region ++ rest ∧ (rest = [] ∨ ['#', '{'] <+: rest ∨ ['$', '{'] <+: rest)
  unopened : Unopened region

theorem isRegion_region (s : List Char) : IsRegion s (Expression.region s).1 := by
  fun_induction Expression.region s with
  | case1 => exact ⟨⟨[], rfl, .inl rfl⟩, ⟨by simp, by simp⟩⟩
  | case2 s => exact ⟨⟨_, rfl, .inr (.inl ⟨s, rfl⟩)⟩, ⟨by simp, by simp⟩⟩
  | case3 s => exact ⟨⟨_, rfl, .inr (.inr ⟨s, rfl⟩)⟩, ⟨by simp, by simp⟩⟩
  | case4 c s hHash hDollar ih =>
    obtain ⟨⟨rest, hText, hRest⟩, free⟩ := ih
    have hNext : (Expression.region s).1.head? = some '{' → ∃ more, s = '{' :: more := by
      intro hHead
      obtain ⟨more, hMore⟩ := List.head?_eq_some_iff.1 hHead
      exact ⟨more ++ rest, by rw [hText, hMore]; rfl⟩
    refine ⟨⟨rest, by rw [List.cons_append, ← hText], hRest⟩, free.cons ?_ ?_⟩
    · intro hc hHead
      obtain ⟨more, hMore⟩ := hNext hHead
      exact hHash more hc hMore
    · intro hc hHead
      obtain ⟨more, hMore⟩ := hNext hHead
      exact hDollar more hc hMore

/-- Behind an opener the region is over at once when another one follows. -/
theorem IsRegion.eq_nil (isRegion : IsRegion (c :: '{' :: s) region) (hSign : c = '#' ∨ c = '$') :
    region = [] := by
  obtain ⟨⟨rest, hText, hRest⟩, free⟩ := isRegion
  cases region with
  | nil => rfl
  | cons d region =>
    obtain ⟨rfl, hTail⟩ := List.cons.inj hText
    cases region with
    | nil =>
      -- the brace would be where the next opener starts
      obtain rfl : '{' :: s = rest := hTail
      simp at hRest
    | cons e region =>
      obtain ⟨rfl, -⟩ := List.cons.inj hTail
      cases hSign with
      | inl hHash =>
        subst hHash
        exact absurd ⟨[], region, rfl⟩ free.expression
      | inr hDollar =>
        subst hDollar
        exact absurd ⟨[], region, rfl⟩ free.placeholder

theorem IsRegion.eq (isRegion : IsRegion s region) : region = (Expression.region s).1 := by
  fun_induction Expression.region s generalizing region with
  | case1 =>
    obtain ⟨⟨rest, hText, -⟩, -⟩ := isRegion
    exact (List.append_eq_nil_iff.1 hText.symm).1
  | case2 s => exact isRegion.eq_nil (.inl rfl)
  | case3 s => exact isRegion.eq_nil (.inr rfl)
  | case4 c s hHash hDollar ih =>
    obtain ⟨⟨rest, hText, hRest⟩, free⟩ := isRegion
    cases region with
    | nil =>
      -- no opener starts with this character, so the region does not end in front of it
      obtain rfl : c :: s = rest := hText
      obtain hNil | ⟨more, hMore⟩ | ⟨more, hMore⟩ := hRest
      · cases hNil
      · obtain ⟨rfl, rfl⟩ := List.cons.inj hMore
        exact absurd rfl (hHash more rfl)
      · obtain ⟨rfl, rfl⟩ := List.cons.inj hMore
        exact absurd rfl (hDollar more rfl)
    | cons d region =>
      obtain ⟨rfl, hTail⟩ := List.cons.inj hText
      rw [← ih ⟨⟨rest, hTail, hRest⟩, free.of_infix (List.suffix_cons c region).isInfix⟩]

/-! ## Contents -/

/-- The content ends with a parenthesis, and a brace follows it in the region. -/
def EndsCall (region content : List Char) : Prop :=
  ∃ call after, region = call ++ ')' :: '}' :: after ∧ content = call ++ [')']

/-- The content of an expression in its region: up to the first brace behind a parenthesis or up to
the last one, as the strategy has it, and up to the first brace of all if none is behind a
parenthesis. -/
inductive IsContent (region : List Char) : Strategy → List Char → Prop where
  | first {content : List Char} (call : EndsCall region content)
      (least : ∀ other, EndsCall region other → content.length ≤ other.length) :
      IsContent region .reluctant content
  | last {content : List Char} (call : EndsCall region content)
      (greatest : ∀ other, EndsCall region other → other.length ≤ content.length) :
      IsContent region .greedy content
  | brace {strategy : Strategy} {content : List Char}
      (noCall : ∀ other, ¬ EndsCall region other) (closed : content ++ ['}'] <+: region)
      (first : '}' ∉ content) : IsContent region strategy content

theorem EndsCall.closed (call : EndsCall region content) : content ++ ['}'] <+: region := by
  obtain ⟨w, after, rfl, rfl⟩ := call
  exact ⟨after, by simp⟩

theorem IsContent.closed (isContent : IsContent region strategy content) :
    content ++ ['}'] <+: region := by
  cases isContent with
  | first call => exact call.closed
  | last call => exact call.closed
  | brace _ closed => exact closed

theorem endsCall_cons_iff : EndsCall (c :: s) content ↔
    c = ')' ∧ s.head? = some '}' ∧ content = [')'] ∨
      ∃ later, EndsCall s later ∧ content = c :: later := by
  constructor
  · rintro ⟨w, after, hText, rfl⟩
    cases w with
    | nil =>
      obtain ⟨rfl, rfl⟩ := List.cons.inj hText
      exact .inl ⟨rfl, rfl, rfl⟩
    | cons d w =>
      obtain ⟨rfl, rfl⟩ := List.cons.inj hText
      exact .inr ⟨w ++ [')'], ⟨w, after, rfl, rfl⟩, rfl⟩
  · rintro (⟨rfl, hNext, rfl⟩ | ⟨later, ⟨w, after, rfl, rfl⟩, rfl⟩)
    · obtain ⟨after, rfl⟩ := List.head?_eq_some_iff.1 hNext
      exact ⟨[], after, rfl, rfl⟩
    · exact ⟨c :: w, after, rfl, rfl⟩

theorem not_endsCall_nil : ¬ EndsCall [] content := by
  rintro ⟨w, after, hText, -⟩
  simp at hText

theorem endsCall_call : EndsCall (')' :: '}' :: s) [')'] :=
  ⟨[], s, rfl, rfl⟩

theorem EndsCall.cons (call : EndsCall s content) (c : Char) : EndsCall (c :: s) (c :: content) :=
  endsCall_cons_iff.2 (.inr ⟨content, call, rfl⟩)

theorem EndsCall.cases_cons (call : EndsCall (c :: s) content)
    (hCall : ∀ after, c = ')' → s ≠ '}' :: after) :
    ∃ later, EndsCall s later ∧ content = c :: later := by
  obtain ⟨rfl, hNext, -⟩ | hLater := endsCall_cons_iff.1 call
  · obtain ⟨after, rfl⟩ := List.head?_eq_some_iff.1 hNext
    exact absurd rfl (hCall after rfl)
  · exact hLater

theorem EndsCall.length_pos (call : EndsCall s content) : 0 < content.length := by
  obtain ⟨w, after, -, rfl⟩ := call
  simp

/-- A brace is no parenthesis, so calls that end one behind the other are two characters apart. -/
theorem EndsCall.cases_call (call : EndsCall (')' :: '}' :: s) content) :
    content = [')'] ∨ ∃ later, EndsCall s later ∧ content = ')' :: '}' :: later := by
  obtain ⟨-, -, rfl⟩ | ⟨later, hLater, rfl⟩ := endsCall_cons_iff.1 call
  · exact .inl rfl
  · obtain ⟨last, hLast, rfl⟩ := hLater.cases_cons (by simp)
    exact .inr ⟨last, hLast, rfl⟩

theorem firstCall?_spec (h : firstCall? s = some (content, after)) :
    EndsCall s content ∧ ∀ other, EndsCall s other → content.length ≤ other.length := by
  fun_induction firstCall? s generalizing content after with
  | case1 => cases h
  | case2 s =>
    obtain ⟨rfl, rfl⟩ := Prod.mk.inj (Option.some.inj h)
    exact ⟨endsCall_call, fun other hOther => hOther.length_pos⟩
  | case3 c s hCall ih =>
    obtain ⟨⟨later, rest⟩, hLater, hParts⟩ := Option.map_eq_some_iff.1 h
    obtain ⟨rfl, rfl⟩ := Prod.mk.inj hParts
    obtain ⟨call, least⟩ := ih hLater
    refine ⟨call.cons c, fun other hOther => ?_⟩
    obtain ⟨last, hLast, rfl⟩ := hOther.cases_cons hCall
    exact Nat.succ_le_succ (least last hLast)

theorem not_endsCall_of_firstCall? (h : firstCall? s = none) : ¬ EndsCall s content := by
  fun_induction firstCall? s generalizing content with
  | case1 => exact not_endsCall_nil
  | case2 => cases h
  | case3 c s hCall ih =>
    intro call
    obtain ⟨later, hLater, -⟩ := call.cases_cons hCall
    exact ih (Option.map_eq_none_iff.1 h) hLater

theorem not_endsCall_of_lastCall? (h : lastCall? s = none) : ¬ EndsCall s content := by
  fun_induction lastCall? s generalizing content with
  | case1 => exact not_endsCall_nil
  | case2 => cases h
  | case3 => cases h
  | case4 c s hCall ih =>
    intro call
    obtain ⟨later, hLater, -⟩ := call.cases_cons hCall
    exact ih (Option.map_eq_none_iff.1 h) hLater

theorem lastCall?_spec (h : lastCall? s = some (content, after)) :
    EndsCall s content ∧ ∀ other, EndsCall s other → other.length ≤ content.length := by
  fun_induction lastCall? s generalizing content after with
  | case1 => cases h
  | case2 s later rest hLater ih =>
    obtain ⟨rfl, rfl⟩ := Prod.mk.inj (Option.some.inj h)
    obtain ⟨call, greatest⟩ := ih hLater
    refine ⟨(call.cons '}').cons ')', fun other hOther => ?_⟩
    obtain rfl | ⟨last, hLast, rfl⟩ := hOther.cases_call
    · simp
    · exact Nat.succ_le_succ (Nat.succ_le_succ (greatest last hLast))
  | case3 s hNone ih =>
    -- no call behind this one, so it is the last one as well as the first one
    obtain ⟨rfl, rfl⟩ := Prod.mk.inj (Option.some.inj h)
    refine ⟨endsCall_call, fun other hOther => ?_⟩
    obtain rfl | ⟨last, hLast, -⟩ := hOther.cases_call
    · exact Nat.le_refl _
    · exact absurd hLast (not_endsCall_of_lastCall? hNone)
  | case4 c s hCall ih =>
    obtain ⟨⟨later, rest⟩, hLater, hParts⟩ := Option.map_eq_some_iff.1 h
    obtain ⟨rfl, rfl⟩ := Prod.mk.inj hParts
    obtain ⟨call, greatest⟩ := ih hLater
    refine ⟨call.cons c, fun other hOther => ?_⟩
    obtain ⟨last, hLast, rfl⟩ := hOther.cases_cons hCall
    exact Nat.succ_le_succ (greatest last hLast)

theorem isContent_of_brace (noCall : ∀ other, ¬ EndsCall region other)
    (hCut : Text.cut? ['}'] region = some (content, after)) :
    IsContent region strategy content := by
  have hBrace : '}' ∈ region := by
    rw [Text.eq_of_cut? hCut]
    simp
  obtain ⟨before, rest, rfl, hBefore⟩ := List.eq_append_cons_of_mem hBrace
  rw [Text.cut?_append hBefore] at hCut
  obtain ⟨rfl, rfl⟩ := Prod.mk.inj (Option.some.inj hCut)
  exact .brace noCall ⟨rest, by simp⟩ hBefore

/-! ## What the scanner takes -/

theorem isContent_of_close? (h : close? strategy region = some (content, after)) :
    IsContent region strategy content := by
  obtain hCall | ⟨hNone, hCut⟩ := Option.or_eq_some_iff.1 h
  · cases strategy with
    | reluctant =>
      obtain ⟨call, least⟩ := firstCall?_spec hCall
      exact .first call least
    | greedy =>
      obtain ⟨call, greatest⟩ := lastCall?_spec hCall
      exact .last call greatest
  · refine isContent_of_brace (fun other => ?_) hCut
    cases strategy with
    | reluctant => exact not_endsCall_of_firstCall? hNone
    | greedy => exact not_endsCall_of_lastCall? hNone

theorem eq_of_length_eq (closed : content ++ ['}'] <+: region)
    (closed' : content' ++ ['}'] <+: region) (hLength : content.length = content'.length) :
    content = content' := by
  have hPrefix := (List.prefix_append content ['}']).trans closed
  have hPrefix' := (List.prefix_append content' ['}']).trans closed'
  have hBoth := List.prefix_of_prefix_length_le hPrefix hPrefix' (Nat.le_of_eq hLength)
  exact hBoth.eq_of_length hLength

theorem eq_of_first_brace (closed : content ++ ['}'] <+: region) (hFirst : '}' ∉ content)
    (closed' : content' ++ ['}'] <+: region) (hFirst' : '}' ∉ content') : content = content' := by
  obtain ⟨after, hText⟩ := closed
  obtain ⟨after', hText'⟩ := closed'
  rw [List.append_assoc, List.singleton_append] at hText hText'
  have hCut : Text.cut? ['}'] region = some (content, after) :=
    hText ▸ Text.cut?_append hFirst
  have hCut' : Text.cut? ['}'] region = some (content', after') :=
    hText' ▸ Text.cut?_append hFirst'
  rw [hCut] at hCut'
  exact (Prod.mk.inj (Option.some.inj hCut')).1

/-- A strategy has one content in a region. -/
theorem IsContent.unique (isContent : IsContent region strategy content)
    (isContent' : IsContent region strategy content') : content = content' := by
  cases isContent with
  | first call least =>
    cases isContent' with
    | first call' least' =>
      exact eq_of_length_eq call.closed call'.closed
        (Nat.le_antisymm (least content' call') (least' content call))
    | brace noCall => exact absurd call (noCall content)
  | last call greatest =>
    cases isContent' with
    | last call' greatest' =>
      exact eq_of_length_eq call.closed call'.closed
        (Nat.le_antisymm (greatest' content call) (greatest content' call'))
    | brace noCall => exact absurd call (noCall content)
  | brace noCall closed hFirst =>
    cases isContent' with
    | first call' => exact absurd call' (noCall content')
    | last call' => exact absurd call' (noCall content')
    | brace _ closed' hFirst' =>
      exact eq_of_first_brace closed hFirst closed' hFirst'

theorem close?_eq_some_iff : close? strategy region = some (content, after) ↔
    region = content ++ '}' :: after ∧ IsContent region strategy content := by
  constructor
  · intro h
    exact ⟨eq_of_close? h, isContent_of_close? h⟩
  · rintro ⟨hText, isContent⟩
    have hBrace : '}' ∈ region := by
      rw [hText]
      simp
    obtain ⟨⟨content', after'⟩, hClose⟩ := exists_close?_of_mem strategy hBrace
    obtain rfl := isContent.unique (isContent_of_close? hClose)
    obtain rfl : after = after' := by simpa [hText] using eq_of_close? hClose
    exact hClose

theorem IsContent.unopened (isContent : IsContent region strategy content)
    (isRegion : IsRegion s region) : Unopened content :=
  isRegion.unopened.of_infix
    ((List.prefix_append content ['}']).trans isContent.closed).isInfix

/-- An opener with a text behind it is closed behind what a strategy takes of its region. -/
def Closed (strategy : Strategy) (rest content : List Char) : Prop :=
  ∃ region, IsRegion rest region ∧ IsContent region strategy content

theorem exists_closed_iff {region : List Char} (isRegion : IsRegion rest region) :
    (∃ content, Closed strategy rest content) ↔ '}' ∈ region := by
  constructor
  · rintro ⟨content, region', isRegion', isContent⟩
    obtain rfl : region = region' := isRegion.eq.trans isRegion'.eq.symm
    exact isContent.closed.mem (by simp)
  · intro hBrace
    obtain ⟨⟨content, after⟩, hClose⟩ := exists_close?_of_mem strategy hBrace
    exact ⟨content, region, isRegion, isContent_of_close? hClose⟩

theorem not_closed_of_close?_eq_none (hClose : close? strategy (Expression.region s).1 = none)
    (content : List Char) : ¬ Closed strategy s content := fun closed =>
  (close?_eq_none_iff strategy _).1 hClose
    ((exists_closed_iff (isRegion_region s)).1 ⟨content, closed⟩)

/-- The scanner finds the expression at the first opener that is closed. -/
theorem finds_cut? (strategy : Strategy) (s : List Char) :
    Finds '#' (Closed strategy) s (cut? strategy s) := by
  fun_induction cut? strategy s with
  | case1 => exact finds_nil
  | case2 s content after hClose =>
    have hText := region_append s
    rw [eq_of_close? hClose, List.append_assoc, List.cons_append] at hText
    exact .here hText.symm ⟨_, isRegion_region s, isContent_of_close? hClose⟩
  | case3 s hClose ih =>
    exact ih.behind_opener (by decide) (not_closed_of_close?_eq_none hClose)
  | case4 c s hOpener ih => exact ih.behind hOpener

/-- No text with an opener is taken for a content. -/
theorem unopened_of_cut? {m : Cut} (h : cut? strategy s = some m) : Unopened m.inside := by
  have finds := finds_cut? strategy s
  rw [h] at finds
  obtain ⟨-, region, isRegion, isContent⟩ := finds.opener []
  exact isContent.unopened isRegion

/-! ## Both strategies -/

/-- The greedy strategy takes what the reluctant one takes, and maybe more. -/
theorem IsContent.prefix_of_greedy (reluctant : IsContent region .reluctant content)
    (greedy : IsContent region .greedy content') : content <+: content' := by
  have hPrefix := (List.prefix_append content ['}']).trans reluctant.closed
  have hPrefix' := (List.prefix_append content' ['}']).trans greedy.closed
  cases reluctant with
  | first call least =>
    cases greedy with
    | last call' =>
      exact List.prefix_of_prefix_length_le hPrefix hPrefix' (least content' call')
    | brace noCall => exact absurd call (noCall content)
  | brace noCall closed hFirst =>
    cases greedy with
    | last call' => exact absurd call' (noCall content')
    | brace _ closed' hFirst' =>
      have hSame := eq_of_first_brace closed hFirst closed' hFirst'
      exact hSame ▸ List.prefix_refl content

/-- With one call at most in the region there is nothing to choose. -/
theorem IsContent.eq_of_one_call (reluctant : IsContent region .reluctant content)
    (greedy : IsContent region .greedy content')
    (oneCall : ∀ call call', EndsCall region call → EndsCall region call' → call = call') :
    content = content' := by
  cases reluctant with
  | first call =>
    cases greedy with
    | last call' => exact oneCall content content' call call'
    | brace noCall => exact absurd call (noCall content)
  | brace noCall closed hFirst =>
    cases greedy with
    | last call' => exact absurd call' (noCall content')
    | brace _ closed' hFirst' => exact eq_of_first_brace closed hFirst closed' hFirst'

end StepArguments.Expression
