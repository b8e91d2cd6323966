import StepArguments.Proofs.Markup.Substitution

/-! # At an opener

What a substitution does at one opener depends on the text up to the next one.  If no brace closes
there, the opener is passed over.  If a call ends there, the reluctant strategy takes just the call.
The greedy one may take more with it, up to a later brace after a parenthesis; this is no more than
text when nothing recognizes the call.
-/

namespace StepArguments.Expression

variable {strategy : Strategy} {replacement : List Char → List Char} {s t w r tail : List Char}

/-- A text that has no part in an opener or a closing brace. -/
structure Plain (s : List Char) : Prop where
  hash : '#' ∉ s
  opening : '{' ∉ s
  closing : '}' ∉ s

instance (s : List Char) : Decidable (Plain s) :=
  decidable_of_iff ('#' ∉ s ∧ '{' ∉ s ∧ '}' ∉ s)
    ⟨fun ⟨h₁, h₂, h₃⟩ => ⟨h₁, h₂, h₃⟩, fun h => ⟨h.hash, h.opening, h.closing⟩⟩

theorem plain_nil : Plain [] :=
  ⟨by simp, by simp, by simp⟩

theorem plain_append_iff : Plain (s ++ t) ↔ Plain s ∧ Plain t := by
  constructor
  · intro h
    have hHash := h.hash
    have hOpening := h.opening
    have hClosing := h.closing
    simp only [List.mem_append, not_or] at hHash hOpening hClosing
    exact ⟨⟨hHash.1, hOpening.1, hClosing.1⟩, ⟨hHash.2, hOpening.2, hClosing.2⟩⟩
  · rintro ⟨hs, ht⟩
    exact ⟨by simp [hs.hash, ht.hash], by simp [hs.opening, ht.opening],
      by simp [hs.closing, ht.closing]⟩

/-! ## Regions -/

theorem region_cons {c : Char} (hs : s.head? ≠ some '{') :
    region (c :: s) = (c :: (region s).1, (region s).2) := by
  cases s with
  | nil => simp [region]
  | cons d s =>
    have hd : d ≠ '{' := by simpa using hs
    rw [region] <;> simp [hd]

theorem head?_append_ne {c : Char} (hs : c ∉ s) (ht : t.head? ≠ some c) :
    (s ++ t).head? ≠ some c := by
  cases s with
  | nil => exact ht
  | cons d s =>
    rw [List.mem_cons, not_or] at hs
    simpa using Ne.symm hs.1

theorem region_append_of_not_mem (hs : '{' ∉ s) (ht : t.head? ≠ some '{') :
    region (s ++ t) = (s ++ (region t).1, (region t).2) := by
  induction s with
  | nil => rfl
  | cons c s ih =>
    rw [List.mem_cons, not_or] at hs
    rw [List.cons_append, region_cons (head?_append_ne hs.2 ht), ih hs.2]
    rfl

/-- A text that completes no opener of what stands before it, and that has no hash sign before its
    first opener. -/
structure Clear (tail : List Char) : Prop where
  head : tail.head? ≠ some '{'
  region : '#' ∉ (region tail).1

theorem clear_nil : Clear [] :=
  ⟨by simp, by simp [Expression.region]⟩

theorem Clear.append (hHash : '#' ∉ s) (hOpening : '{' ∉ s) (hTail : Clear tail) :
    Clear (s ++ tail) where
  head := head?_append_ne hOpening hTail.head
  region := by
    rw [region_append_of_not_mem hOpening hTail.head]
    simp [hHash, hTail.region]

/-! ## Closing braces -/

theorem close?_eq_none (hs : '}' ∉ s) : close? strategy s = none := by
  cases hClose : close? strategy s with
  | none => rfl
  | some parts =>
    have hParts := eq_of_close? hClose
    exact absurd (by rw [hParts]; simp) hs

theorem exists_cut?_of_mem {c : Char} (hs : c ∈ s) : ∃ parts, Text.cut? [c] s = some parts := by
  induction s with
  | nil => simp at hs
  | cons d s ih =>
    by_cases hd : c = d
    · exact ⟨([], s), by simp [Text.cut?, Text.after?, hd]⟩
    · obtain ⟨parts, hParts⟩ := ih (by simpa [hd] using hs)
      exact ⟨(d :: parts.1, parts.2), by simp [Text.cut?, Text.after?, hd, hParts]⟩

theorem exists_close?_of_mem (strategy : Strategy) (hs : '}' ∈ s) :
    ∃ parts, close? strategy s = some parts := by
  obtain ⟨parts, hParts⟩ := exists_cut?_of_mem hs
  simp only [close?, hParts]
  exact ⟨_, Option.or_some⟩

theorem firstCall?_cons {c : Char} (hs : s.head? ≠ some '}') :
    firstCall? (c :: s) = (firstCall? s).map fun parts => (c :: parts.1, parts.2) := by
  cases s with
  | nil => simp [firstCall?]
  | cons d s =>
    have hd : d ≠ '}' := by simpa using hs
    rw [firstCall?]
    simp [hd]

theorem firstCall?_append (hw : '}' ∉ w) :
    firstCall? (w ++ ')' :: '}' :: r) = some (w ++ [')'], r) := by
  induction w with
  | nil => rfl
  | cons c w ih =>
    rw [List.mem_cons, not_or] at hw
    rw [List.cons_append, firstCall?_cons (head?_append_ne hw.2 (by simp)), ih hw.2]
    rfl

theorem close?_reluctant (hw : '}' ∉ w) :
    close? .reluctant (w ++ ')' :: '}' :: r) = some (w ++ [')'], r) := by
  simp [close?, firstCall?_append hw]

theorem exists_close?_call (strategy : Strategy) (hw : '}' ∉ w) :
    ∃ more after, close? strategy (w ++ ')' :: '}' :: r) = some (w ++ ')' :: more, after) ∧
      '}' :: r = more ++ '}' :: after := by
  obtain ⟨⟨content, after⟩, hClose⟩ :=
    exists_close?_of_mem strategy (s := w ++ ')' :: '}' :: r) (by simp)
  have hParts : (w ++ [')']) ++ '}' :: r = content ++ '}' :: after := by
    simpa using eq_of_close? hClose
  rcases List.append_eq_append_iff.1 hParts with ⟨more, hContent, hMore⟩ | ⟨cut, hCall, hCut⟩
  · exact ⟨more, after, by simpa [hContent] using hClose, hMore⟩
  · cases cut with
    | nil => exact ⟨[], after, by simpa [hCall] using hClose, hCut.symm⟩
    | cons c cut =>
      obtain ⟨rfl, -⟩ := List.cons.inj hCut
      have hMem : '}' ∈ w ++ [')'] := by rw [hCall]; simp
      simp [hw] at hMem

/-! ## Substitutions -/

theorem substitute_cons {c : Char} (hc : c ≠ '#') :
    substitute strategy replacement (c :: s) = c :: substitute strategy replacement s := by
  have hNext : cut? strategy (c :: s) = (cut? strategy s).map (Cut.behind [c]) := by
    rw [cut?]
    simp [hc]
  cases hCut : cut? strategy s with
  | none =>
    rw [hCut] at hNext
    rw [substitute_of_cut?_eq_none hNext, substitute_of_cut?_eq_none hCut]
  | some m =>
    rw [hCut] at hNext
    rw [substitute_of_cut?_eq_some hNext, substitute_of_cut?_eq_some hCut]
    rfl

theorem substitute_append (hs : '#' ∉ s) :
    substitute strategy replacement (s ++ t) = s ++ substitute strategy replacement t := by
  induction s with
  | nil => rfl
  | cons c s ih =>
    rw [List.mem_cons, not_or] at hs
    rw [List.cons_append, substitute_cons (Ne.symm hs.1), ih hs.2]
    rfl

theorem substitute_opener_of_close?_eq_none (hClose : close? strategy (region s).1 = none) :
    substitute strategy replacement ('#' :: '{' :: s) =
      '#' :: '{' :: substitute strategy replacement s := by
  have hNext : cut? strategy ('#' :: '{' :: s) =
      (cut? strategy s).map (Cut.behind ['#', '{']) := by
    rw [cut?, hClose]
  cases hCut : cut? strategy s with
  | none =>
    rw [hCut] at hNext
    rw [substitute_of_cut?_eq_none hNext, substitute_of_cut?_eq_none hCut]
  | some m =>
    rw [hCut] at hNext
    rw [substitute_of_cut?_eq_some hNext, substitute_of_cut?_eq_some hCut]
    rfl

theorem substitute_opener_of_close?_eq_some {content after : List Char}
    (hClose : close? strategy (region s).1 = some (content, after)) :
    substitute strategy replacement ('#' :: '{' :: s) =
      replacement content ++ substitute strategy replacement (after ++ (region s).2) := by
  have hCut : cut? strategy ('#' :: '{' :: s) =
      some ⟨[], content, after ++ (region s).2⟩ := by
    rw [cut?, hClose]
  rw [substitute_of_cut?_eq_some hCut]
  rfl

theorem region_call (hw : '{' ∉ w) (hTail : Clear tail) :
    region (w ++ ')' :: '}' :: tail) = (w ++ ')' :: '}' :: (region tail).1, (region tail).2) := by
  have hCall := region_append_of_not_mem (s := w ++ [')', '}']) (by simp [hw]) hTail.head
  simpa using hCall

theorem substitute_call (hOpen : '{' ∉ w) (hClose : '}' ∉ w) (hTail : Clear tail) :
    substitute .reluctant replacement ('#' :: '{' :: (w ++ ')' :: '}' :: tail)) =
      replacement (w ++ [')']) ++ substitute .reluctant replacement tail := by
  have hRegion := region_call hOpen hTail
  rw [substitute_opener_of_close?_eq_some (by rw [hRegion]; exact close?_reluctant hClose), hRegion,
    region_append]

/-- A call that nothing recognizes, whatever is taken with it, stays with either strategy. -/
theorem substitute_call_of_written (hOpen : '{' ∉ w) (hClose : '}' ∉ w) (hTail : Clear tail)
    (hWritten : ∀ more, replacement (w ++ ')' :: more) = writtenAs (w ++ ')' :: more)) :
    substitute strategy replacement ('#' :: '{' :: (w ++ ')' :: '}' :: tail)) =
      '#' :: '{' :: (w ++ ')' :: '}' :: substitute strategy replacement tail) := by
  have hRegion := region_call hOpen hTail
  obtain ⟨more, after, hTaken, hMore⟩ := exists_close?_call (r := (region tail).1) strategy hClose
  have hHash : '#' ∉ more ++ ['}'] := by
    have hAll : '#' ∉ more ++ '}' :: after := by
      rw [← hMore]
      simp [hTail.region]
    simp only [List.mem_append, List.mem_cons, not_or] at hAll ⊢
    exact ⟨hAll.1, by simp⟩
  -- the text that was taken with the call comes out of the rest as it is
  have hRest : '}' :: substitute strategy replacement tail =
      more ++ '}' :: substitute strategy replacement (after ++ (region tail).2) := by
    calc '}' :: substitute strategy replacement tail
        = substitute strategy replacement ('}' :: (region tail).1 ++ (region tail).2) := by
          rw [List.cons_append, region_append, substitute_cons (by simp)]
      _ = substitute strategy replacement ((more ++ ['}']) ++ (after ++ (region tail).2)) := by
          rw [hMore]
          simp
      _ = more ++ '}' :: substitute strategy replacement (after ++ (region tail).2) := by
          rw [substitute_append hHash]
          simp
  rw [substitute_opener_of_close?_eq_some (by rw [hRegion]; exact hTaken), hRegion, hWritten, hRest]
  simp [writtenAs]

end StepArguments.Expression
