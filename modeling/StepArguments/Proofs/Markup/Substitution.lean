import StepArguments.Markup.Expression

/-! # Replacing expressions

`Expression.substitute` is what one walk over a text does to it, whatever the expressions are
replaced by: the text between them stays, and every expression that the strategy finds gives way to
the replacement of its content.  Only the text as a whole is ever compared afterwards, and what one
expression loses another may gain.  So `replacement_eq_written` needs more than a substitution
without effect to conclude that every expression was replaced by itself: no replacement may be
longer than what it replaces, or none shorter.
-/

namespace StepArguments.Expression

/-- The text of an expression with a content. -/
def writtenAs (content : List Char) : List Char :=
  '#' :: '{' :: content ++ ['}']

/-- A text in which every expression that a strategy finds is replaced. -/
def substitute (strategy : Strategy) (replacement : List Char → List Char) (s : List Char) :
    List Char :=
  match _h : cut? strategy s with
  | none => s
  | some m => m.before ++ replacement m.inside ++ substitute strategy replacement m.after
termination_by s.length
decreasing_by exact length_after_lt _h

variable {strategy : Strategy} {s : List Char} {m : Cut} {replacement : List Char → List Char}

/-! ## Equations -/

theorem cuts_of_cut?_eq_none (h : cut? strategy s = none) : cuts strategy s = [] := by
  rw [cuts]
  split
  · rfl
  · rename_i m hm
    rw [h] at hm
    cases hm

theorem cuts_of_cut?_eq_some (h : cut? strategy s = some m) :
    cuts strategy s = m :: cuts strategy m.after := by
  rw [cuts]
  split
  · rename_i hNone
    rw [h] at hNone
    cases hNone
  · rename_i n hn
    obtain rfl : m = n := Option.some.inj (h.symm.trans hn)
    rfl

theorem substitute_of_cut?_eq_none (h : cut? strategy s = none) :
    substitute strategy replacement s = s := by
  rw [substitute]
  split
  · rfl
  · rename_i m hm
    rw [h] at hm
    cases hm

theorem substitute_of_cut?_eq_some (h : cut? strategy s = some m) :
    substitute strategy replacement s =
      m.before ++ replacement m.inside ++ substitute strategy replacement m.after := by
  rw [substitute]
  split
  · rename_i hNone
    rw [h] at hNone
    cases hNone
  · rename_i n hn
    obtain rfl : m = n := Option.some.inj (h.symm.trans hn)
    rfl

theorem substitute_nil : substitute strategy replacement [] = [] :=
  substitute_of_cut?_eq_none rfl

theorem eq_writtenAs_of_cut? (h : cut? strategy s = some m) :
    s = m.before ++ writtenAs m.inside ++ m.after := by
  simpa [writtenAs] using eq_of_cut? h

/-! ## Substitutions without effect -/

theorem length_eq_of_cut? (h : cut? strategy s = some m) :
    s.length = m.before.length + (writtenAs m.inside).length + m.after.length := by
  have hLength := congrArg List.length (eq_writtenAs_of_cut? h)
  simpa only [List.length_append] using hLength

theorem length_substitute_le
    (hShorter : ∀ m ∈ cuts strategy s,
      (replacement m.inside).length ≤ (writtenAs m.inside).length) :
    (substitute strategy replacement s).length ≤ s.length := by
  induction s using cuts.induct strategy with
  | case1 s hCut => simp [substitute_of_cut?_eq_none hCut]
  | case2 s m hCut ih =>
    rw [cuts_of_cut?_eq_some hCut, List.forall_mem_cons] at hShorter
    have hHere := hShorter.1
    have hAfter := ih hShorter.2
    rw [substitute_of_cut?_eq_some hCut, length_eq_of_cut? hCut]
    simp only [List.length_append]
    omega

theorem le_length_substitute
    (hLonger : ∀ m ∈ cuts strategy s,
      (writtenAs m.inside).length ≤ (replacement m.inside).length) :
    s.length ≤ (substitute strategy replacement s).length := by
  induction s using cuts.induct strategy with
  | case1 s hCut => simp [substitute_of_cut?_eq_none hCut]
  | case2 s m hCut ih =>
    rw [cuts_of_cut?_eq_some hCut, List.forall_mem_cons] at hLonger
    have hHere := hLonger.1
    have hAfter := ih hLonger.2
    rw [substitute_of_cut?_eq_some hCut, length_eq_of_cut? hCut]
    simp only [List.length_append]
    omega

theorem replacement_eq_written (h : substitute strategy replacement s = s)
    (hSizes : (∀ m ∈ cuts strategy s,
        (replacement m.inside).length ≤ (writtenAs m.inside).length) ∨
      ∀ m ∈ cuts strategy s, (writtenAs m.inside).length ≤ (replacement m.inside).length) :
    ∀ m ∈ cuts strategy s, replacement m.inside = writtenAs m.inside := by
  induction s using cuts.induct strategy with
  | case1 s hCut => simp [cuts_of_cut?_eq_none hCut]
  | case2 s m hCut ih =>
    rw [cuts_of_cut?_eq_some hCut] at hSizes ⊢
    rw [substitute_of_cut?_eq_some hCut, List.append_assoc] at h
    have hParts := h.trans (eq_writtenAs_of_cut? hCut)
    rw [List.append_assoc] at hParts
    have hRest := List.append_cancel_left hParts
    -- neither the replacement nor the text after it can make up for what the other one loses
    have hLength : (replacement m.inside).length = (writtenAs m.inside).length := by
      have hBoth := congrArg List.length hRest
      simp only [List.length_append] at hBoth
      cases hSizes with
      | inl hShorter =>
        have hHere := hShorter m List.mem_cons_self
        have hAfter := length_substitute_le fun n hn => hShorter n (List.mem_cons_of_mem m hn)
        omega
      | inr hLonger =>
        have hHere := hLonger m List.mem_cons_self
        have hAfter := le_length_substitute fun n hn => hLonger n (List.mem_cons_of_mem m hn)
        omega
    obtain ⟨hHere, hAfter⟩ := List.append_inj hRest hLength
    refine List.forall_mem_cons.2 ⟨hHere, ih hAfter (hSizes.imp ?_ ?_)⟩
    · exact fun hShorter n hn => hShorter n (List.mem_cons_of_mem m hn)
    · exact fun hLonger n hn => hLonger n (List.mem_cons_of_mem m hn)

end StepArguments.Expression
