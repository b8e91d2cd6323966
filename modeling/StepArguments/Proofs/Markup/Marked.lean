import StepArguments.Markup.Placeholder
import StepArguments.Proofs.Markup.Opener

/-! # Texts with and without markup

Whether a text holds a placeholder at all, and whether it holds an expression.  A placeholder that a
part of a text holds by itself is held by the whole text as well (`Placeholder.Marked.of_infix`): what
surrounds it can neither close it earlier nor undo that it is closed.  For expressions the strategy
makes no difference, as both find one wherever a brace closes the region of an opener
(`Expression.cut?_eq_none_of_cut?_eq_none`).
-/

namespace StepArguments

namespace Placeholder

/-- The openers that are open, `depth` of them and one more, are all closed in a text. -/
def Closes (depth : Nat) (s : List Char) : Prop :=
  (close? depth s).isSome

/-- A text that holds a placeholder. -/
def Marked (s : List Char) : Prop :=
  (cut? s).isSome

variable {depth : Nat} {c : Char} {s t : List Char}

theorem not_marked_iff : ¬ Marked s ↔ cut? s = none := by
  rw [Marked, Bool.not_eq_true, Option.isSome_eq_false_iff, Option.isNone_iff_eq_none]

theorem ne_nil_of_closes (closes : Closes depth s) : s ≠ [] := by
  rintro rfl
  cases closes

/-! ## Character by character -/

/-- A character that neither starts an opener nor is a brace is passed over. -/
theorem closes_cons (hOpener : c = '$' → s.head? ≠ some '{') (hBrace : c ≠ '}') :
    Closes depth (c :: s) ↔ Closes depth s := by
  rw [Closes, close?, Option.isSome_map, Closes]
  · rintro rest rfl rfl
    exact hOpener rfl rfl
  · rintro - rfl
    exact hBrace rfl
  · rintro n - rfl
    exact hBrace rfl

theorem closes_dollar (hs : s.head? = some '{') :
    Closes depth ('$' :: s) ↔ Closes (depth + 1) s := by
  obtain ⟨rest, rfl⟩ := List.head?_eq_some_iff.1 hs
  have hBrace : Closes (depth + 1) ('{' :: rest) ↔ Closes (depth + 1) rest :=
    closes_cons (fun hDollar => absurd hDollar (by decide)) (by decide)
  rw [hBrace, Closes, close?, Option.isSome_map, Closes]

theorem closes_brace : Closes 0 ('}' :: s) := rfl

theorem closes_brace_succ : Closes (depth + 1) ('}' :: s) ↔ Closes depth s := by
  rw [Closes, close?, Option.isSome_map, Closes]

theorem marked_cons (hOpener : c = '$' → s.head? ≠ some '{') : Marked (c :: s) ↔ Marked s := by
  rw [Marked, cut?, Option.isSome_map, Marked]
  rintro rest rfl rfl
  exact hOpener rfl rfl

theorem marked_dollar (hs : s.head? = some '{') : Marked ('$' :: s) ↔ Closes 0 s ∨ Marked s := by
  obtain ⟨rest, rfl⟩ := List.head?_eq_some_iff.1 hs
  have hPassed : '{' = '$' → rest.head? ≠ some '{' := fun hDollar => absurd hDollar (by decide)
  rw [closes_cons hPassed (by decide), marked_cons hPassed, Marked, cut?, Closes]
  cases close? 0 rest with
  | some parts => simp
  | none => simp [Marked]

theorem opener_of_not (hOpener : ¬ (c = '$' → s.head? ≠ some '{')) :
    c = '$' ∧ s.head? = some '{' := by
  rwa [Classical.not_imp, Decidable.not_not] at hOpener

theorem marked_of_marked_tail (c : Char) (marked : Marked s) : Marked (c :: s) := by
  by_cases hOpener : c = '$' → s.head? ≠ some '{'
  · exact (marked_cons hOpener).2 marked
  · obtain ⟨rfl, hs⟩ := opener_of_not hOpener
    exact (marked_dollar hs).2 (.inr marked)

/-! ## Other texts behind a character

What a character does to the openers depends on the text behind it only by whether an opening brace
comes next.  An empty text is apart: nothing that comes after it matters, as nothing is closed. -/

theorem Closes.cons_of (hHead : s ≠ [] → (s.head? = some '{' ↔ t.head? = some '{'))
    (hCloses : ∀ depth, Closes depth s → Closes depth t) (closes : Closes depth (c :: s)) :
    Closes depth (c :: t) := by
  by_cases hBrace : c = '}'
  · subst hBrace
    cases depth with
    | zero => exact closes_brace
    | succ depth => exact closes_brace_succ.2 (hCloses depth (closes_brace_succ.1 closes))
  by_cases hOpener : c = '$' → s.head? ≠ some '{'
  · -- what is closed is not empty, so the other text starts no opener either
    have hRest : Closes depth s := (closes_cons hOpener hBrace).1 closes
    have hOpener' : c = '$' → t.head? ≠ some '{' := fun hDollar hNext =>
      hOpener hDollar ((hHead (ne_nil_of_closes hRest)).2 hNext)
    exact (closes_cons hOpener' hBrace).2 (hCloses depth hRest)
  · obtain ⟨rfl, hs⟩ := opener_of_not hOpener
    have ht : t.head? = some '{' := (hHead (List.ne_nil_of_mem (List.mem_of_head? hs))).1 hs
    exact (closes_dollar ht).2 (hCloses _ ((closes_dollar hs).1 closes))

theorem Marked.cons_of (hHead : s ≠ [] → (s.head? = some '{' ↔ t.head? = some '{'))
    (hCloses : Closes 0 s → Closes 0 t) (hMarked : Marked s → Marked t) (marked : Marked (c :: s)) :
    Marked (c :: t) := by
  by_cases hOpener : c = '$' → s.head? ≠ some '{'
  · exact marked_of_marked_tail c (hMarked ((marked_cons hOpener).1 marked))
  · obtain ⟨rfl, hs⟩ := opener_of_not hOpener
    have ht : t.head? = some '{' := (hHead (List.ne_nil_of_mem (List.mem_of_head? hs))).1 hs
    exact (marked_dollar ht).2 (((marked_dollar hs).1 marked).imp hCloses hMarked)

/-! ## Parts of a text -/

theorem head?_append_iff (hs : s ≠ []) : s.head? = some c ↔ (s ++ t).head? = some c := by
  cases s with
  | nil => exact absurd rfl hs
  | cons d s => rfl

theorem Closes.append (closes : Closes depth s) (t : List Char) : Closes depth (s ++ t) := by
  induction s generalizing depth with
  | nil => cases closes
  | cons c s ih => exact closes.cons_of head?_append_iff fun depth => ih

theorem Marked.append (marked : Marked s) (t : List Char) : Marked (s ++ t) := by
  induction s with
  | nil => cases marked
  | cons c s ih => exact marked.cons_of head?_append_iff (fun closes => closes.append t) ih

/-- What one part of a text holds is held by the whole text. -/
theorem Marked.of_infix (marked : Marked t) (hInfix : t <:+: s) : Marked s := by
  obtain ⟨before, after, rfl⟩ := hInfix
  rw [List.append_assoc]
  induction before with
  | nil => exact marked.append after
  | cons c before ih => exact marked_of_marked_tail c ih

end Placeholder

/-! ## Expressions -/

namespace Expression

variable {s : List Char}

theorem close?_eq_none_iff (strategy : Strategy) (s : List Char) :
    close? strategy s = none ↔ '}' ∉ s := by
  constructor
  · intro hClose hBrace
    obtain ⟨parts, hParts⟩ := exists_close?_of_mem strategy hBrace
    rw [hClose] at hParts
    cases hParts
  · exact close?_eq_none

/-- Where one strategy finds no expression, no strategy does. -/
theorem cut?_eq_none_of_cut?_eq_none {strategy : Strategy} (strategy' : Strategy)
    (hCut : cut? strategy s = none) : cut? strategy' s = none := by
  fun_induction cut? strategy s with
  | case1 => rfl
  | case2 s content after hClose => cases hCut
  | case3 s hClose ih =>
    have hBrace := (close?_eq_none_iff strategy (region s).1).1 hClose
    have hClose' := (close?_eq_none_iff strategy' (region s).1).2 hBrace
    rw [cut?, hClose', ih (Option.map_eq_none_iff.1 hCut)]
    rfl
  | case4 c s hOpener ih =>
    rw [cut?, ih (Option.map_eq_none_iff.1 hCut)]
    · rfl
    · exact hOpener

end Expression

end StepArguments
