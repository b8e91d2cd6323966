import StepArguments.Proofs.Functions.Calls

/-! # Forests of calls

A forest is a text with calls in it, whose arguments are forests again.  Its evaluation goes from
the innermost calls outwards, as the evaluation of a syntax tree does (`Forest.evaluated`).
`Forest.step` is what one reluctant pass does to it.  It replaces all calls that have no calls in
their arguments and that there is a value for, and nothing else (`substitute_chars`).  Steps keep
the evaluation (`evaluated_step`) and come to an end, because each takes a call away
(`step_eq_or_calls_step_lt`).  The forest they end with is what the evaluation says
(`evaluated_of_step_eq`), and the greedy strategy does not change it either.
-/

namespace StepArguments

open Expression (Plain Clear region substitute writtenAs)

/-- Texts and calls one after the other; the argument of a call is a forest. -/
inductive Forest where
  | nil
  | text (s : List Char) (rest : Forest)
  | call (name : List Char) (children rest : Forest)

namespace Forest

def chars : Forest → List Char
  | nil => []
  | text s rest => s ++ rest.chars
  | call name children rest => writtenAs (Call.written name children.chars) ++ rest.chars

/-- Whether the texts have no part in expressions and the names are names. -/
def WellFormed : Forest → Prop
  | nil => True
  | text s rest => Plain s ∧ rest.WellFormed
  | call name children rest => Call.IsName name ∧ children.WellFormed ∧ rest.WellFormed

instance decidableWellFormed : (forest : Forest) → Decidable forest.WellFormed
  | nil => .isTrue trivial
  | text s rest =>
    have := decidableWellFormed rest
    inferInstanceAs (Decidable (Plain s ∧ rest.WellFormed))
  | call name children rest =>
    have := decidableWellFormed children
    have := decidableWellFormed rest
    inferInstanceAs (Decidable (Call.IsName name ∧ children.WellFormed ∧ rest.WellFormed))

/-- Evaluates a forest from the innermost calls outwards, given the texts of the values of calls, and
    says whether all calls were evaluated.  A call is evaluated after all calls in its argument;
    one that is not, for want of a value or of an evaluated argument, stays. -/
def evaluated (callText? : List Char → List Char → Option (List Char)) :
    Forest → List Char × Bool
  | nil => ([], true)
  | text s rest => (s ++ (rest.evaluated callText?).1, (rest.evaluated callText?).2)
  | call name children rest =>
    let (argument, complete) := children.evaluated callText?
    match if complete then callText? name argument else none with
    | some t => (t ++ (rest.evaluated callText?).1, (rest.evaluated callText?).2)
    | none => (writtenAs (Call.written name argument) ++ (rest.evaluated callText?).1, false)

def flat : Forest → Bool
  | nil => true
  | text _ rest => rest.flat
  | call _ _ _ => false

/-- Replaces all calls that have a value and no calls in their argument. -/
def step (callText? : List Char → List Char → Option (List Char)) : Forest → Forest
  | nil => nil
  | text s rest => text s (rest.step callText?)
  | call name children rest =>
    if children.flat then
      match callText? name children.chars with
      | some t => text t (rest.step callText?)
      | none => call name children (rest.step callText?)
    else call name (children.step callText?) (rest.step callText?)

def calls : Forest → Nat
  | nil => 0
  | text _ rest => rest.calls
  | call _ children rest => children.calls + rest.calls + 1

variable {callText? : List Char → List Char → Option (List Char)} {forest : Forest}
  {tail : List Char}

/-! ## The text of a forest -/

theorem chars_call_append (name : List Char) (children rest : Forest) (tail : List Char) :
    (call name children rest).chars ++ tail =
      '#' :: '{' :: (name ++ '(' :: children.chars ++ ')' :: '}' :: (rest.chars ++ tail)) := by
  simp [chars, writtenAs, Call.written]

theorem plain_chars_of_flat (hForest : forest.WellFormed) (hFlat : forest.flat) :
    Plain forest.chars := by
  induction forest with
  | nil => exact Expression.plain_nil
  | text s rest ih => exact Expression.plain_append_iff.2 ⟨hForest.1, ih hForest.2 hFlat⟩
  | call => cases hFlat

theorem flat_of_hash_not_mem (hHash : '#' ∉ forest.chars) : forest.flat := by
  induction forest with
  | nil => rfl
  | text s rest ih =>
    rw [chars, List.mem_append, not_or] at hHash
    exact ih hHash.2
  | call => simp [chars, writtenAs] at hHash

theorem count_hash_chars (hForest : forest.WellFormed) : forest.chars.count '#' = forest.calls := by
  induction forest with
  | nil => rfl
  | text s rest ih =>
    rw [chars, List.count_append, List.count_eq_zero.2 hForest.1.hash, ih hForest.2, calls]
    omega
  | call name children rest ihChildren ihRest =>
    obtain ⟨hName, hChildren, hRest⟩ := hForest
    simp [chars, writtenAs, Call.written, calls, List.count_append,
      List.count_eq_zero.2 hName.plain.hash, ihChildren hChildren, ihRest hRest]

theorem clear_chars_append (hForest : forest.WellFormed) (hTail : Clear tail) :
    Clear (forest.chars ++ tail) := by
  induction forest with
  | nil => exact hTail
  | text s rest ih =>
    rw [chars, List.append_assoc]
    exact (ih hForest.2).append hForest.1.hash hForest.1.opening
  | call name children rest =>
    rw [chars_call_append]
    exact ⟨by simp, by simp [region]⟩

theorem closing_not_mem_region (hForest : forest.WellFormed) (hFlat : forest.flat = false)
    (hTail : Clear tail) : '}' ∉ (region (forest.chars ++ tail)).1 := by
  induction forest with
  | nil => cases hFlat
  | text s rest ih =>
    obtain ⟨hText, hRest⟩ := hForest
    rw [chars, List.append_assoc, Expression.region_append_of_not_mem hText.opening
      (clear_chars_append hRest hTail).head]
    simp [hText.closing, ih hRest hFlat]
  | call name children rest =>
    rw [chars_call_append]
    simp [region]

/-! ## Steps -/

theorem wellFormed_step (hPlain : ∀ name argument t, callText? name argument = some t → Plain t)
    (hForest : forest.WellFormed) : (forest.step callText?).WellFormed := by
  induction forest with
  | nil => trivial
  | text s rest ih => exact ⟨hForest.1, ih hForest.2⟩
  | call name children rest ihChildren ihRest =>
    obtain ⟨hName, hChildren, hRest⟩ := hForest
    rw [step]
    split
    · split
      · rename_i t hText
        exact ⟨hPlain _ _ t hText, ihRest hRest⟩
      · exact ⟨hName, hChildren, ihRest hRest⟩
    · exact ⟨hName, ihChildren hChildren, ihRest hRest⟩

theorem step_eq_or_calls_step_lt (callText? : List Char → List Char → Option (List Char))
    (forest : Forest) :
    forest.step callText? = forest ∨ (forest.step callText?).calls < forest.calls := by
  induction forest with
  | nil => exact .inl rfl
  | text s rest ih =>
    cases ih with
    | inl hSame => exact .inl (by rw [step, hSame])
    | inr hLess => exact .inr hLess
  | call name children rest ihChildren ihRest =>
    have hRest : (rest.step callText?).calls ≤ rest.calls := by
      cases ihRest with
      | inl hSame => exact Nat.le_of_eq (by rw [hSame])
      | inr hLess => exact Nat.le_of_lt hLess
    rw [step]
    split
    · split
      · right
        rw [calls, calls]
        omega
      · cases ihRest with
        | inl hSame => exact .inl (by rw [hSame])
        | inr hLess =>
          right
          rw [calls, calls]
          omega
    · cases ihChildren with
      | inl hSame =>
        cases ihRest with
        | inl hSameRest => exact .inl (by rw [hSame, hSameRest])
        | inr hLess =>
          right
          rw [hSame, calls, calls]
          omega
      | inr hLess =>
        right
        rw [calls, calls]
        omega

/-! ## Evaluation -/

theorem evaluated_of_flat (hFlat : forest.flat) :
    forest.evaluated callText? = (forest.chars, true) := by
  induction forest with
  | nil => rfl
  | text s rest ih => rw [evaluated, ih hFlat, chars]
  | call => cases hFlat

theorem evaluated_step :
    (forest.step callText?).evaluated callText? = forest.evaluated callText? := by
  induction forest with
  | nil => rfl
  | text s rest ih => rw [step, evaluated, evaluated, ih]
  | call name children rest ihChildren ihRest =>
    rw [step]
    split
    · rename_i hFlat
      split
      · rename_i t hText
        rw [evaluated, evaluated, ihRest, evaluated_of_flat hFlat]
        simp [hText]
      · rw [evaluated, evaluated, ihRest]
    · rw [evaluated, evaluated, ihRest, ihChildren]

theorem evaluated_of_step_eq (hStep : forest.step callText? = forest) :
    forest.evaluated callText? = (forest.chars, forest.flat) := by
  induction forest with
  | nil => rfl
  | text s rest ih =>
    rw [step, text.injEq] at hStep
    rw [evaluated, ih hStep.2, chars, flat]
  | call name children rest ihChildren ihRest =>
    rw [step] at hStep
    split at hStep
    · rename_i hFlat
      split at hStep
      · cases hStep
      · rename_i hNone
        rw [call.injEq] at hStep
        rw [evaluated, evaluated_of_flat hFlat, ihRest hStep.2.2]
        simp [hNone, chars, flat]
    · rename_i hCalls
      rw [call.injEq] at hStep
      rw [evaluated, ihChildren hStep.2.1, ihRest hStep.2.2]
      simp [hCalls, chars, flat]

/-! ## Passes -/

/-- Whether calls are replaced by the texts of their values.  A call without a value is replaced by
    itself, whatever text is taken with it. -/
structure Replaces (callText? : List Char → List Char → Option (List Char))
    (replacement : List Char → List Char) : Prop where
  value : ∀ name argument t, Call.IsName name → callText? name argument = some t →
    replacement (Call.written name argument) = t
  written : ∀ name argument rest, Call.IsName name → callText? name argument = none →
    replacement (name ++ '(' :: rest) = writtenAs (name ++ '(' :: rest)

section Passes

variable {replacement : List Char → List Char} {strategy : Strategy} {name : List Char}
  {children rest : Forest}

theorem clear_behind_call (hTail : Clear tail) : Clear (')' :: '}' :: tail) :=
  hTail.append (s := [')', '}']) (by simp) (by simp)

theorem substitute_behind_call :
    substitute strategy replacement (')' :: '}' :: tail) =
      ')' :: '}' :: substitute strategy replacement tail := by
  rw [Expression.substitute_cons (by simp), Expression.substitute_cons (by simp)]

/-- A call with calls in its argument is passed over: the first opener in the argument stands before
    every brace that could close the call. -/
theorem substitute_call_of_not_flat (hName : Call.IsName name) (hChildren : children.WellFormed)
    (hCalls : children.flat = false) (hTail : Clear tail) :
    substitute strategy replacement
        ('#' :: '{' :: (name ++ '(' :: children.chars ++ ')' :: '}' :: tail)) =
      '#' :: '{' :: (name ++ '(' :: substitute strategy replacement
        (children.chars ++ ')' :: '}' :: tail)) := by
  have hPlain := hName.plain
  have hBehind := clear_behind_call hTail
  have hWord : name ++ '(' :: children.chars ++ ')' :: '}' :: tail =
      (name ++ ['(']) ++ (children.chars ++ ')' :: '}' :: tail) := by simp
  have hNoBrace : '}' ∉
      (region ((name ++ ['(']) ++ (children.chars ++ ')' :: '}' :: tail))).1 := by
    rw [Expression.region_append_of_not_mem (by simp [hPlain.opening])
      (clear_chars_append hChildren hBehind).head]
    simp [hPlain.closing, closing_not_mem_region hChildren hCalls hBehind]
  rw [hWord, Expression.substitute_opener_of_close?_eq_none (Expression.close?_eq_none hNoBrace),
    Expression.substitute_append (by simp [hPlain.hash])]
  simp

theorem Replaces.written_call (hReplaces : Replaces callText? replacement)
    (hName : Call.IsName name) {argument : List Char} (hNone : callText? name argument = none)
    (more : List Char) :
    replacement (name ++ '(' :: argument ++ ')' :: more) =
      writtenAs (name ++ '(' :: argument ++ ')' :: more) := by
  have hWritten := hReplaces.written name argument (argument ++ ')' :: more) hName hNone
  simpa using hWritten

/-- A reluctant pass takes a step.  Where there is no step to take, neither strategy changes the
    text. -/
theorem substitute_chars (hReplaces : Replaces callText? replacement) (hForest : forest.WellFormed)
    (hStrategy : strategy = .reluctant ∨ forest.step callText? = forest) (hTail : Clear tail) :
    substitute strategy replacement (forest.chars ++ tail) =
      (forest.step callText?).chars ++ substitute strategy replacement tail := by
  induction forest generalizing tail with
  | nil => rfl
  | text s rest ih =>
    have hRest : strategy = .reluctant ∨ rest.step callText? = rest := by
      rw [step, text.injEq] at hStrategy
      exact hStrategy.imp_right And.right
    rw [chars, List.append_assoc, Expression.substitute_append hForest.1.hash,
      ih hForest.2 hRest hTail, step, chars, List.append_assoc]
  | call name children rest ihChildren ihRest =>
    obtain ⟨hName, hChildren, hRest⟩ := hForest
    have hAfter := clear_chars_append hRest hTail
    rw [chars_call_append]
    rw [step] at hStrategy ⊢
    split
    · rename_i hFlat
      have hArgument := Expression.plain_append_iff.2
        ⟨hName.plain, plain_chars_of_flat hChildren hFlat⟩
      have hOpening : '{' ∉ name ++ '(' :: children.chars := by simpa using hArgument.opening
      have hClosing : '}' ∉ name ++ '(' :: children.chars := by simpa using hArgument.closing
      rw [if_pos hFlat] at hStrategy
      split
      · rename_i t hValue
        rw [hValue] at hStrategy
        -- no forest with such a call is one without a step
        obtain rfl : strategy = .reluctant := hStrategy.resolve_right fun hStep => by cases hStep
        have hText := hReplaces.value name _ t hName hValue
        rw [Call.written] at hText
        rw [Expression.substitute_call hOpening hClosing hAfter, hText,
          ihRest hRest (.inl rfl) hTail, chars, List.append_assoc]
      · rename_i hNone
        rw [hNone] at hStrategy
        have hStays : strategy = .reluctant ∨ rest.step callText? = rest := by
          simpa using hStrategy
        rw [Expression.substitute_call_of_written hOpening hClosing hAfter
          (hReplaces.written_call hName hNone), ihRest hRest hStays hTail, chars_call_append]
    · rename_i hCalls
      rw [if_neg hCalls, call.injEq] at hStrategy
      have hFlat : children.flat = false := by simpa using hCalls
      rw [substitute_call_of_not_flat hName hChildren hFlat hAfter,
        ihChildren hChildren (hStrategy.imp_right fun h => h.2.1) (clear_behind_call hAfter),
        substitute_behind_call, ihRest hRest (hStrategy.imp_right fun h => h.2.2) hTail,
        chars_call_append, List.append_assoc, List.cons_append]

end Passes

end Forest

end StepArguments
