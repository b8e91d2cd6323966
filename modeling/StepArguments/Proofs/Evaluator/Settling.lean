import StepArguments.Proofs.Evaluator.Recording

/-! # Settling

The passes of a strategy repeat without a bound of their own, and so do the turns of the strategies.
`Evaluator.Settles` and `Evaluator.Evaluates` describe both without counting: how a text comes to a
result, pass after pass and turn after turn, with the answers that the processors give at one point
of a run.  When they are steady from that point on, the bounded functions give just these results in
all that follows.  They give no other (`settles_of_settle`, `evaluates_of_alternate`), and every
result is reached by all bounds that are large enough (`Settles.settle_eq`,
`Evaluates.alternate_eq`).  So a text has an evaluation if and only if its evaluation comes to an end,
and what it comes to depends neither on the bound nor on where in the run it is made
(`evaluate_eq_of_evaluate`).
-/

namespace StepArguments.Evaluator

/-- What a pass over a text gives, with the answers of a point of a run. -/
def passValue (e : Evaluator) (h : History) (strategy : Strategy) (text : String) :
    Except ExpressionError Value :=
  match e.failure? h strategy text.toList with
  | some error => .error error
  | none => .ok ((e.native? h strategy text.toList).getD
      (.text (String.ofList (Expression.substitute strategy (e.replaced h) text.toList))))

/-- A result after which there are no more passes: a failure, or a value that is no text. -/
def Ends (result : Except ExpressionError Value) : Prop :=
  ∀ s, result ≠ .ok (.text s)

theorem text_or_ends (result : Except ExpressionError Value) :
    (∃ s, result = .ok (.text s)) ∨ Ends result := by
  cases result with
  | error error => exact .inr fun s h => by cases h
  | ok value =>
    cases value with
    | text s => exact .inl ⟨s, rfl⟩
    | _ => exact .inr fun s h => by cases h

/-! ## Passes of one strategy -/

/-- How a text comes to a result under the passes of one strategy, with the answers of a point of a
    run. -/
inductive Settles (e : Evaluator) (h : History) (strategy : Strategy) :
    String → Except ExpressionError Value → Prop
  | stay {text : String} : e.passValue h strategy text = .ok (.text text) →
      Settles e h strategy text (.ok (.text text))
  | change {text next : String} {result : Except ExpressionError Value} :
      e.passValue h strategy text = .ok (.text next) → next ≠ text →
      Settles e h strategy next result → Settles e h strategy text result
  | stop {text : String} {result : Except ExpressionError Value} :
      e.passValue h strategy text = result → Ends result → Settles e h strategy text result

variable {e : Evaluator} {h now now' now'' : History} {strategy : Strategy} {passes turns : Nat}
  {text calm next : String} {result : Except ExpressionError Value}

theorem pass_fst_start (steady : e.Steady h) (since : h <:+ now) (strategy : Strategy)
    (text : String) : (e.pass strategy true [] text.toList now).1 = e.passValue h strategy text := by
  rw [pass_fst steady since, passValue]
  rfl

theorem settle_succ (steady : e.Steady h) (since : h <:+ now) (strategy : Strategy) (passes : Nat)
    (text : String) :
    ∃ later, now <:+ later ∧
      (∀ next, e.passValue h strategy text = .ok (.text next) →
        e.settle strategy (passes + 1) text now =
          if next = text then some (.ok (.text text), later)
          else e.settle strategy passes next later) ∧
      (Ends (e.passValue h strategy text) →
        e.settle strategy (passes + 1) text now =
          some (e.passValue h strategy text, later)) := by
  have hLater := suffix_of_pass e strategy true [] text.toList now
  have hValue := pass_fst_start steady since strategy text
  rcases hPass : e.pass strategy true [] text.toList now with ⟨result, later⟩
  rw [hPass] at hLater hValue
  refine ⟨later, hLater, fun next hNext => ?_, fun hEnds => ?_⟩
  · obtain rfl : result = .ok (.text next) := hValue.trans hNext
    rw [settle, hPass]
  · rw [settle, hPass, ← hValue]
    rw [← hValue] at hEnds
    cases result with
    | error error => rfl
    | ok value =>
      cases value with
      | text s => exact absurd rfl (hEnds s)
      | _ => rfl

theorem settles_of_settle (steady : e.Steady h) (since : h <:+ now)
    (hSettle : e.settle strategy passes text now = some (result, now')) :
    e.Settles h strategy text result := by
  -- the next pass begins later in the run, where the processors are as steady
  induction passes generalizing text now with
  | zero => cases hSettle
  | succ passes ih =>
    obtain ⟨later, hLater, hText, hEnds⟩ := settle_succ steady since strategy passes text
    rcases text_or_ends (e.passValue h strategy text) with ⟨next, hNext⟩ | hFinal
    · rw [hText next hNext] at hSettle
      split at hSettle
      · rename_i hSame
        obtain ⟨rfl, rfl⟩ := Prod.mk.inj (Option.some.inj hSettle)
        exact .stay (hSame ▸ hNext)
      · rename_i hOther
        exact .change hNext hOther (ih (since.trans hLater) hSettle)
    · rw [hEnds hFinal] at hSettle
      obtain ⟨rfl, rfl⟩ := Prod.mk.inj (Option.some.inj hSettle)
      exact .stop rfl hFinal

theorem Settles.settle_eq (steady : e.Steady h) (settles : e.Settles h strategy text result) :
    ∃ bound, ∀ passes, bound ≤ passes → ∀ now, h <:+ now → ∃ later, now <:+ later ∧
      e.settle strategy passes text now = some (result, later) := by
  -- each change takes one pass more than what comes after it
  induction settles with
  | @stay text hStay =>
    refine ⟨1, fun passes hPasses now since => ?_⟩
    obtain ⟨passes, rfl⟩ := Nat.exists_eq_add_of_le' hPasses
    obtain ⟨later, hLater, hText, _⟩ := settle_succ steady since strategy passes text
    exact ⟨later, hLater, by rw [hText text hStay, if_pos rfl]⟩
  | @change text next result hNext hOther _ ih =>
    obtain ⟨bound, hBound⟩ := ih
    refine ⟨bound + 1, fun passes hPasses now since => ?_⟩
    obtain ⟨passes, rfl⟩ := Nat.exists_eq_add_of_le' (Nat.le_of_add_left_le hPasses)
    obtain ⟨between, hBetween, hText, _⟩ := settle_succ steady since strategy passes text
    rw [hText next hNext, if_neg hOther]
    obtain ⟨later, hLater, hSettle⟩ :=
      hBound passes (by omega) between (since.trans hBetween)
    exact ⟨later, hBetween.trans hLater, hSettle⟩
  | @stop text result hResult hEnds =>
    refine ⟨1, fun passes hPasses now since => ?_⟩
    obtain ⟨passes, rfl⟩ := Nat.exists_eq_add_of_le' hPasses
    obtain ⟨later, hLater, _, hStop⟩ := settle_succ steady since strategy passes text
    subst hResult
    exact ⟨later, hLater, hStop hEnds⟩

/-! ## Turns of both strategies -/

/-- How a text comes to a result when the strategies take turns. -/
inductive Evaluates (e : Evaluator) (h : History) : String → Except ExpressionError Value → Prop
  | stay {text calm : String} : e.Settles h .reluctant text (.ok (.text calm)) →
      e.Settles h .greedy calm (.ok (.text calm)) → Evaluates e h text (.ok (.text calm))
  | change {text calm next : String} {result : Except ExpressionError Value} :
      e.Settles h .reluctant text (.ok (.text calm)) →
      e.Settles h .greedy calm (.ok (.text next)) → next ≠ calm → Evaluates e h next result →
      Evaluates e h text result
  | stopReluctant {text : String} {result : Except ExpressionError Value} :
      e.Settles h .reluctant text result → Ends result → Evaluates e h text result
  | stopGreedy {text calm : String} {result : Except ExpressionError Value} :
      e.Settles h .reluctant text (.ok (.text calm)) → e.Settles h .greedy calm result →
      Ends result → Evaluates e h text result

theorem alternate_succ_of_texts
    (hReluctant : e.settle .reluctant passes text now = some (.ok (.text calm), now'))
    (hGreedy : e.settle .greedy passes calm now' = some (.ok (.text next), now'')) :
    e.alternate passes (turns + 1) text now =
      if next = calm then some (.ok (.text next), now'')
      else e.alternate passes turns next now'' := by
  rw [alternate, hReluctant]
  simp only [hGreedy]

theorem alternate_succ_of_greedy_ends
    (hReluctant : e.settle .reluctant passes text now = some (.ok (.text calm), now'))
    (hGreedy : e.settle .greedy passes calm now' = some (result, now'')) (hEnds : Ends result) :
    e.alternate passes (turns + 1) text now = some (result, now'') := by
  rw [alternate, hReluctant]
  simp only [hGreedy]
  split
  · rename_i s later hSome
    obtain ⟨rfl, rfl⟩ := Prod.mk.inj (Option.some.inj hSome)
    exact absurd rfl (hEnds s)
  · rfl

theorem alternate_succ_of_reluctant_ends
    (hReluctant : e.settle .reluctant passes text now = some (result, now'))
    (hEnds : Ends result) :
    e.alternate passes (turns + 1) text now = some (result, now') := by
  rw [alternate, hReluctant]
  split
  · rename_i s later hSome
    obtain ⟨rfl, rfl⟩ := Prod.mk.inj (Option.some.inj hSome)
    exact absurd rfl (hEnds s)
  · rfl

theorem evaluates_of_alternate (steady : e.Steady h) (since : h <:+ now)
    (hAlternate : e.alternate passes turns text now = some (result, now')) :
    e.Evaluates h text result := by
  induction turns generalizing text now with
  | zero => cases hAlternate
  | succ turns ih =>
    cases hReluctant : e.settle .reluctant passes text now with
    | none =>
      rw [alternate, hReluctant] at hAlternate
      cases hAlternate
    | some settled =>
      obtain ⟨settled, h₁⟩ := settled
      have reluctant := settles_of_settle steady since hReluctant
      have since₁ := since.trans (suffix_of_settle hReluctant)
      rcases text_or_ends settled with ⟨calm, rfl⟩ | hEnds
      · cases hGreedy : e.settle .greedy passes calm h₁ with
        | none =>
          rw [alternate, hReluctant] at hAlternate
          simp only [hGreedy] at hAlternate
          cases hAlternate
        | some settled =>
          obtain ⟨settled, h₂⟩ := settled
          have greedy := settles_of_settle steady since₁ hGreedy
          have since₂ := since₁.trans (suffix_of_settle hGreedy)
          rcases text_or_ends settled with ⟨next, rfl⟩ | hEnds
          · rw [alternate_succ_of_texts hReluctant hGreedy] at hAlternate
            split at hAlternate
            · rename_i hSame
              obtain ⟨rfl, rfl⟩ := Prod.mk.inj (Option.some.inj hAlternate)
              exact .stay (hSame ▸ reluctant) (hSame ▸ greedy)
            · rename_i hOther
              exact .change reluctant greedy hOther (ih since₂ hAlternate)
          · rw [alternate_succ_of_greedy_ends hReluctant hGreedy hEnds] at hAlternate
            obtain ⟨rfl, rfl⟩ := Prod.mk.inj (Option.some.inj hAlternate)
            exact .stopGreedy reluctant greedy hEnds
      · rw [alternate_succ_of_reluctant_ends hReluctant hEnds] at hAlternate
        obtain ⟨rfl, rfl⟩ := Prod.mk.inj (Option.some.inj hAlternate)
        exact .stopReluctant reluctant hEnds

/-- The passes of both strategies in one turn, each with enough of them. -/
theorem settle_turn_eq (steady : e.Steady h)
    (reluctant : e.Settles h .reluctant text (.ok (.text calm)))
    (greedy : e.Settles h .greedy calm result) :
    ∃ bound, ∀ passes, bound ≤ passes → ∀ now, h <:+ now → ∃ between later, h <:+ later ∧
      e.settle .reluctant passes text now = some (.ok (.text calm), between) ∧
      e.settle .greedy passes calm between = some (result, later) := by
  obtain ⟨bound₁, hBound₁⟩ := reluctant.settle_eq steady
  obtain ⟨bound₂, hBound₂⟩ := greedy.settle_eq steady
  refine ⟨bound₁ + bound₂, fun passes hPasses now since => ?_⟩
  obtain ⟨between, sinceNow, hReluctant⟩ := hBound₁ passes (by omega) now since
  have sinceBetween := since.trans sinceNow
  obtain ⟨later, sinceLater, hGreedy⟩ := hBound₂ passes (by omega) between sinceBetween
  exact ⟨between, later, sinceBetween.trans sinceLater, hReluctant, hGreedy⟩

theorem Evaluates.alternate_eq (steady : e.Steady h) (evaluates : e.Evaluates h text result) :
    ∃ bound, ∀ passes turns, bound ≤ passes → bound ≤ turns → ∀ now, h <:+ now → ∃ later,
      e.alternate passes turns text now = some (result, later) := by
  -- one turn more than what comes after the first turn takes
  induction evaluates with
  | stay reluctant greedy =>
    obtain ⟨bound, hBound⟩ := settle_turn_eq steady reluctant greedy
    refine ⟨bound + 1, fun passes turns hPasses hTurns now since => ?_⟩
    obtain ⟨turns, rfl⟩ := Nat.exists_eq_add_of_le' (Nat.le_of_add_left_le hTurns)
    obtain ⟨between, later, -, hReluctant, hGreedy⟩ := hBound passes (by omega) now since
    exact ⟨later, by rw [alternate_succ_of_texts hReluctant hGreedy, if_pos rfl]⟩
  | change reluctant greedy hOther _ ih =>
    obtain ⟨bound₁, hBound₁⟩ := settle_turn_eq steady reluctant greedy
    obtain ⟨bound₂, hBound₂⟩ := ih
    refine ⟨bound₁ + bound₂ + 1, fun passes turns hPasses hTurns now since => ?_⟩
    obtain ⟨turns, rfl⟩ := Nat.exists_eq_add_of_le' (Nat.le_of_add_left_le hTurns)
    obtain ⟨between, later, sinceLater, hReluctant, hGreedy⟩ :=
      hBound₁ passes (by omega) now since
    rw [alternate_succ_of_texts hReluctant hGreedy, if_neg hOther]
    exact hBound₂ passes turns (by omega) (by omega) later sinceLater
  | stopReluctant reluctant hEnds =>
    obtain ⟨bound, hBound⟩ := reluctant.settle_eq steady
    refine ⟨bound + 1, fun passes turns hPasses hTurns now since => ?_⟩
    obtain ⟨turns, rfl⟩ := Nat.exists_eq_add_of_le' (Nat.le_of_add_left_le hTurns)
    obtain ⟨later, -, hReluctant⟩ := hBound passes (by omega) now since
    exact ⟨later, alternate_succ_of_reluctant_ends hReluctant hEnds⟩
  | stopGreedy reluctant greedy hEnds =>
    obtain ⟨bound, hBound⟩ := settle_turn_eq steady reluctant greedy
    refine ⟨bound + 1, fun passes turns hPasses hTurns now since => ?_⟩
    obtain ⟨turns, rfl⟩ := Nat.exists_eq_add_of_le' (Nat.le_of_add_left_le hTurns)
    obtain ⟨between, later, -, hReluctant, hGreedy⟩ := hBound passes (by omega) now since
    exact ⟨later, alternate_succ_of_greedy_ends hReluctant hGreedy hEnds⟩

/-! ## Evaluations -/

/-- The outcome of an evaluation that was handed a text: a failure is one of that text. -/
def outcome (text : String) : Except ExpressionError Value → Except EvaluationFailure Value
  | .ok value => .ok value
  | .error error => .error ⟨text, error⟩

theorem evaluates_of_evaluate {failureOrValue : Except EvaluationFailure Value}
    (steady : e.Steady h) (since : h <:+ now) (live : e.dryRun = false)
    (hEvaluate : e.evaluate passes text now = some (failureOrValue, now')) :
    ∃ result, e.Evaluates h text result ∧ failureOrValue = outcome text result := by
  rw [evaluate, live, if_neg (by simp), Option.map_eq_some_iff] at hEvaluate
  obtain ⟨⟨result, later⟩, hAlternate, hResult⟩ := hEvaluate
  refine ⟨result, evaluates_of_alternate steady since hAlternate, ?_⟩
  cases result with
  | error error => exact (Prod.mk.inj hResult).1.symm
  | ok value => exact (Prod.mk.inj hResult).1.symm

theorem Evaluates.evaluate_eq (steady : e.Steady h) (live : e.dryRun = false)
    (evaluates : e.Evaluates h text result) :
    ∃ bound, ∀ passes, bound ≤ passes → ∀ now, h <:+ now → ∃ later,
      e.evaluate passes text now = some (outcome text result, later) := by
  obtain ⟨bound, hBound⟩ := evaluates.alternate_eq steady
  refine ⟨bound, fun passes hPasses now since => ?_⟩
  obtain ⟨later, hAlternate⟩ := hBound passes passes hPasses hPasses now since
  rw [evaluate, live, if_neg (by simp), hAlternate]
  cases result with
  | error error => exact ⟨_, rfl⟩
  | ok value => exact ⟨_, rfl⟩

/-- What an evaluation comes to, it comes to wherever it is made later in the run, as long as it may
    take enough passes. -/
theorem evaluate_eq_of_evaluate {failureOrValue : Except EvaluationFailure Value}
    (steady : e.Steady h) (since : h <:+ now)
    (hEvaluate : e.evaluate passes text now = some (failureOrValue, now')) :
    ∃ bound, ∀ passes, bound ≤ passes → ∀ later, h <:+ later → ∃ events,
      e.evaluate passes text later = some (failureOrValue, events ++ later) := by
  obtain ⟨bound, hBound⟩ : ∃ bound, ∀ passes, bound ≤ passes → ∀ later, h <:+ later → ∃ last,
      e.evaluate passes text later = some (failureOrValue, last) := by
    cases live : e.dryRun with
    | false =>
      obtain ⟨outcome, evaluates, rfl⟩ := evaluates_of_evaluate steady since live hEvaluate
      exact evaluates.evaluate_eq steady live
    | true =>
      rw [evaluate, if_pos live] at hEvaluate
      obtain ⟨rfl, -⟩ := Prod.mk.inj (Option.some.inj hEvaluate)
      exact ⟨0, fun _ _ later _ => ⟨_, by rw [evaluate, if_pos live]⟩⟩
  refine ⟨bound, fun passes hPasses later sinceLater => ?_⟩
  obtain ⟨last, hLast⟩ := hBound passes hPasses later sinceLater
  obtain ⟨events, rfl⟩ := suffix_of_evaluate hLast
  exact ⟨events, hLast⟩

end StepArguments.Evaluator
