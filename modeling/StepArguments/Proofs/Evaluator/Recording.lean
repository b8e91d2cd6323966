import StepArguments.Proofs.Evaluator.Pass
import StepArguments.Proofs.Markup.Region

/-! # What an evaluation records

The history of an evaluation grows in two ways only: a processor is asked for a content without
openers, or something is reported.  So a property of histories that no such event takes away is kept
by every part of an evaluation, up to `evaluate_keeps`.  The first of these properties is that what
happened before stays (`suffix_of_evaluate`).
-/

namespace StepArguments.Evaluator

variable {P : History → Prop} {e : Evaluator} {passes turns : Nat} {text : String} {h h' : History}

section

variable (ask : ∀ place expression h, Expression.Unopened expression.toList → P h →
  P (.processor place expression :: h))

include ask

theorem pass_keeps (e : Evaluator) (strategy : Strategy) (first : Bool) (done rest : List Char)
    (kept : P h) : P (e.pass strategy first done rest h).2 := by
  induction rest using Expression.cuts.induct strategy generalizing first done h with
  | case1 rest hCut =>
    rw [pass_of_cut?_eq_none hCut]
    exact kept
  | case2 rest m hCut ih =>
    have unopened : Expression.Unopened (String.ofList m.inside).toList := by
      rw [String.toList_ofList]
      exact Expression.unopened_of_cut? hCut
    have asked : P (e.apply (String.ofList m.inside) h).2 :=
      askFrom_keeps (fun place h => ask place _ h unopened) 0 _ kept
    rw [pass_of_cut?_eq_some hCut]
    rcases hApply : e.apply (String.ofList m.inside) h with ⟨error | (_ | value), later⟩
    all_goals rw [hApply] at asked
    · exact asked
    · exact ih false _ asked
    · dsimp only
      split
      · exact asked
      · exact ih false _ asked

theorem settle_keeps {strategy : Strategy} {result : Except ExpressionError Value}
    (hSettle : e.settle strategy passes text h = some (result, h')) (kept : P h) : P h' := by
  induction passes generalizing text h with
  | zero => cases hSettle
  | succ passes ih =>
    have passed := pass_keeps ask e strategy true [] text.toList kept
    rw [settle] at hSettle
    split at hSettle
    · rename_i hPass
      rw [hPass] at passed
      split at hSettle
      · obtain ⟨-, rfl⟩ := Prod.mk.inj (Option.some.inj hSettle)
        exact passed
      · exact ih hSettle passed
    · rw [Option.some.inj hSettle] at passed
      exact passed

theorem alternate_keeps {result : Except ExpressionError Value}
    (hAlternate : e.alternate passes turns text h = some (result, h')) (kept : P h) : P h' := by
  induction turns generalizing text h with
  | zero => cases hAlternate
  | succ turns ih =>
    rw [alternate] at hAlternate
    split at hAlternate
    · rename_i hReluctant
      have calm := settle_keeps ask hReluctant kept
      split at hAlternate
      · rename_i hGreedy
        have turned := settle_keeps ask hGreedy calm
        split at hAlternate
        · obtain ⟨-, rfl⟩ := Prod.mk.inj (Option.some.inj hAlternate)
          exact turned
        · exact ih hAlternate turned
      · exact settle_keeps ask hAlternate calm
    · exact settle_keeps ask hAlternate kept

theorem evaluate_keeps (report : ∀ r h, P h → P (.report r :: h))
    {result : Except EvaluationFailure Value}
    (hEvaluate : e.evaluate passes text h = some (result, h')) (kept : P h) : P h' := by
  rw [evaluate] at hEvaluate
  split at hEvaluate
  · obtain ⟨-, rfl⟩ := Prod.mk.inj (Option.some.inj hEvaluate)
    exact report _ h kept
  · obtain ⟨⟨outcome, later⟩, hAlternate, hResult⟩ := Option.map_eq_some_iff.1 hEvaluate
    have alternated := alternate_keeps ask hAlternate kept
    cases outcome with
    | error error =>
      obtain ⟨-, rfl⟩ := Prod.mk.inj hResult
      exact report _ later alternated
    | ok value =>
      obtain ⟨-, rfl⟩ := Prod.mk.inj hResult
      exact alternated

end

theorem suffix_of_pass (e : Evaluator) (strategy : Strategy) (first : Bool)
    (done rest : List Char) (h : History) : h <:+ (e.pass strategy first done rest h).2 :=
  pass_keeps (P := fun later => h <:+ later)
    (fun _ _ _ _ earlier => earlier.trans (List.suffix_cons _ _)) e strategy first done rest
    (List.suffix_refl h)

theorem suffix_of_settle {strategy : Strategy} {result : Except ExpressionError Value}
    (hSettle : e.settle strategy passes text h = some (result, h')) : h <:+ h' :=
  settle_keeps (P := fun later => h <:+ later)
    (fun _ _ _ _ earlier => earlier.trans (List.suffix_cons _ _)) hSettle (List.suffix_refl h)

theorem suffix_of_evaluate {result : Except EvaluationFailure Value}
    (hEvaluate : e.evaluate passes text h = some (result, h')) : h <:+ h' :=
  evaluate_keeps (P := fun later => h <:+ later)
    (fun _ _ _ _ earlier => earlier.trans (List.suffix_cons _ _))
    (fun _ _ earlier => earlier.trans (List.suffix_cons _ _)) hEvaluate (List.suffix_refl h)

end StepArguments.Evaluator
