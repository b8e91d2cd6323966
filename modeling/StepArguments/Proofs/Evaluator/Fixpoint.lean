import StepArguments.Proofs.Evaluator.Settling

/-! # Results that stay

A text that comes out of an evaluation by steady processors is left as it is by the passes of both
strategies, so that evaluating it once more changes nothing (`evaluate_fixpoint`).  The passes are
only ever compared as a whole.  Hence an expression of the result need not be left alone by itself: what one expression
loses another may gain, as `not_leavesAlone_shifted` shows.
-/

namespace StepArguments.Evaluator

/-- At a point of a run every expression that a strategy finds in a text is recognized by no
    processor, or its value has just the text of the expression. -/
def LeavesAlone (e : Evaluator) (h : History) (strategy : Strategy) (s : List Char) : Prop :=
  ∀ m ∈ Expression.cuts strategy s, e.answer h m.inside = .ok none ∨
    ∃ value, e.answer h m.inside = .ok (some value) ∧ value.chars = Expression.writtenAs m.inside

variable {e : Evaluator} {h : History} {strategy : Strategy} {s : List Char}
  {text next settled : String} {result : Except ExpressionError Value}

theorem leavesAlone_iff_of_no_failure (hAnswers : e.failure? h strategy s = none) :
    e.LeavesAlone h strategy s ↔
      ∀ m ∈ Expression.cuts strategy s, e.replaced h m.inside = Expression.writtenAs m.inside := by
  rw [failure?_eq_none_iff] at hAnswers
  refine forall₂_congr fun m hm => ?_
  obtain ⟨answer, hAnswer⟩ := hAnswers m hm
  cases answer <;> simp [replaced, hAnswer]

/-! ## Passes that leave a text as it is -/

theorem passValue_eq_text_iff :
    e.passValue h strategy text = .ok (.text next) ↔
      e.failure? h strategy text.toList = none ∧ e.native? h strategy text.toList = none ∧
        Expression.substitute strategy (e.replaced h) text.toList = next.toList := by
  rw [passValue]
  cases hFailure : e.failure? h strategy text.toList with
  | some error => simp
  | none =>
    cases hNative : e.native? h strategy text.toList with
    | some value =>
      obtain ⟨_, hValue, _⟩ := of_native?_eq_some hNative
      cases value <;> simp_all [Value.isText]
    | none => simp [← String.toList_inj]

theorem Settles.passValue_eq (settles : e.Settles h strategy text result)
    (hResult : result = .ok (.text settled)) :
    e.passValue h strategy settled = .ok (.text settled) := by
  induction settles with
  | stay hStay =>
    cases hResult
    exact hStay
  | change _ _ _ ih => exact ih hResult
  | stop _ hEnds => exact absurd hResult (hEnds settled)

theorem Evaluates.passValue_eq (evaluates : e.Evaluates h text result)
    (hResult : result = .ok (.text settled)) (strategy : Strategy) :
    e.passValue h strategy settled = .ok (.text settled) := by
  induction evaluates with
  | stay reluctant greedy =>
    cases hResult
    cases strategy with
    | reluctant => exact reluctant.passValue_eq rfl
    | greedy => exact greedy.passValue_eq rfl
  | change _ _ _ _ ih => exact ih hResult
  | stopReluctant _ hEnds => exact absurd hResult (hEnds settled)
  | stopGreedy _ _ hEnds => exact absurd hResult (hEnds settled)

theorem evaluate_of_passValue_eq (steady : e.Steady h) (live : e.dryRun = false)
    (hStay : ∀ strategy, e.passValue h strategy text = .ok (.text text)) (passes : Nat)
    {later : History} (since : h <:+ later) :
    ∃ last, e.evaluate (passes + 1) text later = some (.ok (.text text), last) := by
  obtain ⟨h₁, hLater, hReluctant, _⟩ := settle_succ steady since .reluctant passes text
  obtain ⟨h₂, -, hGreedy, _⟩ := settle_succ steady (since.trans hLater) .greedy passes text
  have hReluctant := hReluctant text (hStay .reluctant)
  have hGreedy := hGreedy text (hStay .greedy)
  rw [if_pos rfl] at hReluctant hGreedy
  refine ⟨h₂, ?_⟩
  rw [evaluate, live, if_neg (by simp), alternate_succ_of_texts hReluctant hGreedy, if_pos rfl]
  rfl

/-! ## The fixpoint -/

theorem leavesAlone_of_length (hAnswers : e.failure? h strategy s = none)
    (hSame : Expression.substitute strategy (e.replaced h) s = s)
    (hSizes : (∀ m ∈ Expression.cuts strategy s,
        (e.replaced h m.inside).length ≤ (Expression.writtenAs m.inside).length) ∨
      ∀ m ∈ Expression.cuts strategy s,
        (Expression.writtenAs m.inside).length ≤ (e.replaced h m.inside).length) :
    e.LeavesAlone h strategy s := by
  rw [leavesAlone_iff_of_no_failure hAnswers]
  exact Expression.replacement_eq_written hSame hSizes

theorem length_eq_of_leavesAlone (hAlone : e.LeavesAlone h strategy s) {m : Cut}
    (hm : m ∈ Expression.cuts strategy s) :
    (e.replaced h m.inside).length = (Expression.writtenAs m.inside).length := by
  rcases hAlone m hm with hNone | ⟨value, hValue, hChars⟩
  · rw [replaced, hNone]
  · rw [replaced, hValue, ← hChars]

/-- From a point of a run on, from which the processors are steady, a text that an evaluation gives
    is given again whenever it is evaluated.  No expression of it makes a processor fail, and one
    pass of either strategy writes the same text once more.  The expressions are left alone one by
    one if and only if no replacement is longer than its expression, or equally if none is
    shorter. -/
theorem evaluate_fixpoint (e : Evaluator) (live : e.dryRun = false) (start : History)
    (steady : e.Steady start) (passes : Nat) (text settled : String) (h h' : History)
    (since : start <:+ h) (hEvaluate : e.evaluate passes text h = some (.ok (.text settled), h')) :
    (∀ passes h, start <:+ h →
      ∃ h', e.evaluate (passes + 1) settled h = some (.ok (.text settled), h')) ∧
      ∀ strategy,
        (∀ m ∈ Expression.cuts strategy settled.toList,
          ∃ answer, e.answer start m.inside = .ok answer) ∧
        Expression.substitute strategy (e.replaced start) settled.toList = settled.toList ∧
        (e.LeavesAlone start strategy settled.toList ↔
          ∀ m ∈ Expression.cuts strategy settled.toList,
            (e.replaced start m.inside).length ≤ (Expression.writtenAs m.inside).length) ∧
        (e.LeavesAlone start strategy settled.toList ↔
          ∀ m ∈ Expression.cuts strategy settled.toList,
            (Expression.writtenAs m.inside).length ≤ (e.replaced start m.inside).length) := by
  obtain ⟨result, evaluates, hOutcome⟩ := evaluates_of_evaluate steady since live hEvaluate
  obtain rfl : result = .ok (.text settled) := by
    cases result with
    | error error => cases hOutcome
    | ok value => cases hOutcome; rfl
  have hStay := evaluates.passValue_eq rfl
  refine ⟨fun passes h since => evaluate_of_passValue_eq steady live hStay passes since,
    fun strategy => ?_⟩
  obtain ⟨hAnswers, _, hSame⟩ := passValue_eq_text_iff.1 (hStay strategy)
  refine ⟨failure?_eq_none_iff.1 hAnswers, hSame, ?_, ?_⟩
  · exact ⟨fun hAlone m hm => Nat.le_of_eq (length_eq_of_leavesAlone hAlone hm),
      fun hShorter => leavesAlone_of_length hAnswers hSame (.inl hShorter)⟩
  · exact ⟨fun hAlone m hm => Nat.le_of_eq (length_eq_of_leavesAlone hAlone hm).symm,
      fun hLonger => leavesAlone_of_length hAnswers hSame (.inr hLonger)⟩

def twoAnswers (first : String) (value : Value) (second : String) (other : Value) : Evaluator where
  processors := [fun _ expression =>
    .ok (if expression = first then some value
      else if expression = second then some other else none)]

theorem steady_twoAnswers (first : String) (value : Value) (second : String) (other : Value)
    (h : History) : (twoAnswers first value second other).Steady h :=
  steady_of_constant (fun _ hp => ⟨_, List.mem_singleton.1 hp⟩) h

theorem eq_text_of_asText? {ε : Type} {run : Option (Except ε Value × History)} {settled : String}
    (hText : (run.bind fun r => r.1.toOption.bind Value.asText?) = some settled) :
    ∃ h', run = some (.ok (.text settled), h') := by
  obtain ⟨⟨result, h'⟩, hRun, hText⟩ := Option.bind_eq_some_iff.1 hText
  obtain ⟨value, hValue, hText⟩ := Option.bind_eq_some_iff.1 hText
  cases result with
  | error failure => cases hValue
  | ok found =>
    cases hValue
    cases value <;> cases hText
    exact ⟨h', hRun⟩

theorem evaluate_fixpoint_keep :
    let e := twoAnswers "a()" (.text "x") "f(x)" (.text "#{keep}")
    (e.dryRun = false ∧ e.Steady [] ∧
      ∃ h', e.evaluate 5 "#{f(#{a()})} #{a()}" [] = some (.ok (.text "#{keep} x"), h')) ∧
      (∀ passes h, ∃ h',
        e.evaluate (passes + 1) "#{keep} x" h = some (.ok (.text "#{keep} x"), h')) ∧
      e.LeavesAlone [] .greedy "#{keep} x".toList := by
  intro e
  have steady : e.Steady [] := steady_twoAnswers _ _ _ _ []
  have hEvaluate : ∃ h',
      e.evaluate 5 "#{f(#{a()})} #{a()}" [] = some (.ok (.text "#{keep} x"), h') :=
    eq_text_of_asText? (by decide +kernel)
  refine ⟨⟨rfl, steady, hEvaluate⟩, ?_⟩
  obtain ⟨h', hEvaluate⟩ := hEvaluate
  obtain ⟨hAgain, hStrategy⟩ :=
    evaluate_fixpoint e rfl [] steady 5 _ _ [] h' (List.suffix_refl []) hEvaluate
  obtain ⟨_, _, hShorter, _⟩ := hStrategy .greedy
  exact ⟨fun passes h => hAgain passes h (List.nil_suffix), hShorter.2 (by decide +kernel)⟩

/-- The first of these two expressions becomes one character longer and the second one character
    shorter: the text stays the same. -/
theorem not_leavesAlone_shifted :
    let e := twoAnswers "a" (.text "#{a}#") "b" (.text "{b}")
    (e.dryRun = false ∧ e.Steady [] ∧
      ∃ h', e.evaluate 5 "#{a}#{b}" [] = some (.ok (.text "#{a}#{b}"), h')) ∧
      ∀ strategy, ¬ e.LeavesAlone [] strategy "#{a}#{b}".toList := by
  intro e
  have steady : e.Steady [] := steady_twoAnswers _ _ _ _ []
  refine ⟨⟨rfl, steady, eq_text_of_asText? (by decide +kernel)⟩, fun strategy hAlone => ?_⟩
  have hFound : (⟨[], ['a'], "#{b}".toList⟩ : Cut) ∈
      Expression.cuts strategy "#{a}#{b}".toList := by
    cases strategy <;> decide +kernel
  have hSame := length_eq_of_leavesAlone hAlone hFound
  exact absurd hSame (by decide +kernel)

end StepArguments.Evaluator
