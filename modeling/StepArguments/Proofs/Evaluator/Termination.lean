import StepArguments.Proofs.Evaluator.Fixpoint

/-! # Evaluations that come to an end

Neither the passes nor the turns of the strategies have a bound of their own, and a value may well
be longer than its expression or join with the text around it into a new opener.  What pays for a
substitution is the number sign of the opener that it removes, as long as no processor ever writes
more number signs than it was given (`Evaluator.Thrifty`).  It may well answer one expression in
different ways.

`Evaluator.Spends` is the invariant: the substitutions made so far and the number signs left never
come to more than at the start, and a text that is not left as it is has fewer number signs than
before.  It holds of one substitution and is passed on from run to run (`Spends.trans`), so it holds
of a pass, of the passes of a strategy and of all turns.  With fewer number signs each time there
cannot be more rounds than there are number signs, and one more to see that nothing changes.
-/

namespace StepArguments.Evaluator

/-! ## Substitutions -/

def GivesValue : Except ExpressionError (Option Value) → Bool
  | .ok (some _) => true
  | _ => false

/-- Whether an event is a processor's being asked for an expression to which it gives a value, after
    what happened before. -/
def isSubstitution (e : Evaluator) (before : History) (event : Event) : Bool :=
  (e.answerTo before event).any GivesValue

/-- How many expressions were given a value.  The value takes the place of its expression, or ends
    the evaluation if it is no text and its expression is all there is. -/
def substitutions (e : Evaluator) : History → Nat
  | [] => 0
  | event :: before => e.substitutions before + if e.isSubstitution before event then 1 else 0

/-- No value of a processor, whatever it was asked before, has more number signs in its text than
    the expression. -/
def Thrifty (e : Evaluator) : Prop :=
  ∀ p ∈ e.processors, ∀ earlier expression value, p earlier expression = .ok (some value) →
    value.chars.count '#' ≤ expression.toList.count '#'

variable {e : Evaluator}

theorem substitutions_report (e : Evaluator) (r : Report) (h : History) :
    e.substitutions (.report r :: h) = e.substitutions h := rfl

theorem substitutions_askFrom (place : Nat) {processors : List Processor}
    (hRest : e.processors.drop place = processors) (expression : String) (h : History) :
    e.substitutions (askFrom place processors expression h).2 =
      e.substitutions h +
        if GivesValue (askFrom place processors expression h).1 then 1 else 0 := by
  induction processors generalizing place h with
  | nil => simp [askFrom, GivesValue]
  | cons p processors ih =>
    have hAsked : e.substitutions (.processor place expression :: h) =
        e.substitutions h +
          if GivesValue (p (h.expressionsAt place) expression) then 1 else 0 := by
      simp [substitutions, isSubstitution, answerTo_processor hRest]
    rw [askFrom]
    -- of the processors that are asked only the last one may give a value
    split
    · rename_i hNone
      rw [ih (place + 1) (processors_of_drop hRest).2, hAsked, hNone]
      simp [GivesValue]
    · exact hAsked

theorem substitutions_apply (e : Evaluator) (content : List Char) (h : History) :
    e.substitutions (e.apply (String.ofList content) h).2 =
      e.substitutions h + if GivesValue (e.answer h content) then 1 else 0 := by
  rw [← apply_fst]
  exact substitutions_askFrom 0 List.drop_zero _ h

theorem exists_processor_of_firstAnswer {h : History} {place : Nat} {processors : List Processor}
    {expression : String} {value : Value}
    (hAnswer : firstAnswer h place processors expression = .ok (some value)) :
    ∃ p ∈ processors, ∃ earlier, p earlier expression = .ok (some value) := by
  induction processors generalizing place with
  | nil => cases hAnswer
  | cons p processors ih =>
    rw [firstAnswer] at hAnswer
    split at hAnswer
    · obtain ⟨q, hMem, hq⟩ := ih hAnswer
      exact ⟨q, List.mem_cons_of_mem p hMem, hq⟩
    · exact ⟨p, List.mem_cons_self, _, hAnswer⟩

/-- The opener goes, and the value brings back no more than what the content had. -/
theorem Thrifty.count_value_lt (thrifty : e.Thrifty) {h : History} {content : List Char}
    {value : Value} (hAnswer : e.answer h content = .ok (some value)) :
    value.chars.count '#' < (Expression.writtenAs content).count '#' := by
  obtain ⟨p, hMem, earlier, hp⟩ := exists_processor_of_firstAnswer hAnswer
  have hValue := thrifty p hMem earlier _ value hp
  rw [String.toList_ofList] at hValue
  simp only [Expression.writtenAs, List.cons_append, List.count_cons, List.count_append]
  simp
  omega

/-! ## What a run spends -/

/-- The number signs of a result that may still be evaluated. -/
def signsLeft : Except ExpressionError Value → Nat
  | .ok (.text s) => s.toList.count '#'
  | _ => 0

/-- A run from a text to a result pays for its substitutions with number signs.  If it gives another
    text, that one has fewer of them. -/
structure Spends (e : Evaluator) (text : String) (h : History)
    (result : Except ExpressionError Value) (h' : History) : Prop where
  paid : e.substitutions h' + signsLeft result ≤ e.substitutions h + text.toList.count '#'
  shrinks : ∀ next, result = .ok (.text next) →
    next = text ∨ next.toList.count '#' < text.toList.count '#'

variable {text next : String} {h h' h'' : History} {result : Except ExpressionError Value}

theorem Spends.count_le (spends : e.Spends text h (.ok (.text next)) h') :
    next.toList.count '#' ≤ text.toList.count '#' := by
  rcases spends.shrinks next rfl with rfl | hFewer
  · exact Nat.le_refl _
  · exact Nat.le_of_lt hFewer

theorem Spends.refl (hSame : e.substitutions h' = e.substitutions h) :
    e.Spends text h (.ok (.text text)) h' where
  paid := Nat.le_of_eq (congrArg (· + text.toList.count '#') hSame)
  shrinks next hNext := by
    cases hNext
    exact .inl rfl

theorem Spends.trans (first : e.Spends text h (.ok (.text next)) h')
    (second : e.Spends next h' result h'') : e.Spends text h result h'' where
  paid := by
    have hFirst := first.paid
    have hSecond := second.paid
    rw [signsLeft] at hFirst
    omega
  shrinks last hLast := by
    rcases second.shrinks last hLast with rfl | hFewer
    · exact first.shrinks last rfl
    · exact .inr (Nat.lt_of_lt_of_le hFewer first.count_le)

/-- A result after which nothing is evaluated any more has no number signs left. -/
theorem Spends.of_ends (hPaid : e.substitutions h' ≤ e.substitutions h + text.toList.count '#')
    (hEnds : Ends result) : e.Spends text h result h' where
  paid := by
    have hNone : signsLeft result = 0 := by
      unfold signsLeft
      split
      · exact absurd rfl (hEnds _)
      · rfl
    omega
  shrinks next hNext := absurd hNext (hEnds next)

/-- One substitution, anywhere in a text. -/
theorem Spends.of_substitution (thrifty : e.Thrifty) (before after : List Char)
    {content : List Char} {value : Value} (hAnswer : e.answer h content = .ok (some value))
    (hOne : e.substitutions h' = e.substitutions h + 1) :
    e.Spends (String.ofList (before ++ Expression.writtenAs content ++ after)) h
      (.ok (.text (String.ofList (before ++ value.chars ++ after)))) h' := by
  have hFewer := thrifty.count_value_lt hAnswer
  refine ⟨?_, fun next hNext => ?_⟩
  · simp only [signsLeft, String.toList_ofList, List.count_append]
    omega
  · cases hNext
    right
    simp only [String.toList_ofList, List.count_append]
    omega

/-! ## Runs -/

theorem pass_spends (thrifty : e.Thrifty) (strategy : Strategy) (first : Bool)
    (done rest : List Char) (h : History) :
    e.Spends (String.ofList (done.reverse ++ rest)) h (e.pass strategy first done rest h).1
      (e.pass strategy first done rest h).2 := by
  induction rest using Expression.cuts.induct strategy generalizing first done h with
  | case1 rest hCut =>
    rw [pass_of_cut?_eq_none hCut]
    exact .refl rfl
  | case2 rest m hCut ih =>
    have hAsked := substitutions_apply e m.inside h
    rcases hApply : e.apply (String.ofList m.inside) h with ⟨answer, later⟩
    have hAnswer : e.answer h m.inside = answer := by rw [← apply_fst e m.inside h, hApply]
    rw [hApply, hAnswer] at hAsked
    -- whatever comes of the expression stands between the same two parts of the text
    have hText : done.reverse ++ rest =
        done.reverse ++ m.before ++ Expression.writtenAs m.inside ++ m.after := by
      have hRest := congrArg (done.reverse ++ ·) (Expression.eq_writtenAs_of_cut? hCut)
      simpa only [List.append_assoc] using hRest
    have hRest (part : List Char) :
        e.Spends (String.ofList (done.reverse ++ m.before ++ part ++ m.after)) later
          (e.pass strategy false ((m.before ++ part).reverse ++ done) m.after later).1
          (e.pass strategy false ((m.before ++ part).reverse ++ done) m.after later).2 := by
      simpa only [List.reverse_append, List.reverse_reverse, List.append_assoc] using
        ih false ((m.before ++ part).reverse ++ done) later
    rw [pass_of_cut?_eq_some hCut, hApply, hText]
    cases answer with
    | error error =>
      refine .of_ends ?_ fun next hNext => by cases hNext
      exact Nat.le_trans (Nat.le_of_eq hAsked) (Nat.le_add_right _ _)
    | ok value =>
      cases value with
      | none => exact (Spends.refl hAsked).trans (hRest _)
      | some value =>
        have step := Spends.of_substitution thrifty (done.reverse ++ m.before) m.after hAnswer
          hAsked
        dsimp only
        split
        · rename_i hWhole
          refine .of_ends (Nat.le_trans (Nat.le_add_right _ _) step.paid) fun next hNext => ?_
          cases hNext
          cases hWhole.2.2.2
        · exact step.trans (hRest _)

theorem settle_spends (thrifty : e.Thrifty) (strategy : Strategy) (text : String) (h : History) :
    ∃ result h', e.Spends text h result h' ∧ ∀ passes, text.toList.count '#' < passes →
      e.settle strategy passes text h = some (result, h') := by
  induction hSigns : text.toList.count '#' using Nat.strongRecOn generalizing text h with
  | _ signs ih =>
    subst hSigns
    have pass := pass_spends thrifty strategy true [] text.toList h
    rcases hPass : e.pass strategy true [] text.toList h with ⟨result, later⟩
    rw [hPass, List.reverse_nil, List.nil_append, String.ofList_toList] at pass
    rcases text_or_ends result with ⟨next, rfl⟩ | hEnds
    · by_cases hSame : next = text
      · subst hSame
        refine ⟨_, later, pass, fun passes hPasses => ?_⟩
        obtain ⟨passes, rfl⟩ := Nat.exists_eq_add_of_lt hPasses
        rw [settle, hPass]
        simp only [if_pos]
      · -- the number signs that are left bound the passes that follow
        have hFewer := (pass.shrinks next rfl).resolve_left hSame
        obtain ⟨result, h', rest, hSettle⟩ := ih _ hFewer next later rfl
        refine ⟨result, h', pass.trans rest, fun passes hPasses => ?_⟩
        obtain ⟨passes, rfl⟩ := Nat.exists_eq_add_of_lt hPasses
        rw [settle, hPass]
        simp only [if_neg hSame]
        exact hSettle _ (by omega)
    · refine ⟨result, later, pass, fun passes hPasses => ?_⟩
      obtain ⟨passes, rfl⟩ := Nat.exists_eq_add_of_lt hPasses
      rw [settle, hPass]
      split
      · rename_i next _ hNext
        exact absurd (Prod.mk.inj hNext).1 (hEnds next)
      · rfl

theorem alternate_spends (thrifty : e.Thrifty) (text : String) (h : History) :
    ∃ result h', e.Spends text h result h' ∧ ∀ passes turns,
      text.toList.count '#' < passes → text.toList.count '#' < turns →
        e.alternate passes turns text h = some (result, h') := by
  induction hSigns : text.toList.count '#' using Nat.strongRecOn generalizing text h with
  | _ signs ih =>
    subst hSigns
    obtain ⟨calm, h₁, reluctant, hReluctant⟩ := settle_spends thrifty .reluctant text h
    rcases text_or_ends calm with ⟨calm, rfl⟩ | hEnds
    · obtain ⟨next, h₂, greedy, hGreedy⟩ := settle_spends thrifty .greedy calm h₁
      have turn := reluctant.trans greedy
      -- after the reluctant passes there are no more number signs than before
      have hGreedy (passes : Nat) (hPasses : text.toList.count '#' < passes) :=
        hGreedy passes (Nat.lt_of_le_of_lt reluctant.count_le hPasses)
      rcases text_or_ends next with ⟨next, rfl⟩ | hEnds
      · by_cases hSame : next = calm
        · refine ⟨_, h₂, turn, fun passes turns hPasses hTurns => ?_⟩
          obtain ⟨turns, rfl⟩ := Nat.exists_eq_add_of_lt hTurns
          rw [alternate_succ_of_texts (hReluctant passes hPasses) (hGreedy passes hPasses),
            if_pos hSame]
        · have hFewer : next.toList.count '#' < text.toList.count '#' :=
            Nat.lt_of_lt_of_le ((greedy.shrinks next rfl).resolve_left hSame) reluctant.count_le
          obtain ⟨result, h', rest, hAlternate⟩ := ih _ hFewer next h₂ rfl
          refine ⟨result, h', turn.trans rest, fun passes turns hPasses hTurns => ?_⟩
          obtain ⟨turns, rfl⟩ := Nat.exists_eq_add_of_lt hTurns
          rw [alternate_succ_of_texts (hReluctant passes hPasses) (hGreedy passes hPasses),
            if_neg hSame]
          exact hAlternate passes _ (by omega) (by omega)
      · refine ⟨next, h₂, turn, fun passes turns hPasses hTurns => ?_⟩
        obtain ⟨turns, rfl⟩ := Nat.exists_eq_add_of_lt hTurns
        exact alternate_succ_of_greedy_ends (hReluctant passes hPasses) (hGreedy passes hPasses)
          hEnds
    · refine ⟨calm, h₁, reluctant, fun passes turns hPasses hTurns => ?_⟩
      obtain ⟨turns, rfl⟩ := Nat.exists_eq_add_of_lt hTurns
      exact alternate_succ_of_reluctant_ends (hReluctant passes hPasses) hEnds

theorem evaluate_spends (thrifty : e.Thrifty) (text : String) (h : History) :
    ∃ result h', e.substitutions h' ≤ e.substitutions h + text.toList.count '#' ∧
      ∀ passes, text.toList.count '#' < passes →
        e.evaluate passes text h = some (result, h') := by
  cases live : e.dryRun with
  | false =>
    obtain ⟨result, later, spends, hAlternate⟩ := alternate_spends thrifty text h
    have hPaid := Nat.le_trans (Nat.le_add_right _ _) spends.paid
    cases result with
    | ok value =>
      refine ⟨.ok value, later, hPaid, fun passes hPasses => ?_⟩
      rw [evaluate, live, if_neg (by simp), hAlternate passes passes hPasses hPasses]
      rfl
    | error error =>
      refine ⟨.error ⟨text, error⟩, .report (.expressionFailed text error.message) :: later, ?_,
        fun passes hPasses => ?_⟩
      · rw [substitutions_report]
        exact hPaid
      · rw [evaluate, live, if_neg (by simp), hAlternate passes passes hPasses hPasses]
        rfl
  | true =>
    refine ⟨.ok (.text text), .report (.expressionsSkipped text) :: h, ?_, fun passes _ => ?_⟩
    · rw [substitutions_report]
      exact Nat.le_add_right _ _
    · rw [evaluate, if_pos live]

/-! ## Termination -/

/-- If no value has more number signs than its expression, the evaluation of a text comes to an end:
    there is one value or error that every number of passes above the number signs of the text
    gives.  On the way there are no more substitutions than number signs in the text. -/
theorem evaluate_terminates (e : Evaluator) (thrifty : e.Thrifty) (text : String) (h : History) :
    ∃ result events, (∀ passes, text.toList.count '#' < passes →
        e.evaluate passes text h = some (result, events ++ h)) ∧
      e.substitutions (events ++ h) ≤ e.substitutions h + text.toList.count '#' := by
  obtain ⟨result, h', hPaid, hEvaluate⟩ := evaluate_spends thrifty text h
  obtain ⟨events, rfl⟩ := suffix_of_evaluate (hEvaluate _ (Nat.lt_succ_self _))
  exact ⟨result, events, hEvaluate, hPaid⟩

/-- The reluctant strategy does not recognize the first expression and resumes behind the greedy
    one, whose value joins with the number sign in front of it. -/
theorem evaluate_terminates_resuming :
    let e := twoAnswers "wrap(x)\x7d and (y)" (.text "{p(1)} and (2)\x7d") "p(1)" (.text "P")
    e.Thrifty ∧ ∃ events, (∀ passes, 2 < passes →
        e.evaluate passes "##{wrap(x)} and (y)\x7d" [] =
          some (.ok (.text "P and (2)\x7d"), events ++ [])) ∧
      e.substitutions (events ++ []) ≤ 2 := by
  intro e
  have thrifty : e.Thrifty := by
    intro p hMem _ expression value hValue
    obtain rfl := List.mem_singleton.1 hMem
    simp only [Except.ok.injEq] at hValue
    split at hValue
    · obtain rfl := Option.some.inj hValue
      exact Nat.zero_le _
    · split at hValue
      · obtain rfl := Option.some.inj hValue
        exact Nat.zero_le _
      · cases hValue
  obtain ⟨result, events, hEvaluate, hPaid⟩ :=
    evaluate_terminates e thrifty "##{wrap(x)} and (y)\x7d" []
  obtain ⟨h', hResult⟩ : ∃ h', e.evaluate 3 "##{wrap(x)} and (y)\x7d" [] =
      some (.ok (.text "P and (2)\x7d"), h') :=
    eq_text_of_asText? (by decide +kernel)
  rw [hEvaluate 3 (by decide +kernel)] at hResult
  obtain ⟨rfl, rfl⟩ := Prod.mk.inj (Option.some.inj hResult)
  exact ⟨thrifty, events, hEvaluate, hPaid⟩

end StepArguments.Evaluator
