import StepArguments.Proofs.Evaluator.Pass

/-! # Evaluations that fail

An evaluation asks processors, pass after pass and turn after turn, until one of them fails or the
text stays as it is.  `Evaluator.Leads` is what all its parts have in common: a part that gives a
value has left nothing but successful calls in the history, and a part that fails ends with the call
that failed, whose error it gives.  A part that follows successful calls keeps that
(`Leads.after`), so it goes from the processors asked for one expression up to all turns.  Since the
outcome of a call depends on what happened before, a history grows event by event
(`History.GrowsBy`), and each event is looked at together with the history in front of it.

`failsOn_of_evaluate` adds what `evaluate` does with an error: it is put down to the text that was
handed in, whatever the text had become by then, and reported once (`FailsOn.errors_eq`).
-/

namespace StepArguments

/-! ## Histories that grow -/

namespace History

/-- Since an earlier point of a run there were only events of one kind, each with what happened
    before it. -/
inductive GrowsBy (h : History) (kind : (before : History) → Event → Prop) :
    (later : History) → Prop
  | refl : GrowsBy h kind h
  | cons {later : History} {event : Event} : GrowsBy h kind later → kind later event →
      GrowsBy h kind (event :: later)

/-- The reports of errors, the earliest first. -/
def errors (h : History) : List Report :=
  h.reports.filter fun r => r.level = .error

variable {h later last : History} {kind other : History → Event → Prop}

theorem GrowsBy.trans (first : h.GrowsBy kind later) (second : later.GrowsBy kind last) :
    h.GrowsBy kind last := by
  induction second with
  | refl => exact first
  | cons _ hEvent ih => exact .cons ih hEvent

theorem GrowsBy.mono (grows : h.GrowsBy kind later)
    (hKind : ∀ before event, kind before event → other before event) :
    h.GrowsBy other later := by
  induction grows with
  | refl => exact .refl
  | cons _ hEvent ih => exact .cons ih (hKind _ _ hEvent)

/-- Events that are of the kind wherever they happen. -/
theorem growsBy_append {events : List Event}
    (hEvents : ∀ event ∈ events, ∀ before, kind before event) : h.GrowsBy kind (events ++ h) := by
  induction events with
  | nil => exact .refl
  | cons event events ih =>
    obtain ⟨hEvent, hEvents⟩ := List.forall_mem_cons.1 hEvents
    exact .cons (ih hEvents) (hEvent _)

theorem errors_cons (event : Event) (h : History) :
    errors (event :: h) = h.errors ++ errors [event] := by
  cases event <;> simp [errors, reports]

/-- Events that are no reports of errors leave those as they were. -/
theorem GrowsBy.errors_eq (grows : h.GrowsBy kind later)
    (hKind : ∀ before event, kind before event → errors [event] = []) :
    later.errors = h.errors := by
  induction grows with
  | refl => rfl
  | cons _ hEvent ih => rw [errors_cons, hKind _ _ hEvent, List.append_nil, ih]

end History

namespace Evaluator

/-! ## Calls -/

/-- A processor was asked and did not fail, after what happened before. -/
def Succeeds (e : Evaluator) (before : History) (event : Event) : Prop :=
  ∃ value, e.answerTo before event = some (.ok value)

/-- Whether an outcome is a value or an error can be read off the calls that led to it: none of them
    failed, or just the last one did, with that very error. -/
def Leads {α : Type} (e : Evaluator) (h : History) :
    Except ExpressionError α → (later : History) → Prop
  | .ok _, later => h.GrowsBy e.Succeeds later
  | .error error, later => ∃ call between, later = call :: between ∧
      h.GrowsBy e.Succeeds between ∧ e.answerTo between call = some (.error error)

variable {e : Evaluator} {passes turns : Nat} {text : String} {h h' later : History}

/-- Successful calls may come before all others. -/
theorem Leads.after {α : Type} {result : Except ExpressionError α}
    (leads : e.Leads later result h') (grows : h.GrowsBy e.Succeeds later) :
    e.Leads h result h' := by
  cases result with
  | ok value => exact grows.trans leads
  | error error =>
    obtain ⟨call, between, rfl, hBetween, hCall⟩ := leads
    exact ⟨call, between, rfl, grows.trans hBetween, hCall⟩

/-! ## Parts of an evaluation -/

theorem askFrom_leads (place : Nat) {processors : List Processor}
    (hRest : e.processors.drop place = processors) (expression : String) (h : History) :
    e.Leads h (askFrom place processors expression h).1
      (askFrom place processors expression h).2 := by
  induction processors generalizing place h with
  | nil => exact .refl
  | cons p processors ih =>
    have hCall := answerTo_processor hRest h expression
    rw [askFrom]
    cases hAnswer : p (h.expressionsAt place) expression with
    | error error =>
      exact ⟨.processor place expression, h, rfl, .refl, by rw [hCall, hAnswer]⟩
    | ok value =>
      have asked : h.GrowsBy e.Succeeds (.processor place expression :: h) :=
        .cons .refl ⟨value, by rw [hCall, hAnswer]⟩
      -- a processor that does not know the expression has not failed on it
      cases value with
      | none => exact (ih (place + 1) (processors_of_drop hRest).2 _).after asked
      | some value => exact asked

theorem apply_leads (e : Evaluator) (expression : String) (h : History) :
    e.Leads h (e.apply expression h).1 (e.apply expression h).2 :=
  askFrom_leads 0 List.drop_zero expression h

theorem pass_leads (e : Evaluator) (strategy : Strategy) (first : Bool) (done rest : List Char)
    (h : History) :
    e.Leads h (e.pass strategy first done rest h).1 (e.pass strategy first done rest h).2 := by
  induction rest using Expression.cuts.induct strategy generalizing first done h with
  | case1 rest hCut =>
    rw [pass_of_cut?_eq_none hCut]
    exact .refl
  | case2 rest m hCut ih =>
    have asked := e.apply_leads (String.ofList m.inside) h
    rw [pass_of_cut?_eq_some hCut]
    rcases hApply : e.apply (String.ofList m.inside) h with ⟨error | (_ | value), later⟩
    all_goals rw [hApply] at asked
    · exact asked
    · exact (ih false _ later).after asked
    · dsimp only
      split
      · exact asked
      · exact (ih false _ later).after asked

theorem settle_leads {strategy : Strategy} {result : Except ExpressionError Value}
    (hSettle : e.settle strategy passes text h = some (result, h')) : e.Leads h result h' := by
  induction passes generalizing text h with
  | zero => cases hSettle
  | succ passes ih =>
    have passed := e.pass_leads strategy true [] text.toList h
    rw [settle] at hSettle
    split at hSettle
    · rename_i hPass
      rw [hPass] at passed
      split at hSettle
      · obtain ⟨rfl, rfl⟩ := Prod.mk.inj (Option.some.inj hSettle)
        exact passed
      · exact (ih hSettle).after passed
    · rwa [Option.some.inj hSettle] at passed

theorem alternate_leads {result : Except ExpressionError Value}
    (hAlternate : e.alternate passes turns text h = some (result, h')) : e.Leads h result h' := by
  -- each way out of a turn comes after the calls of the passes before it
  induction turns generalizing text h with
  | zero => cases hAlternate
  | succ turns ih =>
    rw [alternate] at hAlternate
    split at hAlternate
    · rename_i hReluctant
      have calm := settle_leads hReluctant
      split at hAlternate
      · rename_i hGreedy
        have turned := (settle_leads hGreedy).after calm
        split at hAlternate
        · obtain ⟨rfl, rfl⟩ := Prod.mk.inj (Option.some.inj hAlternate)
          exact turned
        · exact (ih hAlternate).after turned
      · exact (settle_leads hAlternate).after calm
    · exact settle_leads hAlternate

/-! ## Evaluations -/

/-- An evaluation failed on a text that it was handed.  All that happened is calls of processors, of
    which the last one and no other failed, and then one report. -/
structure FailsOn (e : Evaluator) (text : String) (h : History) (failure : EvaluationFailure)
    (h' : History) : Prop where
  input_eq : failure.input = text
  history_eq : ∃ call between,
    h' = .report (.expressionFailed text failure.error.message) :: call :: between ∧
      h.GrowsBy e.Succeeds between ∧ e.answerTo between call = some (.error failure.error)

theorem failsOn_of_evaluate {failure : EvaluationFailure}
    (hEvaluate : e.evaluate passes text h = some (.error failure, h')) :
    e.FailsOn text h failure h' := by
  rw [evaluate] at hEvaluate
  split at hEvaluate
  · cases hEvaluate
  · obtain ⟨⟨outcome, later⟩, hAlternate, hResult⟩ := Option.map_eq_some_iff.1 hEvaluate
    cases outcome with
    | ok value => cases hResult
    | error error =>
      obtain ⟨hFailure, rfl⟩ := Prod.mk.inj hResult
      obtain rfl := Except.error.inj hFailure
      obtain ⟨call, between, rfl, hBetween, hCall⟩ := alternate_leads hAlternate
      exact ⟨rfl, call, between, rfl, hBetween, hCall⟩

/-- An evaluation that gives a value has asked processors with success, or left them alone in a dry
    run and reported that. -/
theorem grows_of_evaluate {value : Value}
    (hEvaluate : e.evaluate passes text h = some (.ok value, h')) :
    h.GrowsBy
      (fun before event => e.Succeeds before event ∨ event = .report (.expressionsSkipped text))
      h' := by
  rw [evaluate] at hEvaluate
  split at hEvaluate
  · obtain ⟨-, rfl⟩ := Prod.mk.inj (Option.some.inj hEvaluate)
    exact .cons .refl (.inr rfl)
  · obtain ⟨⟨outcome, later⟩, hAlternate, hResult⟩ := Option.map_eq_some_iff.1 hEvaluate
    cases outcome with
    | error error => cases hResult
    | ok found =>
      obtain ⟨-, rfl⟩ := Prod.mk.inj hResult
      exact History.GrowsBy.mono (alternate_leads hAlternate) fun _ _ => .inl

theorem errors_of_answerTo {before : History} {event : Event}
    {answer : Except ExpressionError (Option Value)}
    (hAnswer : e.answerTo before event = some answer) : History.errors [event] = [] := by
  cases event with
  | processor place expression => rfl
  | _ => cases hAnswer

/-- The failure is the only error that an evaluation reports. -/
theorem FailsOn.errors_eq {failure : EvaluationFailure} (fails : e.FailsOn text h failure h') :
    h'.errors = h.errors ++ [.expressionFailed text failure.error.message] := by
  obtain ⟨call, between, rfl, hBetween, hCall⟩ := fails.history_eq
  have hEarlier : History.errors between = h.errors :=
    hBetween.errors_eq fun _ _ ⟨_, hValue⟩ => errors_of_answerTo hValue
  rw [History.errors_cons, History.errors_cons, hEarlier, errors_of_answerTo hCall, List.append_nil]
  rfl

end Evaluator

end StepArguments
