import StepArguments.Proofs.Engine.Satisfaction
import StepArguments.Proofs.Evaluator.Failure
import StepArguments.Proofs.Resolver.Spellings

/-! # Conversions that fail on an expression

A step argument fails on an expression just if the evaluation of one of its passes does
(`convert_eq_expression_error_iff`).  `Engine.Arrives` and `Engine.Begins` say which passes there
are: one over the raw text, one over the text of each pass that changed its own, as many as the
depth allows, and one more over the raw text if all of them changed theirs.

The failure is that of the evaluation, unchanged, and the run is over with it.  Up to the call that
failed everything went well (`Engine.GoesWell`): no processor failed, nothing of the kind was
reported and no text was converted.
-/

namespace StepArguments

/-- The texts that were to be converted are the same if nothing else happened since. -/
theorem History.GrowsBy.conversions_eq {h later : History} {kind : History → Event → Prop}
    (grows : h.GrowsBy kind later)
    (hKind : ∀ before text target, ¬ kind before (.conversion text target)) :
    later.conversions = h.conversions := by
  induction grows with
  | refl => rfl
  | @cons later event _ hEvent ih =>
    rw [← ih, conversions, conversions, List.reverse_cons, List.filterMap_append]
    cases event with
    | conversion text target => exact absurd hEvent (hKind _ _ _)
    | _ => exact List.append_nil _

/-- Looking keys up leaves nothing but the look-ups and what asking for dynamic variables leaves. -/
theorem Resolver.Asks.growsBy {r : Resolver} {keys : List String} {before after : History}
    {kind : History → Event → Prop} (asks : r.Asks keys before after)
    (hLookup : ∀ earlier key, kind earlier (.lookup key))
    (hConcerns : ∀ earlier key event, r.dynamic.Concerns key event → kind earlier event) :
    before.GrowsBy kind after := by
  obtain ⟨events, rfl, -, hEvents⟩ := asks
  refine History.growsBy_append fun event hEvent earlier => ?_
  rcases hEvents event hEvent with ⟨key, rfl⟩ | ⟨key, -, -, concerns⟩
  · exact hLookup earlier key
  · exact hConcerns earlier key event concerns

/-- The failed evaluation that is why a step argument has no value, if it was one. -/
def ArgumentError.failure? : ArgumentError → Option EvaluationFailure
  | .expression failure => some failure
  | .conversion _ => none

namespace Engine

variable {e : Engine} {passes left : Nat} {target : TargetType} {raw text : String}
  {value : Value} {failure : EvaluationFailure} {error : ArgumentError}
  {h now later h' : History}

/-! ## Passes of a resolution -/

/-- The resolution of a raw text that began at a point of a run comes to another text at a later
    point, by passes that each changed their text, with so many passes left. -/
inductive Arrives (e : Engine) (passes : Nat) (target : TargetType) (raw : String) (h : History) :
    (left : Nat) → (text : String) → (now : History) → Prop
  | start : Arrives e passes target raw h e.settings.maxDepth raw h
  | next {left : Nat} {text next : String} {now later : History} :
      Arrives e passes target raw h (left + 1) text now →
      e.pass passes target text now = some (.ok (.text next), later) → next ≠ text →
      Arrives e passes target raw h left next later

/-- In the resolution of a raw text that began at a point of a run a pass over a text begins at a
    later point. -/
inductive Begins (e : Engine) (passes : Nat) (target : TargetType) (raw : String) (h : History) :
    (text : String) → (now : History) → Prop
  | turn {left : Nat} {text : String} {now : History} :
      Arrives e passes target raw h (left + 1) text now → Begins e passes target raw h text now
  | last {text : String} {now : History} : Arrives e passes target raw h 0 text now →
      Begins e passes target raw h raw
        (.report (.depthExhausted raw e.settings.maxDepth) :: now)

theorem Arrives.resolveText_eq (arrives : e.Arrives passes target raw h left text now) :
    e.resolveText passes raw target h = e.settle passes target raw left text now := by
  induction arrives with
  | start => rfl
  | next _ hPass hOther ih =>
    rw [ih, settle, hPass]
    simp only [if_neg hOther]

theorem Begins.resolveText_eq_error (begins : e.Begins passes target raw h text now)
    (hPass : e.pass passes target text now = some (.error error, h')) :
    e.resolveText passes raw target h = some (.error error, h') := by
  cases begins with
  | turn arrives => rw [arrives.resolveText_eq, settle, hPass]
  | last arrives =>
    rw [arrives.resolveText_eq]
    exact hPass

theorem Arrives.exists_begins (arrives : e.Arrives passes target raw h left text now)
    (hSettle : e.settle passes target raw left text now = some (.error error, h')) :
    ∃ text now, e.Begins passes target raw h text now ∧
      e.pass passes target text now = some (.error error, h') := by
  -- every round of the loop that goes on is a step of `Arrives`
  induction left generalizing text now with
  | zero => exact ⟨raw, _, .last arrives, hSettle⟩
  | succ left ih =>
    rw [settle] at hSettle
    split at hSettle
    · rename_i hPass
      split at hSettle
      · cases hSettle
      · rename_i hOther
        exact ih (.next arrives hPass hOther) hSettle
    · exact ⟨text, now, .turn arrives, hSettle⟩

theorem resolveText_eq_error_iff :
    e.resolveText passes raw target h = some (.error error, h') ↔
      ∃ text now, e.Begins passes target raw h text now ∧
        e.pass passes target text now = some (.error error, h') :=
  ⟨fun hResolve => Arrives.start.exists_begins hResolve,
    fun ⟨_, _, begins, hPass⟩ => begins.resolveText_eq_error hPass⟩

/-! ## Failures of a pass -/

/-- In a pass over a text the placeholders resolve to a text, or to any value where its text is
    asked for, and the evaluation of that fails. -/
structure EvaluationFails (e : Engine) (passes : Nat) (target : TargetType) (text : String)
    (now : History) (failure : EvaluationFailure) (h' : History) : Prop where
  notNull : (e.resolver.resolve text now).1.asText? ≠ some nullExpression
  evaluated : target = .text ∨ (e.resolver.resolve text now).1.isText
  fails : e.evaluator.evaluate passes (e.resolver.resolve text now).1.display
    (e.resolver.resolve text now).2 = some (.error failure, h')

theorem pass_eq_error_iff :
    e.pass passes target text now = some (.error error, h') ↔
      ∃ failure, error = .expression failure ∧
        e.EvaluationFails passes target text now failure h' := by
  constructor
  · intro hPass
    simp only [pass] at hPass
    split at hPass
    · cases hPass
    · rename_i notNull
      split at hPass
      · rename_i evaluated
        obtain ⟨⟨outcome, last⟩, hEvaluate, hResult⟩ := Option.map_eq_some_iff.1 hPass
        cases outcome with
        | ok value => cases hResult
        | error failure =>
          obtain ⟨hError, rfl⟩ := Prod.mk.inj hResult
          exact ⟨failure, (Except.error.inj hError).symm, notNull, evaluated, hEvaluate⟩
      · cases hPass
  · rintro ⟨failure, rfl, fails⟩
    simp only [pass]
    rw [if_neg fails.notNull, if_pos fails.evaluated, fails.fails]
    rfl

/-- The failure holds what the placeholders resolved to, in the form of its text if text is asked
    for. -/
theorem EvaluationFails.input_eq (fails : e.EvaluationFails passes target text now failure h') :
    failure.input = (e.resolver.resolve text now).1.display ∧
      (target ≠ .text → (e.resolver.resolve text now).1 = .text failure.input) := by
  have hInput := (Evaluator.failsOn_of_evaluate fails.fails).input_eq
  refine ⟨hInput, fun hTarget => ?_⟩
  have hText := fails.evaluated.resolve_left hTarget
  rw [hInput]
  cases hValue : (e.resolver.resolve text now).1 with
  | text s => rw [Value.display, Value.chars, String.ofList_toList]
  | _ =>
    rw [hValue] at hText
    cases hText

/-! ## Failures of a conversion -/

theorem exists_conversion_of_ask (hAsk : e.ask text target h = (.error error, h')) :
    ∃ fault, error = .conversion fault := by
  rw [ask] at hAsk
  obtain ⟨hError, -⟩ := Prod.mk.inj hAsk
  cases hConvert : e.converter text target with
  | ok value =>
    rw [hConvert] at hError
    cases hError
  | error fault =>
    rw [hConvert] at hError
    exact ⟨fault, (Except.error.inj hError).symm⟩

theorem exists_conversion_of_convertResolved
    (hConvert : e.convertResolved text target h = (.error error, h')) :
    ∃ fault, error = .conversion fault := by
  induction target with
  | optional inner ih =>
    rw [convertResolved] at hConvert
    split at hConvert
    · cases hConvert
    · exact ih hConvert
  | _ => exact exists_conversion_of_ask hConvert

/-- Fitting a value to a type fails on nothing but the conversion of its text. -/
theorem exists_conversion_of_fit (hFit : e.fit target value h = (.error error, h')) :
    ∃ fault, error = .conversion fault := by
  rw [fit_eq] at hFit
  split at hFit
  · cases hFit
  · split at hFit
    · cases hFit
    · split at hFit
      · cases hFit
      · exact exists_conversion_of_convertResolved hFit

/-- A conversion fails on an expression just if the resolution of its text does. -/
theorem convert_eq_expression_error_iff_resolveText :
    e.convert passes raw target h = some (.error (.expression failure), h') ↔
      target ≠ .steps ∧
        e.resolveText passes raw target h = some (.error (.expression failure), h') := by
  rw [convert]
  split
  · rename_i hSteps
    refine ⟨fun hAsk => ?_, fun hBoth => absurd hSteps hBoth.1⟩
    obtain ⟨fault, hFault⟩ := exists_conversion_of_ask (Option.some.inj hAsk)
    cases hFault
  · rename_i hSteps
    constructor
    · intro hConvert
      obtain ⟨⟨outcome, later⟩, hText, hResult⟩ := Option.map_eq_some_iff.1 hConvert
      cases outcome with
      | ok value =>
        obtain ⟨fault, hFault⟩ := exists_conversion_of_fit hResult
        cases hFault
      | error error =>
        obtain ⟨hError, rfl⟩ := Prod.mk.inj hResult
        obtain rfl := Except.error.inj hError
        exact ⟨hSteps, hText⟩
    · rintro ⟨-, hText⟩
      rw [hText]
      rfl

theorem convert_eq_expression_error_iff :
    e.convert passes raw target h = some (.error (.expression failure), h') ↔
      target ≠ .steps ∧ ∃ text now, e.Begins passes target raw h text now ∧
        e.EvaluationFails passes target text now failure h' := by
  simp only [convert_eq_expression_error_iff_resolveText, resolveText_eq_error_iff,
    pass_eq_error_iff, ArgumentError.expression.injEq, exists_eq_left']

/-! ## Runs without a failure -/

/-- An event that is no sign of a failed processor, after what happened before, and no
    conversion. -/
def GoesWell (e : Engine) (before : History) : Event → Prop
  | .processor place expression => e.evaluator.Succeeds before (.processor place expression)
  | .report (.expressionFailed ..) => False
  | .conversion .. => False
  | _ => True

theorem goesWell_of_succeeds {before : History} {event : Event}
    (succeeds : e.evaluator.Succeeds before event) : e.GoesWell before event := by
  cases event with
  | processor place expression => exact succeeds
  | _ =>
    obtain ⟨value, hValue⟩ := succeeds
    cases hValue

theorem resolve_goesWell (e : Engine) (text : String) (now : History) :
    now.GrowsBy e.GoesWell (e.resolver.resolve text now).2 := by
  refine (e.resolver.resolve_eq_found_meaning text now).2.growsBy (fun _ _ => trivial) ?_
  intro before key event concerns
  cases concerns <;> exact trivial

theorem pass_goesWell (hPass : e.pass passes target text now = some (.ok value, later)) :
    now.GrowsBy e.GoesWell later := by
  have resolved := e.resolve_goesWell text now
  simp only [pass] at hPass
  split at hPass
  · obtain ⟨-, rfl⟩ := Prod.mk.inj (Option.some.inj hPass)
    exact resolved
  · split at hPass
    · obtain ⟨⟨outcome, last⟩, hEvaluate, hResult⟩ := Option.map_eq_some_iff.1 hPass
      cases outcome with
      | error failure => cases hResult
      | ok found =>
        obtain ⟨-, rfl⟩ := Prod.mk.inj hResult
        refine resolved.trans ((Evaluator.grows_of_evaluate hEvaluate).mono ?_)
        rintro before event (succeeds | rfl)
        · exact goesWell_of_succeeds succeeds
        · exact trivial
    · obtain ⟨-, rfl⟩ := Prod.mk.inj (Option.some.inj hPass)
      exact resolved

theorem Arrives.goesWell (arrives : e.Arrives passes target raw h left text now) :
    h.GrowsBy e.GoesWell now := by
  induction arrives with
  | start => exact .refl
  | next _ hPass _ ih => exact ih.trans (pass_goesWell hPass)

theorem Begins.goesWell (begins : e.Begins passes target raw h text now) :
    h.GrowsBy e.GoesWell now := by
  cases begins with
  | turn arrives => exact arrives.goesWell
  | last arrives => exact .cons arrives.goesWell trivial

/-- A run failed on an expression.  Everything went well up to one call of a processor; that one
    failed, this was reported, and nothing happened afterwards. -/
def FailsOnce (e : Engine) (h : History) (failure : EvaluationFailure) (h' : History) : Prop :=
  ∃ call between,
    h' = .report (.expressionFailed failure.input failure.error.message) :: call :: between ∧
      h.GrowsBy e.GoesWell between ∧
      e.evaluator.answerTo between call = some (.error failure.error)

theorem EvaluationFails.failsOnce (fails : e.EvaluationFails passes target text now failure h')
    (since : h.GrowsBy e.GoesWell now) : e.FailsOnce h failure h' := by
  have failsOn := Evaluator.failsOn_of_evaluate fails.fails
  obtain ⟨call, between, hHistory, asked, hCall⟩ := failsOn.history_eq
  rw [← failsOn.input_eq] at hHistory
  exact ⟨call, between, hHistory,
    since.trans ((e.resolve_goesWell text now).trans
      (asked.mono fun _ _ => goesWell_of_succeeds)), hCall⟩

theorem FailsOnce.conversions_eq (fails : e.FailsOnce h failure h') :
    History.conversions h' = History.conversions h := by
  obtain ⟨call, between, rfl, well, hCall⟩ := fails
  have grows : h.GrowsBy (fun _ event => ∀ text target, event ≠ .conversion text target)
      (.report (.expressionFailed failure.input failure.error.message) :: call :: between) := by
    refine .cons (.cons (well.mono fun before event hEvent => ?_) ?_) fun _ _ => nofun
    · rintro text target rfl
      exact hEvent
    · rintro text target rfl
      cases hCall
  exact grows.conversions_eq fun _ text target hKind => hKind text target rfl

/-! ## Failures -/

/-- The failed evaluation of a run that came to an end with one; `toFailure?` finds it in the error
    of the run. -/
def failureOf? {ε : Type} (toFailure? : ε → Option EvaluationFailure)
    (run : Option (Except ε Value × History)) : Option EvaluationFailure :=
  run.bind fun r =>
    match r.1 with
    | .ok _ => none
    | .error error => toFailure? error

theorem exists_error_of_failureOf? {ε : Type} {toFailure? : ε → Option EvaluationFailure}
    {run : Option (Except ε Value × History)}
    (hFailure : failureOf? toFailure? run = some failure) :
    ∃ error h', run = some (.error error, h') ∧ toFailure? error = some failure := by
  obtain ⟨⟨result, h'⟩, hRun, hResult⟩ := Option.bind_eq_some_iff.1 hFailure
  cases result with
  | ok value => cases hResult
  | error error => exact ⟨error, h', hRun, hResult⟩

/-- A failed evaluation holds the text that it was handed and the error of the only call that
    failed, which is the last one; the failure is all that it reports.  A conversion fails on an
    expression just if the evaluation in one of its passes does, and that failure is its error.  The
    failure then holds the text that the placeholders of that pass resolved to, it is the only one
    up to the end of the run, and no text was converted. -/
theorem convert_expression_failure (e : Engine) (passes : Nat) :
    (∀ (evaluator : Evaluator) text h failure h',
      evaluator.evaluate passes text h = some (.error failure, h') →
        evaluator.FailsOn text h failure h' ∧
          h'.errors = h.errors ++ [.expressionFailed text failure.error.message]) ∧
    (∀ raw target h failure h',
      e.convert passes raw target h = some (.error (.expression failure), h') ↔
        target ≠ .steps ∧ ∃ text now, e.Begins passes target raw h text now ∧
          e.EvaluationFails passes target text now failure h' ∧
          failure.input = (e.resolver.resolve text now).1.display ∧
          (target ≠ .text → (e.resolver.resolve text now).1 = .text failure.input)) ∧
    (∀ raw target h failure h',
      e.convert passes raw target h = some (.error (.expression failure), h') →
        e.FailsOnce h failure h' ∧ h'.conversions = h.conversions) := by
  refine ⟨?_, ?_, ?_⟩
  · intro evaluator text h failure h' hEvaluate
    have fails := Evaluator.failsOn_of_evaluate hEvaluate
    exact ⟨fails, fails.errors_eq⟩
  · intro raw target h failure h'
    rw [convert_eq_expression_error_iff]
    constructor
    · rintro ⟨hSteps, text, now, begins, fails⟩
      exact ⟨hSteps, text, now, begins, fails, fails.input_eq⟩
    · rintro ⟨hSteps, text, now, begins, fails, -⟩
      exact ⟨hSteps, text, now, begins, fails⟩
  · intro raw target h failure h' hConvert
    obtain ⟨-, text, now, begins, fails⟩ := convert_eq_expression_error_iff.1 hConvert
    have once := fails.failsOnce begins.goesWell
    exact ⟨once, once.conversions_eq⟩

/-- A processor that has two numbers to give, of which no text has enough. -/
def twoNumbers : Processor := fun earlier expression =>
  if expression = "next" then
    match ["1", "2"][earlier.count "next"]? with
    | some number => .ok (some (.text number))
    | none => .error (.evaluation "no more numbers")
  else if expression = "after 1" ∨ expression = "after 2" then
    .ok (some (.text "#{after #{next}}"))
  else .ok none

/-- An order in the store with two numbers, the second of which is after another one. -/
def orders : Engine where
  store := { story := [("order", .text "#{next} and ${rest}"),
    ("rest", .text "#{after #{next}}")] }
  processors := [nullProcessor, twoNumbers]

theorem convert_expression_failure_orders :
    let text := "1 and #{after #{next}}"
    let failure : EvaluationFailure := ⟨text, .evaluation "no more numbers"⟩
    (∃ h', orders.evaluator.evaluate 5 text [] = some (.error failure, h') ∧
      orders.evaluator.FailsOn text [] failure h' ∧
      History.errors h' = [.expressionFailed text "no more numbers"] ∧
      History.expressionsAt h' 1 = ["next", "after 1", "next", "after 2", "next"]) ∧
    ∃ h', orders.convert 5 "${order}" .integer [] = some (.error (.expression failure), h') ∧
      (∃ begun now, orders.Begins 5 .integer "${order}" [] begun now ∧
        (orders.resolver.resolve begun now).1 = .text text) ∧
      orders.FailsOnce [] failure h' ∧ History.conversions h' = [] ∧
      History.expressionsAt h' 1 = ["next", "next", "after 2", "next"] := by
  intro text failure
  obtain ⟨hEvaluation, hPasses, hOnce⟩ := convert_expression_failure orders 5
  refine ⟨?_, ?_⟩
  · obtain ⟨error, h', hEvaluate, hError⟩ : ∃ error h',
        orders.evaluator.evaluate 5 text [] = some (.error error, h') ∧ some error = some failure :=
      exists_error_of_failureOf? (by decide +kernel)
    obtain rfl := Option.some.inj hError
    have hAsked : (orders.evaluator.evaluate 5 text []).map (fun r => History.expressionsAt r.2 1) =
        some ["next", "after 1", "next", "after 2", "next"] := by decide +kernel
    rw [hEvaluate] at hAsked
    obtain ⟨fails, hErrors⟩ := hEvaluation _ _ _ _ _ hEvaluate
    exact ⟨h', hEvaluate, fails, hErrors, Option.some.inj hAsked⟩
  · obtain ⟨error, h', hConvert, hError⟩ : ∃ error h',
        orders.convert 5 "${order}" .integer [] = some (.error error, h') ∧
          ArgumentError.failure? error = some failure :=
      exists_error_of_failureOf? (by decide +kernel)
    have hAsked : (orders.convert 5 "${order}" .integer []).map
        (fun r => History.expressionsAt r.2 1) = some ["next", "next", "after 2", "next"] := by
      decide +kernel
    rw [hConvert] at hAsked
    cases error with
    | conversion fault => cases hError
    | expression found =>
      obtain rfl : found = failure := Option.some.inj hError
      obtain ⟨once, hConversions⟩ := hOnce _ _ _ _ _ hConvert
      obtain ⟨-, begun, now, begins, -, -, hText⟩ := (hPasses _ _ _ _ _).1 hConvert
      exact ⟨h', hConvert, ⟨begun, now, begins, hText (by decide)⟩, once, hConversions,
        Option.some.inj hAsked⟩

end Engine

end StepArguments
