import StepArguments.Engine
import StepArguments.Proofs.Conversion.Satisfaction

/-! # Step arguments fit their type

A value leaves the conversion of a step argument on several ways: as the absent value, as a value
that satisfies the type already, or through its text and the converter, with the cells of a table
resolved once more.  On each of them it satisfies the type or is absent (`satisfiedBy_of_fit`).  With
the standard converter the engine's own treatment of optional types is the converter's
(`convertResolved_fst`), so nothing is to be said about it twice.
-/

namespace StepArguments.Engine

variable {e : Engine} {target : TargetType} {value : Value} {h h' : History} {passes depth : Nat}
  {text start : String} {error : ArgumentError}

/-! ## Converted text -/

theorem convertResolved_fst (standard : e.converter = convertText) (text : String)
    (target : TargetType) (h : History) :
    (e.convertResolved text target h).1 = (convertText text target).mapError .conversion := by
  induction target with
  | optional inner ih =>
    rw [convertResolved, convertText]
    split
    · rfl
    · exact ih
  | _ => rw [convertResolved, ask, standard]; simp

theorem satisfiedBy_of_convertResolved (standard : e.converter = convertText)
    (hTarget : target.innermost ≠ .steps)
    (hConvert : e.convertResolved text target h = (.ok value, h')) :
    target.satisfiedBy value = true := by
  have hResult := convertResolved_fst standard text target h
  rw [hConvert] at hResult
  cases hText : convertText text target with
  | error fault =>
    rw [hText] at hResult
    cases hResult
  | ok converted =>
    rw [hText] at hResult
    obtain rfl : value = converted := Except.ok.inj hResult
    exact satisfiedBy_of_convertText hTarget hText

theorem satisfiedBy_resolveCells (e : Engine) (target : TargetType) (value : Value) (h : History) :
    target.satisfiedBy (e.resolveCells value h).1 = target.satisfiedBy value := by
  cases value with
  | table headers rows => exact target.satisfiedBy_table headers headers _ rows
  | _ => rfl

/-! ## Fitting -/

/-- Whether a value is text that means none of an optional type. -/
def isBlankFor : TargetType → Value → Bool
  | .optional _, .text s => Text.isBlankText s
  | _, _ => false

theorem fit_eq (e : Engine) (target : TargetType) (value : Value) (h : History) :
    e.fit target value h =
      if isBlankFor target value then (.ok .null, h)
      else if value.isNull || target.satisfiedBy value then (.ok value, h)
      else
        match e.convertResolved value.display target h with
        | (.ok value, h) => (.ok (e.resolveCells value h).1, (e.resolveCells value h).2)
        | failed => failed := rfl

theorem satisfiedBy_of_fit (standard : e.converter = convertText)
    (hTarget : target.innermost ≠ .steps) {fitted : Value}
    (hFit : e.fit target value h = (.ok fitted, h')) :
    fitted = .null ∨ target.satisfiedBy fitted = true := by
  rw [fit_eq] at hFit
  split at hFit
  · obtain ⟨hNull, -⟩ := Prod.mk.inj hFit
    exact .inl (Except.ok.inj hNull).symm
  · split at hFit
    · rename_i hStays
      obtain ⟨hSame, -⟩ := Prod.mk.inj hFit
      obtain rfl := Except.ok.inj hSame
      rcases Bool.or_eq_true_iff.1 hStays with hNull | hSatisfied
      · cases value with
        | null => exact .inl rfl
        | _ => cases hNull
      · exact .inr hSatisfied
    · split at hFit
      · rename_i converted later hConvert
        obtain ⟨hCells, -⟩ := Prod.mk.inj hFit
        rw [← Except.ok.inj hCells, satisfiedBy_resolveCells]
        exact .inr (satisfiedBy_of_convertResolved standard hTarget hConvert)
      · rename_i hFailed
        exact absurd hFit (hFailed fitted h')

theorem fit_any (e : Engine) (value : Value) (h : History) : e.fit .any value h = (.ok value, h) := by
  have hStays : (value.isNull || TargetType.any.satisfiedBy value) = true :=
    Bool.or_true value.isNull
  rw [fit_eq, if_pos hStays]
  rfl

/-! ## Failures of passes -/

theorem exists_expression_of_pass (hPass : e.pass passes target text h = some (.error error, h')) :
    ∃ failure, error = .expression failure := by
  simp only [pass] at hPass
  split at hPass
  · cases hPass
  · split at hPass
    · obtain ⟨⟨outcome, later⟩, -, hResult⟩ := Option.map_eq_some_iff.1 hPass
      cases outcome with
      | error failure =>
        obtain ⟨hError, -⟩ := Prod.mk.inj hResult
        exact ⟨failure, (Except.error.inj hError).symm⟩
      | ok value => cases hResult
    · cases hPass

theorem exists_expression_of_settle
    (hSettle : e.settle passes target start depth text h = some (.error error, h')) :
    ∃ failure, error = .expression failure := by
  induction depth generalizing text h with
  | zero => exact exists_expression_of_pass hSettle
  | succ depth ih =>
    rw [settle] at hSettle
    split at hSettle
    · split at hSettle
      · cases hSettle
      · exact ih hSettle
    · exact exists_expression_of_pass hSettle

/-! ## Soundness -/

/-- With the standard converter a converted step argument satisfies its type or is absent, a step
    argument without a type fails only if an expression does, and the items of a list between commas
    satisfy the type of its elements. -/
theorem convert_satisfies (e : Engine) (standard : e.converter = convertText) :
    (∀ passes raw target h value h', target.innermost ≠ .steps →
      e.convert passes raw target h = some (.ok value, h') →
        value = .null ∨ target.satisfiedBy value = true) ∧
    (∀ passes raw h error h', e.resolve passes raw h = some (.error error, h') →
      ∃ failure, error = .expression failure) ∧
    (∀ text element value, element.innermost ≠ .steps → Text.trimChars text.toList ≠ [] →
      (Text.trimChars text.toList).head? ≠ some '[' →
      e.converter text (.list element) = .ok value →
        ∃ items, value = .list items ∧
          items.length = (Text.splitAt ',' (Text.trimChars text.toList)).length ∧
          ∀ item ∈ items, element.satisfiedBy item = true) := by
  refine ⟨?_, ?_, ?_⟩
  · intro passes raw target h value h' hTarget hConvert
    rw [convert] at hConvert
    split at hConvert
    · rename_i hSteps
      exact absurd (congrArg TargetType.innermost hSteps) hTarget
    · obtain ⟨⟨resolved, later⟩, -, hResult⟩ := Option.map_eq_some_iff.1 hConvert
      cases resolved with
      | error failure => cases hResult
      | ok resolved => exact satisfiedBy_of_fit standard hTarget hResult
  · intro passes raw h error h' hResolve
    rw [resolve, convert, if_neg (by simp)] at hResolve
    obtain ⟨⟨resolved, later⟩, hText, hResult⟩ := Option.map_eq_some_iff.1 hResolve
    cases resolved with
    | error failure =>
      obtain ⟨hError, -⟩ := Prod.mk.inj hResult
      rw [← Except.error.inj hError]
      exact exists_expression_of_settle hText
    | ok resolved =>
      have hValue := hResult.symm.trans (fit_any e resolved later)
      cases hValue
  · intro text element value hElement hItems hOpening hConvert
    rw [standard] at hConvert
    exact exists_items_of_convertText hElement hItems hOpening hConvert

/-- A list between commas in the store, and a processor that always fails. -/
def sizes : Engine where
  store := { story := [("sizes", .text "1, 2")] }
  processors := [fun _ _ => .error (.evaluation "no such size")]

theorem convert_satisfies_sizes :
    sizes.converter = convertText ∧
      (∃ value h', (TargetType.optional (.list .integer)).innermost ≠ .steps ∧
        sizes.convert 2 "${sizes}" (.optional (.list .integer)) [] = some (.ok value, h') ∧
        (value = .null ∨ (TargetType.optional (.list .integer)).satisfiedBy value = true)) ∧
      (∃ error h', sizes.resolve 2 "#{size}" [] = some (.error error, h') ∧
        ∃ failure, error = .expression failure) ∧
      ∃ value, Text.trimChars "1, 2".toList ≠ [] ∧
        (Text.trimChars "1, 2".toList).head? ≠ some '[' ∧
        sizes.converter "1, 2" (.list .integer) = .ok value ∧
        ∃ items, value = .list items ∧ items.length = 2 ∧
          ∀ item ∈ items, TargetType.integer.satisfiedBy item = true := by
  have standard : sizes.converter = convertText := rfl
  obtain ⟨hValues, hErrors, hItems⟩ := convert_satisfies sizes standard
  refine ⟨standard, ?_, ?_, ?_⟩
  · have hTarget : (TargetType.optional (.list .integer)).innermost ≠ .steps := by decide
    have hConverts : ((sizes.convert 2 "${sizes}" (.optional (.list .integer)) []).bind
        fun r => r.1.toOption).isSome = true := by decide +kernel
    obtain ⟨value, hValue⟩ := Option.isSome_iff_exists.1 hConverts
    obtain ⟨⟨result, h'⟩, hConvert, hResult⟩ := Option.bind_eq_some_iff.1 hValue
    cases result with
    | error error => cases hResult
    | ok value => exact ⟨value, h', hTarget, hConvert, hValues _ _ _ _ _ _ hTarget hConvert⟩
  · have hResolves : ((sizes.resolve 2 "#{size}" []).map fun r => r.1.toOption.isNone) =
        some true := by decide +kernel
    obtain ⟨⟨result, h'⟩, hResolve, hResult⟩ := Option.map_eq_some_iff.1 hResolves
    cases result with
    | error error => exact ⟨error, h', hResolve, hErrors _ _ _ _ _ hResolve⟩
    | ok value => cases hResult
  · have hTrimmed : Text.trimChars "1, 2".toList ≠ [] := by decide +kernel
    have hOpening : (Text.trimChars "1, 2".toList).head? ≠ some '[' := by decide +kernel
    have hConverts : (sizes.converter "1, 2" (.list .integer)).toOption.isSome = true := by
      decide +kernel
    obtain ⟨value, hValue⟩ := Option.isSome_iff_exists.1 hConverts
    cases hConvert : sizes.converter "1, 2" (.list .integer) with
    | error fault =>
      rw [hConvert] at hValue
      cases hValue
    | ok value =>
      obtain ⟨items, rfl, hLength, hEach⟩ :=
        hItems "1, 2" .integer value (by decide) hTrimmed hOpening hConvert
      exact ⟨_, hTrimmed, hOpening, rfl, items, rfl, hLength.trans (by decide +kernel), hEach⟩

end StepArguments.Engine
