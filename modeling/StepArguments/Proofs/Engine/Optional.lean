import StepArguments.Proofs.Engine.Satisfaction
import StepArguments.Proofs.Evaluator.Fixpoint

/-! # Optional step arguments

An optional type is meant to add one thing to the type inside it, that blank text means none.  The
satisfaction of types and the converter look through it, and so the way from a resolved value to its
type is the same (`fit_of_fit_optional`).  The way before it is another one for two types, which are
recognized only where they stand by themselves: steps are resolved inside of an optional type, and a
value that is no text does not go on as text there.  `optionalTransparent_iff` says when this makes a
difference, and `not_optionalTransparent` gives a step argument of either type for which it does.
-/

namespace StepArguments

theorem TargetType.satisfiedBy_optional_of_not_null (inner : TargetType) {value : Value}
    (hValue : value.isNull = false) :
    (optional inner).satisfiedBy value = inner.satisfiedBy value := by
  cases value with
  | null => cases hValue
  | _ => rfl

/-- Of the two types of text, one is satisfied by text alone and the other one by nothing. -/
theorem TargetType.exists_text_of_satisfiedBy {target : TargetType} {value : Value}
    (hTarget : target = .text ∨ target = .steps) (hSatisfied : target.satisfiedBy value = true) :
    ∃ s, value = .text s := by
  rcases hTarget with rfl | rfl
  · cases value with
    | text s => exact ⟨s, rfl⟩
    | _ => cases hSatisfied
  · cases hSatisfied

namespace Engine

variable {e : Engine} {raw start text : String} {target target' : TargetType}
  {value resolved : Value} {h h' : History} {passes depth : Nat}

/-! ## The way through the passes -/

/-- Passes make no difference between types but whether they are text. -/
theorem settle_congr (e : Engine) (hText : target = .text ↔ target' = .text) (passes : Nat)
    (start : String) (depth : Nat) (text : String) (h : History) :
    e.settle passes target start depth text h = e.settle passes target' start depth text h := by
  have hPass (text : String) (h : History) :
      e.pass passes target text h = e.pass passes target' text h := by
    simp only [pass, hText]
  induction depth generalizing text h with
  | zero => exact hPass start _
  | succ depth ih =>
    simp only [settle, hPass, ih]

theorem pass_text_of_pass (hPass : e.pass passes target raw h = some (.ok (.text text), h')) :
    e.pass passes .text raw h = some (.ok (.text text), h') := by
  rcases hResolve : e.resolver.resolve raw h with ⟨value, later⟩
  simp only [pass, hResolve] at hPass ⊢
  by_cases hNull : value.asText? = some nullExpression
  · rw [if_pos hNull] at hPass
    cases hPass
  · rw [if_neg hNull] at hPass ⊢
    by_cases hText : target = .text ∨ value.isText
    · rw [if_pos hText] at hPass
      rw [if_pos (.inl trivial)]
      exact hPass
    · rw [if_neg hText] at hPass
      obtain ⟨hValue, -⟩ := Prod.mk.inj (Option.some.inj hPass)
      rw [Except.ok.inj hValue] at hText
      exact absurd (.inr rfl) hText

/-- Passes that end with a text have met no other value on their way. -/
theorem settle_text_of_settle
    (hSettle : e.settle passes target start depth raw h = some (.ok (.text text), h')) :
    e.settle passes .text start depth raw h = some (.ok (.text text), h') := by
  induction depth generalizing raw h with
  | zero => exact pass_text_of_pass hSettle
  | succ depth ih =>
    rw [settle] at hSettle ⊢
    split at hSettle
    · rename_i next later hPass
      rw [pass_text_of_pass hPass]
      dsimp only
      split at hSettle
      · rename_i hSame
        rw [if_pos hSame]
        exact hSettle
      · rename_i hOther
        rw [if_neg hOther]
        exact ih hSettle
    · rename_i hEnds
      exact absurd hSettle (hEnds text h')

/-! ## The way from a value to its type -/

/-- A value that is not absent as an optional one takes the way of the inner type. -/
theorem fit_of_fit_optional
    (hFit : e.fit (.optional target) resolved h = (.ok value, h')) (hValue : value.isNull = false) :
    e.fit target resolved h = (.ok value, h') := by
  have not_null {later later' : History}
      (hNull : ((.ok .null, later) : Except ArgumentError Value × History) = (.ok value, later')) :
      False := by
    obtain ⟨hSame, -⟩ := Prod.mk.inj hNull
    rw [← Except.ok.inj hSame] at hValue
    cases hValue
  rw [fit_eq] at hFit ⊢
  by_cases hBlank : isBlankFor (.optional target) resolved = true
  · rw [if_pos hBlank] at hFit
    exact (not_null hFit).elim
  · -- what is blank for the inner type is blank for the optional one
    have hInner : ¬ isBlankFor target resolved = true := by
      intro hBlankInner
      cases target with
      | optional inner => cases resolved <;> exact hBlank hBlankInner
      | _ => cases hBlankInner
    rw [if_neg hBlank] at hFit
    rw [if_neg hInner]
    by_cases hNull : resolved.isNull = true
    · cases resolved with
      | null => exact (not_null hFit).elim
      | _ => cases hNull
    · rw [Bool.not_eq_true] at hNull
      rw [TargetType.satisfiedBy_optional_of_not_null target hNull] at hFit
      split
      · rename_i hStays
        rw [if_pos hStays] at hFit
        exact hFit
      · rename_i hConverts
        rw [if_neg hConverts, convertResolved] at hFit
        split at hFit
        · rename_i converted later hConverted
          split at hConverted
          · obtain ⟨hAbsent, -⟩ := Prod.mk.inj hConverted
            rw [← Except.ok.inj hAbsent] at hFit
            exact (not_null hFit).elim
          · rw [hConverted]
            exact hFit
        · rename_i hFailed
          exact absurd hFit (hFailed value h')

/-! ## Types of text -/

theorem fit_fst_of_convertText (standard : e.converter = convertText)
    (hBlank : isBlankFor target resolved = false)
    (hStays : (resolved.isNull || target.satisfiedBy resolved) = false)
    (hConvert : convertText resolved.display target = .ok value)
    (hCells : ∀ later, (e.resolveCells value later).1 = value) (h : History) :
    (e.fit target resolved h).1 = .ok value := by
  have hResult := convertResolved_fst standard resolved.display target h
  rw [hConvert] at hResult
  rcases hConverted : e.convertResolved resolved.display target h with ⟨result, later⟩
  rw [hConverted] at hResult
  obtain rfl : result = .ok value := hResult
  rw [fit_eq, hBlank, hStays, hConverted]
  exact congrArg Except.ok (hCells later)

/-- Whether a value is there as an optional one: it is neither absent nor blank. -/
def shown (value : Value) : Bool :=
  !value.isNull && !Text.isBlankText value.display

theorem fit_text_fst (standard : e.converter = convertText) (hValue : resolved.isNull = false)
    (h : History) : (e.fit .text resolved h).1 = .ok (.text resolved.display) := by
  cases resolved with
  | null => cases hValue
  | text s =>
    rw [Value.display_text]
    rfl
  | _ => exact fit_fst_of_convertText standard rfl rfl rfl (fun _ => rfl) h

theorem convertText_optional (hTarget : target = .text ∨ target = .steps) (text : String) :
    convertText text (.optional target) =
      .ok (if Text.isBlankText text then .null else .text text) := by
  rw [convertText]
  split
  · rfl
  · rcases hTarget with rfl | rfl <;> rfl

/-- As an optional value of one of the two types of text, a value that is there is its text. -/
theorem fit_optional_fst (standard : e.converter = convertText)
    (hTarget : target = .text ∨ target = .steps) (resolved : Value) (h : History) :
    (e.fit (.optional target) resolved h).1 =
      .ok (if shown resolved then .text resolved.display else .null) := by
  have hConvert := convertText_optional hTarget resolved.display
  cases hBlank : isBlankFor (.optional target) resolved with
  | true =>
    -- only text is blank for a type
    cases resolved with
    | text s =>
      have hShown : shown (.text s) = false := by
        rw [shown, Value.display_text]
        exact congrArg not hBlank
      rw [fit_eq, if_pos hBlank, hShown]
      rfl
    | _ => cases hBlank
  | false =>
    cases hNull : resolved.isNull with
    | true =>
      cases resolved with
      | null => rfl
      | _ => cases hNull
    | false =>
      have hShown : shown resolved = !Text.isBlankText resolved.display := by
        rw [shown, hNull]
        rfl
      have hSatisfied := TargetType.satisfiedBy_optional_of_not_null target hNull
      -- text that is asked for as text stays, and all else goes through the converter
      cases hStays : target.satisfiedBy resolved with
      | true =>
        obtain ⟨s, rfl⟩ := TargetType.exists_text_of_satisfiedBy hTarget hStays
        have hText : Text.isBlankText s = false := hBlank
        rw [fit_eq, hBlank, hSatisfied, hStays, hShown, Value.display_text, hText]
        rfl
      | false =>
        rw [hShown]
        refine fit_fst_of_convertText standard hBlank ?_ (hConvert.trans ?_) ?_ h
        · rw [hNull, hSatisfied, hStays]
          rfl
        · cases Text.isBlankText resolved.display <;> rfl
        · intro later
          cases Text.isBlankText resolved.display <;> rfl

/-! ## The two ways together -/

/-- From a point of a run on, a text resolves to a value, given enough passes for its
    expressions. -/
def Resolves (e : Engine) (raw : String) (target : TargetType) (h : History) (value : Value) :
    Prop :=
  ∃ passes h', e.resolveText passes raw target h = some (.ok value, h')

/-- From a point of a run on, a step argument converts to a value, given enough passes for its
    expressions. -/
def Converts (e : Engine) (raw : String) (target : TargetType) (h : History) (value : Value) :
    Prop :=
  ∃ passes h', e.convert passes raw target h = some (.ok value, h')

theorem converts_steps_iff (standard : e.converter = convertText) :
    e.Converts raw .steps h value ↔ value = .text raw := by
  have hConvert (passes : Nat) : e.convert passes raw .steps h =
      some (.ok (.text raw), .conversion raw .steps :: h) := by
    rw [convert, if_pos rfl, ask, standard]
    rfl
  constructor
  · rintro ⟨passes, h', hConverts⟩
    rw [hConvert] at hConverts
    obtain ⟨hValue, -⟩ := Prod.mk.inj (Option.some.inj hConverts)
    exact (Except.ok.inj hValue).symm
  · rintro rfl
    exact ⟨0, _, hConvert 0⟩

theorem Converts.exists_fit (converts : e.Converts raw target h value) (hSteps : target ≠ .steps) :
    ∃ passes resolved later h', e.resolveText passes raw target h = some (.ok resolved, later) ∧
      e.fit target resolved later = (.ok value, h') := by
  obtain ⟨passes, h', hConvert⟩ := converts
  rw [convert, if_neg hSteps] at hConvert
  obtain ⟨⟨outcome, later⟩, hText, hResult⟩ := Option.map_eq_some_iff.1 hConvert
  cases outcome with
  | error failure =>
    obtain ⟨hError, -⟩ := Prod.mk.inj hResult
    cases hError
  | ok resolved => exact ⟨passes, resolved, later, h', hText, hResult⟩

theorem converts_of_fit {later : History} (hSteps : target ≠ .steps)
    (hText : e.resolveText passes raw target h = some (.ok resolved, later))
    (hFit : (e.fit target resolved later).1 = .ok value) : e.Converts raw target h value := by
  refine ⟨passes, (e.fit target resolved later).2, ?_⟩
  rw [convert, if_neg hSteps, hText, ← hFit]
  rfl

/-- The intended rule: an optional step argument that is there is what it is as an argument of the
    inner type. -/
def OptionalTransparent (e : Engine) (raw : String) (target : TargetType) (h : History) : Prop :=
  ∀ value, e.Converts raw (.optional target) h value → value.isNull = false →
    e.Converts raw target h value

/-- Steps inside of an optional type stay as they are written. -/
def StepsStay (e : Engine) (raw : String) (h : History) : Prop :=
  ∀ value, e.Resolves raw (.optional .steps) h value → shown value = true → value.display = raw

/-- A value that is no text is resolved to its own text where text is asked for. -/
def ValuesStay (e : Engine) (raw : String) (h : History) : Prop :=
  ∀ value, e.Resolves raw (.optional .text) h value → shown value = true → value.isText = false →
    ∃ resolved, e.Resolves raw .text h resolved ∧ resolved.isNull = false ∧
      resolved.display = value.display

theorem converts_optional_iff (standard : e.converter = convertText)
    (hTarget : target = .text ∨ target = .steps) (hValue : value.isNull = false) :
    e.Converts raw (.optional target) h value ↔
      ∃ resolved, e.Resolves raw (.optional target) h resolved ∧ shown resolved = true ∧
        value = .text resolved.display := by
  constructor
  · intro converts
    obtain ⟨passes, resolved, later, h', hText, hFit⟩ := converts.exists_fit (by simp)
    have hResult := fit_optional_fst standard hTarget resolved later
    rw [hFit] at hResult
    obtain rfl := Except.ok.inj hResult
    cases hShown : shown resolved with
    | true => exact ⟨resolved, ⟨passes, later, hText⟩, hShown, rfl⟩
    | false =>
      rw [hShown] at hValue
      cases hValue
  · rintro ⟨resolved, ⟨passes, later, hText⟩, hShown, rfl⟩
    refine converts_of_fit (by simp) hText ?_
    rw [fit_optional_fst standard hTarget, hShown, if_pos rfl]

theorem converts_text_iff (standard : e.converter = convertText) (hValue : value.isNull = false) :
    e.Converts raw .text h value ↔
      ∃ resolved, e.Resolves raw .text h resolved ∧ resolved.isNull = false ∧
        value = .text resolved.display := by
  constructor
  · intro converts
    obtain ⟨passes, resolved, later, h', hText, hFit⟩ := converts.exists_fit (by simp)
    cases hNull : resolved.isNull with
    | true =>
      cases resolved with
      | null =>
        obtain ⟨hSame, -⟩ := Prod.mk.inj hFit
        rw [← Except.ok.inj hSame] at hValue
        cases hValue
      | _ => cases hNull
    | false =>
      have hResult := fit_text_fst standard hNull later
      rw [hFit] at hResult
      exact ⟨resolved, ⟨passes, later, hText⟩, hNull, Except.ok.inj hResult⟩
  · rintro ⟨resolved, ⟨passes, later, hText⟩, hNull, rfl⟩
    exact converts_of_fit (by simp) hText (fit_text_fst standard hNull later)

/-- With the standard converter an optional type is transparent, but for two types inside: with steps
    only if resolving them changes nothing, and with text only if a value that is no text has a text
    that is resolved to itself. -/
theorem optionalTransparent_iff (e : Engine) (standard : e.converter = convertText) (raw : String)
    (target : TargetType) (h : History) :
    e.OptionalTransparent raw target h ↔
      (target = .steps → e.StepsStay raw h) ∧ (target = .text → e.ValuesStay raw h) := by
  constructor
  · intro rule
    refine ⟨?_, ?_⟩
    · rintro rfl value resolves hShown
      have converts := (converts_optional_iff standard (.inr rfl) rfl).2 ⟨value, resolves, hShown, rfl⟩
      have hRaw := (converts_steps_iff standard).1 (rule _ converts rfl)
      exact Value.text.inj hRaw
    · rintro rfl value resolves hShown -
      have converts := (converts_optional_iff standard (.inl rfl) rfl).2 ⟨value, resolves, hShown, rfl⟩
      obtain ⟨resolved, resolvesText, hNull, hSame⟩ :=
        (converts_text_iff standard rfl).1 (rule _ converts rfl)
      exact ⟨resolved, resolvesText, hNull, (Value.text.inj hSame).symm⟩
  · rintro ⟨hSteps, hText⟩ value converts hValue
    by_cases isSteps : target = .steps
    · subst isSteps
      obtain ⟨resolved, resolves, hShown, rfl⟩ :=
        (converts_optional_iff standard (.inr rfl) hValue).1 converts
      rw [hSteps rfl resolved resolves hShown]
      exact (converts_steps_iff standard).2 rfl
    · by_cases isText : target = .text
      · subst isText
        obtain ⟨resolved, resolves, hShown, rfl⟩ :=
          (converts_optional_iff standard (.inl rfl) hValue).1 converts
        rw [converts_text_iff standard rfl]
        cases hResolved : resolved.isText with
        | true =>
          cases resolved with
          | text s =>
            -- passes that end with a text do so for either type
            obtain ⟨passes, later, hResolve⟩ := resolves
            exact ⟨.text s, ⟨passes, later, settle_text_of_settle hResolve⟩, rfl, rfl⟩
          | _ => cases hResolved
        | false =>
          obtain ⟨other, resolvesText, hNull, hSame⟩ := hText rfl resolved resolves hShown hResolved
          exact ⟨other, resolvesText, hNull, by rw [hSame]⟩
      · -- the passes are the same, and so is the way from the value on
        obtain ⟨passes, resolved, later, h', hResolve, hFit⟩ := converts.exists_fit (by simp)
        have hSame : (.optional target : TargetType) = .text ↔ target = .text := by simp [isText]
        rw [resolveText, e.settle_congr hSame] at hResolve
        exact converts_of_fit isSteps hResolve
          (congrArg Prod.fst (fit_of_fit_optional hFit hValue))

/-- In a dry run the bound on the passes of an evaluation plays no part. -/
theorem resolveText_of_dryRun (dry : e.settings.dryRun = true) (passes : Nat) (raw : String)
    (target : TargetType) (h : History) :
    e.resolveText passes raw target h = e.resolveText 0 raw target h := by
  have hPass (text : String) (h : History) :
      e.pass passes target text h = e.pass 0 target text h := by
    simp [pass, Evaluator.evaluate, evaluator, dry]
  have hSettle (depth : Nat) (text : String) (h : History) :
      e.settle passes target raw depth text h = e.settle 0 target raw depth text h := by
    induction depth generalizing text h with
    | zero => exact hPass raw _
    | succ depth ih => simp only [settle, hPass, ih]
  exact hSettle e.settings.maxDepth raw h

/-- A dry run with a text, a number and a list, the text of which refers to the text. -/
def parcels : Engine where
  settings := { dryRun := true }
  store := { story := [("a", .text "x"), ("n", .text " 7"), ("l", .list [.text "${a}"])] }

theorem optionalTransparent_parcels :
    parcels.converter = convertText ∧
      parcels.OptionalTransparent "${n}" (.optional .integer) [] ∧
      ∃ value, value.isNull = false ∧ parcels.Converts "${n}" (.optional .integer) [] value := by
  have standard : parcels.converter = convertText := rfl
  have rule : parcels.OptionalTransparent "${n}" (.optional .integer) [] :=
    (optionalTransparent_iff parcels standard "${n}" (.optional .integer) []).2 (by simp)
  refine ⟨standard, rule, ?_⟩
  have hConverts : ((parcels.convert 0 "${n}" (.optional (.optional .integer)) []).bind
      fun r => r.1.toOption.filter (!·.isNull)).isSome := by decide +kernel
  obtain ⟨value, hValue⟩ := Option.isSome_iff_exists.1 hConverts
  obtain ⟨⟨result, h'⟩, hConvert, hResult⟩ := Option.bind_eq_some_iff.1 hValue
  obtain ⟨hOk, hPresent⟩ := Option.filter_eq_some_iff.1 hResult
  cases result with
  | error error => cases hOk
  | ok found =>
    obtain rfl : found = value := Option.some.inj hOk
    have hNull : found.isNull = false := by simpa using hPresent
    exact ⟨found, hNull, rule found ⟨0, h', hConvert⟩ hNull⟩

/-- Steps are resolved inside of an optional type, and a list that is asked for as text is resolved
    further only outside of it. -/
theorem not_optionalTransparent :
    ¬ parcels.OptionalTransparent "${a}" .steps [] ∧
      ¬ parcels.OptionalTransparent "${l}" .text [] := by
  have standard : parcels.converter = convertText := rfl
  constructor
  · intro rule
    have converts : parcels.Converts "${a}" (.optional .steps) [] (.text "x") :=
      ⟨0, Evaluator.eq_text_of_asText? (by decide +kernel)⟩
    have hRaw := (converts_steps_iff standard).1 (rule _ converts rfl)
    exact absurd (Value.text.inj hRaw) (by decide)
  · intro rule
    have converts : parcels.Converts "${l}" (.optional .text) [] (.text "[\"${a}\"]") :=
      ⟨0, Evaluator.eq_text_of_asText? (by decide +kernel)⟩
    obtain ⟨resolved, ⟨passes, later, hText⟩, -, hSame⟩ :=
      (converts_text_iff standard rfl).1 (rule _ converts rfl)
    obtain ⟨h', hFurther⟩ : ∃ h', parcels.resolveText 0 "${l}" .text [] =
        some (.ok (.text "[\"x\"]"), h') := Evaluator.eq_text_of_asText? (by decide +kernel)
    rw [resolveText_of_dryRun rfl, hFurther] at hText
    obtain ⟨hResolved, -⟩ := Prod.mk.inj (Option.some.inj hText)
    rw [← Except.ok.inj hResolved, Value.display_text] at hSame
    exact absurd (Value.text.inj hSame) (by decide)

end Engine

end StepArguments
