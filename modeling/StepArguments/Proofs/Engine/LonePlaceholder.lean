import StepArguments.Proofs.Engine.Failure
import StepArguments.Proofs.Markup.Nesting
import StepArguments.Proofs.Resolver.Prediction
import StepArguments.Proofs.Resolver.Steadiness
import StepArguments.Proofs.Variables.Provenance

/-! # Placeholders that stand alone

A text that is one placeholder goes through the scanner, and a name can be looked up without it.  The
two ways agree for every name that holds no opener and no closing brace, whatever else it is made of
(`resolve_lone`): the scanner finds just this one placeholder, takes its key as it stands and
puts nothing around the value.

A value that is no text then passes through an engine untouched.  It ends the first pass, also the
one that is made when there is no depth at all, before any expression is looked for
(`settle_of_native`), and if it is absent or satisfies the type, no conversion follows
(`convert_lonePlaceholder`).
-/

namespace StepArguments

/-! ## The scanner -/

namespace Placeholder

variable {name part rest : List Char}

/-- A name that holds neither an opener nor a closing brace. -/
structure Flat (name : List Char) : Prop where
  opener : ¬ ['$', '{'] <:+: name
  brace : '}' ∉ name

theorem Flat.of_infix (flat : Flat name) (hPart : part <:+: name) : Flat part where
  opener hOpener := flat.opener (hOpener.trans hPart)
  brace hBrace := flat.brace (hPart.subset hBrace)

theorem Flat.opens (flat : Flat name) : opens name = false := by
  fun_induction Placeholder.opens name with
  | case1 rest => exact absurd (List.prefix_append ['$', '{'] rest).isInfix flat.opener
  | case2 c rest _ ih => exact ih (flat.of_infix (List.suffix_cons c rest).isInfix)
  | case3 => rfl

theorem Flat.nesting (flat : Flat name) : nesting name = 0 := by
  induction name with
  | nil => rfl
  | cons c name ih =>
    have hOpener : c = '$' → name.head? ≠ some '{' := by
      rintro rfl hNext
      obtain ⟨rest, rfl⟩ := List.head?_eq_some_iff.1 hNext
      exact flat.opener (List.prefix_append ['$', '{'] rest).isInfix
    have hBrace : c ≠ '}' := fun hc => flat.brace (hc ▸ List.mem_cons_self)
    rw [nesting_cons hOpener hBrace]
    exact ih (flat.of_infix (List.suffix_cons c name).isInfix)

theorem Flat.balanced (flat : Flat name) : Balanced name where
  zero := by
    rw [writtenAs, List.cons_append, List.cons_append, nesting_opener, nesting_concat_brace,
      flat.nesting]
    rfl
  first part hPart := by
    rw [nesting_opener, (flat.of_infix hPart.isInfix).nesting]
    decide

theorem cut?_writtenAs (balanced : Balanced name) : cut? (writtenAs name) = some ⟨[], name, []⟩ := by
  have hClose : close? 0 (name ++ ['}']) = some (name, []) :=
    close?_zero_eq_some_iff.2 ⟨rfl, balanced⟩
  rw [writtenAs, List.cons_append, List.cons_append, cut?, hClose]

end Placeholder

theorem Template.ofChars_writtenAs {name : List Char} (flat : Placeholder.Flat name) :
    ofChars (Placeholder.writtenAs name) = .placeholder [] (.text name) (.text []) := by
  rw [ofChars_of_cut?_eq_some (Placeholder.cut?_writtenAs flat.balanced),
    ofChars_of_not_opens flat.opens, ofChars_nil]

/-! ## The resolver -/

/-- The text that is a placeholder of a name and nothing else. -/
def Placeholder.lone (name : String) : String :=
  String.ofList (writtenAs name.toList)

namespace Resolver

variable {r : Resolver} {h now : History} {name : String}

theorem answerAt_of_steady (steady : r.dynamic.Steady h) (since : h <:+ now) (key : String) :
    r.answerAt now key = r.answerAt h key := by
  rw [answerAt, answerAt, Dynamic.lookup_eq_of_steady steady since]

theorem value_of_steady (steady : r.dynamic.Steady h) (since : h <:+ now) (key : String) :
    (r.value key now).1 = r.answerAt h key := by
  rw [value_fst, answerAt_of_steady steady (since.trans (List.suffix_cons _ now))]

theorem resolve_lone (steady : r.dynamic.Steady h) (since : h <:+ now)
    (flat : Placeholder.Flat name.toList) :
    (r.resolve (Placeholder.lone name) now).1 =
      (r.answerAt h name).getD (.text (Placeholder.lone name)) := by
  rw [resolve_eq_result steady since, Placeholder.lone, String.toList_ofList,
    Template.ofChars_writtenAs flat, Template.result]
  simp only [Template.native?, Template.meaning, String.ofList_toList]
  cases r.answerAt h name <;> simp [replacement, Placeholder.writtenAs]

end Resolver

/-! ## The engine -/

/-- Whether an event is a question to a processor or to the type converter. -/
def Event.transforms : Event → Bool
  | .processor .. | .conversion .. => true
  | _ => false

/-- Between two points of a run no processor and no type converter is asked. -/
def History.Untransformed (h later : History) : Prop :=
  h.GrowsBy (fun _ event => event.transforms = false) later

namespace Engine

variable {e : Engine} {target : TargetType} {text : String} {value : Value} {now : History}

theorem untransformed_resolve (e : Engine) (text : String) (now : History) :
    now.Untransformed (e.resolver.resolve text now).2 := by
  refine (e.resolver.resolve_eq_found_meaning text now).2.growsBy (fun _ _ => rfl) ?_
  rintro before key event (_ | _ | _) <;> rfl

/-- A value that is no text ends a pass, unless text is asked for. -/
theorem pass_of_native (passes : Nat) (hResolve : (e.resolver.resolve text now).1 = value)
    (hNative : value.isText = false) (hTarget : target ≠ .text) :
    e.pass passes target text now = some (.ok value, (e.resolver.resolve text now).2) := by
  have hText : ¬ (target = .text ∨ value.isText = true) := by simp [hTarget, hNative]
  have hNull : value.asText? ≠ some nullExpression := by
    cases value with
    | text s => cases hNative
    | _ => simp [Value.asText?]
  rw [pass]
  simp only [hResolve, if_neg hNull, if_neg hText]

theorem settle_of_native (passes depth : Nat)
    (hResolve : ∀ later, now <:+ later → (e.resolver.resolve text later).1 = value)
    (hNative : value.isText = false) (hTarget : target ≠ .text) :
    ∃ later, e.settle passes target text depth text now = some (.ok value, later) ∧
      now.Untransformed later := by
  cases depth with
  | zero =>
    -- the one pass that is made without any depth comes after the report that there is none
    let reported : History := .report (.depthExhausted text e.settings.maxDepth) :: now
    have untransformed : now.Untransformed reported := .cons .refl rfl
    have hPass := pass_of_native passes (hResolve reported (List.suffix_cons _ now)) hNative hTarget
    exact ⟨_, hPass, untransformed.trans (e.untransformed_resolve text reported)⟩
  | succ depth =>
    have hPass := pass_of_native passes (hResolve now (List.suffix_refl now)) hNative hTarget
    refine ⟨_, ?_, e.untransformed_resolve text now⟩
    rw [settle, hPass]
    cases value with
    | text s => cases hNative
    | _ => rfl

theorem fit_of_native (hNative : value.isText = false)
    (hFits : value = .null ∨ target.satisfiedBy value = true) (h : History) :
    e.fit target value h = (.ok value, h) := by
  have hBlank : isBlankFor target value = false := by
    cases target with
    | optional inner =>
      cases value with
      | text s => cases hNative
      | _ => rfl
    | _ => rfl
  have hStays : (value.isNull || target.satisfiedBy value) = true := by
    rcases hFits with rfl | hSatisfied
    · rfl
    · rw [hSatisfied, Bool.or_true]
  rw [fit_eq, hBlank, if_pos hStays]
  rfl

/-- A placeholder that stands alone resolves to the value of its name, if there is one, and stays as
    it is otherwise.  A value that is no text is the result of a conversion whenever it is absent or
    satisfies the type, at every depth, and no processor and no converter is asked. -/
theorem convert_lonePlaceholder (name : String) (hOpener : ¬ ['$', '{'] <:+: name.toList)
    (hBrace : '}' ∉ name.toList) :
    (∀ (r : Resolver) h now asked, r.dynamic.Steady h → h <:+ now → h <:+ asked →
      (r.resolve (Placeholder.lone name) now).1 =
        (r.value name asked).1.getD (.text (Placeholder.lone name))) ∧
    (∀ (e : Engine) h now asked value target passes, e.resolver.dynamic.Steady h → h <:+ now →
      h <:+ asked → (e.resolver.value name asked).1 = some value → value.isText = false →
      target ≠ .text → target ≠ .steps → value = .null ∨ target.satisfiedBy value = true →
        ∃ later, e.convert passes (Placeholder.lone name) target now = some (.ok value, later) ∧
          History.Untransformed now later) := by
  have flat : Placeholder.Flat name.toList := ⟨hOpener, hBrace⟩
  refine ⟨?_, ?_⟩
  · intro r h now asked steady since sinceAsked
    rw [Resolver.resolve_lone steady since flat, Resolver.value_of_steady steady sinceAsked]
  · intro e h now asked value target passes steady since sinceAsked hValue hNative hText hSteps hFits
    rw [Resolver.value_of_steady steady sinceAsked] at hValue
    have hResolve (later : History) (hLater : now <:+ later) :
        (e.resolver.resolve (Placeholder.lone name) later).1 = value := by
      rw [Resolver.resolve_lone steady (since.trans hLater) flat, hValue, Option.getD_some]
    obtain ⟨later, hSettle, untransformed⟩ :=
      settle_of_native passes e.settings.maxDepth hResolve hNative hText
    refine ⟨later, ?_, untransformed⟩
    rw [convert, if_neg hSteps, resolveText, hSettle]
    exact congrArg some (fit_of_native hNative hFits later)

/-- A name with a colon, a bracket, a blank, a dollar sign and an opening brace in it. -/
def sizesName : String := "\x7bgrößen:[0 $"

/-- A step with a list under that name, no depth at all, and a processor and a converter that always
    fail. -/
def sealedSizes : Engine where
  settings := { maxDepth := 0 }
  store := { frames := [[(sizesName, .list [.integer 1, .null])]] }
  registry := [("user-name", .constant (.text "Ann"))]
  processors := [fun _ _ => .error (.evaluation "no such size")]
  converter _ target := .error (.unsupported target)

theorem find?_sealedSizes :
    sealedSizes.resolver.find? sizesName = some (.list [.integer 1, .null]) := by
  have hWritten : (Key.parse sizesName).written = sizesName := by
    rw [Key.parse]
    split <;> rfl
  have hBound : Bindings.value? [(sizesName, .list [.integer 1, .null])] sizesName =
      some (.list [.integer 1, .null]) := by
    simp [Bindings.value?, Value.present?, Named.get?_cons, Value.isNull]
  have answered : sealedSizes.store.AnsweredAt (.parse sizesName) 0 .step
      [(sizesName, .list [.integer 1, .null])] (.list [.integer 1, .null]) :=
    ⟨rfl, by rw [Bindings.find?, hWritten, hBound, Option.some_or], by simp⟩
  exact congrArg (Option.map Resolved.value) (answered.resolve?_eq .empty)

theorem convert_lonePlaceholder_sealedSizes :
    ¬ ['$', '{'] <:+: sizesName.toList ∧ '}' ∉ sizesName.toList ∧
      sealedSizes.resolver.dynamic.Steady [] ∧
      (sealedSizes.resolver.value sizesName []).1 = some (.list [.integer 1, .null]) ∧
      (sealedSizes.resolver.resolve (Placeholder.lone sizesName) []).1 =
        .list [.integer 1, .null] ∧
      ∃ later, sealedSizes.convert 0 (Placeholder.lone sizesName) (.optional (.list .text)) [] =
          some (.ok (.list [.integer 1, .null]), later) ∧
        History.Untransformed [] later := by
  have hOpener : ¬ ['$', '{'] <:+: sizesName.toList := by decide +kernel
  have hBrace : '}' ∉ sizesName.toList := by decide +kernel
  have steady : sealedSizes.resolver.dynamic.Steady [] :=
    Dynamic.steady_of_constant (List.forall_mem_singleton.2 ⟨_, rfl⟩) []
  have hValue : (sealedSizes.resolver.value sizesName []).1 =
      some (.list [.integer 1, .null]) := by
    rw [Resolver.value_fst, Resolver.answerAt, find?_sealedSizes, Option.some_or]
  have since : ([] : History) <:+ [] := List.suffix_refl []
  obtain ⟨hResolve, hConvert⟩ := convert_lonePlaceholder sizesName hOpener hBrace
  refine ⟨hOpener, hBrace, steady, hValue, ?_, ?_⟩
  · rw [hResolve sealedSizes.resolver [] [] [] steady since since, hValue, Option.getD_some]
  · exact hConvert sealedSizes [] [] [] _ _ 0 steady since since hValue rfl (by simp) (by simp) (.inr rfl)

end Engine

end StepArguments
