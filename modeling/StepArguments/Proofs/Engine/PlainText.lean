import StepArguments.Proofs.Engine.Satisfaction
import StepArguments.Proofs.Evaluator.Settling
import StepArguments.Proofs.Resolver.NativeValue
import StepArguments.Proofs.Table.Cells

/-! # Text without markup

A step argument that holds neither a placeholder nor an expression is converted as it stands, and
neither the store nor a provider or processor is asked for anything (`convert_plainText`).  The
engine goes another way than the converter for it: through a pass of its own, whatever the depth, then
past the types that the text satisfies already or that are optional, and once more over the cells of a
table.  Each of these steps leaves plain text as it is and records no question.
-/

namespace StepArguments

theorem Expression.find?_zero (strategy : Strategy) (text : String) :
    find? strategy text 0 = (cut? strategy text.toList).map (ofCut 0) := by
  simp [find?, Text.Utf8.drop?]

/-- Whether an event is a question to the store, to a provider or to a processor. -/
def Event.asks : Event → Bool
  | .lookup _ | .provider _ | .processor .. => true
  | .conversion .. | .report _ => false

/-- Between two points of a run none of these questions is put. -/
def History.NothingAsked (h later : History) : Prop :=
  ∃ events, later = events ++ h ∧ ∀ event ∈ events, event.asks = false

theorem History.NothingAsked.refl (h : History) : NothingAsked h h :=
  ⟨[], rfl, by simp⟩

theorem History.nothingAsked_cons {event : Event} (hEvent : event.asks = false) (h : History) :
    NothingAsked h (event :: h) :=
  ⟨[event], rfl, by simpa using hEvent⟩

theorem History.NothingAsked.trans {h later last : History} (first : NothingAsked h later)
    (second : NothingAsked later last) : NothingAsked h last := by
  obtain ⟨events, rfl, hEvents⟩ := first
  obtain ⟨more, rfl, hMore⟩ := second
  refine ⟨more ++ events, (List.append_assoc more events h).symm, ?_⟩
  exact List.forall_mem_append.2 ⟨hMore, hEvents⟩

/-- A text that holds no placeholder and no expression. -/
structure PlainText (text : String) : Prop where
  noPlaceholder : Placeholder.find? text 0 = none
  noExpression : Expression.find? .reluctant text 0 = none

variable {text : String} {target : TargetType}

namespace PlainText

theorem unmarked (plain : PlainText text) : ¬ Placeholder.Marked text.toList := by
  have hFind := plain.noPlaceholder
  rw [Placeholder.find?_zero, Option.map_eq_none_iff] at hFind
  exact Placeholder.not_marked_iff.2 hFind

/-- No strategy finds an expression, though only the reluctant one was asked. -/
theorem cut?_eq_none (plain : PlainText text) (strategy : Strategy) :
    Expression.cut? strategy text.toList = none := by
  have hFind := plain.noExpression
  rw [Expression.find?_zero, Option.map_eq_none_iff] at hFind
  exact Expression.cut?_eq_none_of_cut?_eq_none strategy hFind

/-- The text that a pass takes for the absent value is an expression. -/
theorem ne_nullExpression (plain : PlainText text) : text ≠ Engine.nullExpression := by
  rintro rfl
  have hCut := plain.cut?_eq_none .reluctant
  have hFound : (Expression.cut? .reluctant Engine.nullExpression.toList).isSome := by decide
  rw [hCut] at hFound
  cases hFound

end PlainText

/-! ## Resolving and evaluating -/

theorem Resolver.resolve_of_unmarked (r : Resolver) (unmarked : ¬ Placeholder.Marked text.toList)
    (h : History) : r.resolve text h = (.text text, h) := by
  simp [resolve, resolveFrom_of_cut?_eq_none (Placeholder.not_marked_iff.1 unmarked)]

namespace Evaluator

variable {strategy : Strategy}

theorem settle_of_cut?_eq_none (e : Evaluator)
    (hCut : Expression.cut? strategy text.toList = none) (passes : Nat) (h : History) :
    e.settle strategy (passes + 1) text h = some (.ok (.text text), h) := by
  rw [settle, pass_of_cut?_eq_none hCut]
  simp

theorem evaluate_of_plainText (e : Evaluator) (plain : PlainText text) (passes : Nat) (h : History) :
    ∃ h', e.evaluate (passes + 1) text h = some (.ok (.text text), h') ∧ h.NothingAsked h' := by
  rw [evaluate]
  split
  · exact ⟨_, rfl, History.nothingAsked_cons rfl h⟩
  · refine ⟨h, ?_, .refl h⟩
    -- one turn of each strategy, of which the greedy one sees that nothing changes
    have hReluctant := e.settle_of_cut?_eq_none (plain.cut?_eq_none .reluctant) passes h
    have hGreedy := e.settle_of_cut?_eq_none (plain.cut?_eq_none .greedy) passes h
    rw [alternate_succ_of_texts hReluctant hGreedy, if_pos rfl]
    rfl

end Evaluator

/-! ## Conversion of plain text -/

theorem convertText_of_isBlankFor (hBlank : Engine.isBlankFor target (.text text) = true) :
    convertText text target = .ok .null := by
  cases target with
  | optional inner =>
    rw [convertText]
    exact if_pos hBlank
  | _ => cases hBlank

/-- A text that satisfies a type as it is and is no blank for it converts to itself. -/
theorem convertText_of_satisfiedBy (notBlank : Engine.isBlankFor target (.text text) = false)
    (hSatisfied : target.satisfiedBy (.text text) = true) :
    convertText text target = .ok (.text text) := by
  induction target with
  | text | any => rfl
  | optional inner ih =>
    have hBlank : Text.isBlankText text = false := notBlank
    have hInner : Engine.isBlankFor inner (.text text) = false := by
      cases inner with
      | optional _ => exact hBlank
      | _ => rfl
    rw [convertText, hBlank]
    exact ih hInner hSatisfied
  | _ => cases hSatisfied

theorem unmarked_of_convertText {headers : List String} {rows : List Bindings}
    (unmarked : ¬ Placeholder.Marked text.toList)
    (hConvert : convertText text target = .ok (.table headers rows)) :
    ∀ row ∈ rows, Table.Unmarked row := by
  induction target with
  | text | any | steps => cases hConvert
  | table =>
    rw [convertText] at hConvert
    split at hConvert
    · rename_i table hParse
      obtain ⟨rfl, rfl⟩ := Value.table.inj (Except.ok.inj hConvert)
      exact Table.unmarked_of_parse unmarked hParse
    · cases hConvert
  | optional inner ih =>
    rw [convertText] at hConvert
    split at hConvert
    · cases hConvert
    · exact ih hConvert
  | integer | float | boolean | bytes | list | map =>
    -- a table satisfies none of these types
    have hSatisfied := satisfiedBy_of_convertText (by simp [TargetType.innermost]) hConvert
    cases hSatisfied

namespace Engine

variable {e : Engine} {h : History}

/-! ## Cells -/

theorem resolveRow_of_unmarked (e : Engine) {row : Bindings} (unmarked : Table.Unmarked row)
    (h : History) : e.resolveRow row h = (row, h) := by
  induction row with
  | nil => rfl
  | cons entry row ih =>
    obtain ⟨hEntry, hRow⟩ := List.forall_mem_cons.1 unmarked
    obtain ⟨name, value⟩ := entry
    cases value with
    | text cell =>
      have hCell := e.resolver.resolve_of_unmarked (hEntry cell rfl) h
      simp only [resolveRow, hCell, ih hRow]
    | _ => simp only [resolveRow, ih hRow]

theorem resolveRows_of_unmarked (e : Engine) {rows : List Bindings}
    (unmarked : ∀ row ∈ rows, Table.Unmarked row) (h : History) :
    e.resolveRows rows h = (rows, h) := by
  induction rows with
  | nil => rfl
  | cons row rows ih =>
    obtain ⟨hRow, hRows⟩ := List.forall_mem_cons.1 unmarked
    simp only [resolveRows, e.resolveRow_of_unmarked hRow, ih hRows]

theorem resolveCells_of_convertText {value : Value} (e : Engine)
    (unmarked : ¬ Placeholder.Marked text.toList) (hConvert : convertText text target = .ok value)
    (h : History) : e.resolveCells value h = (value, h) := by
  cases value with
  | table headers rows =>
    have hRows := unmarked_of_convertText unmarked hConvert
    simp only [resolveCells, e.resolveRows_of_unmarked hRows]
  | _ => rfl

/-! ## Fitting -/

theorem nothingAsked_convertResolved (e : Engine) (text : String) (target : TargetType)
    (h : History) : h.NothingAsked (e.convertResolved text target h).2 := by
  have asked (target : TargetType) : h.NothingAsked (e.ask text target h).2 :=
    History.nothingAsked_cons rfl h
  induction target with
  | optional inner ih =>
    rw [convertResolved]
    split
    · exact .refl h
    · exact ih
  | _ => exact asked _

/-- Whichever way a text that holds no placeholder takes to its type, it comes to what the converter
    makes of it. -/
theorem fit_of_unmarked (standard : e.converter = convertText)
    (unmarked : ¬ Placeholder.Marked text.toList) (target : TargetType) (h : History) :
    ∃ h', e.fit target (.text text) h = ((convertText text target).mapError .conversion, h') ∧
      h.NothingAsked h' := by
  rw [fit_eq]
  -- blank text of an optional type, text that fits as it is, and all else through the converter
  split
  · rename_i hBlank
    rw [convertText_of_isBlankFor hBlank]
    exact ⟨h, rfl, .refl h⟩
  · rename_i hBlank
    rw [Bool.not_eq_true] at hBlank
    split
    · rename_i hSatisfied
      rw [convertText_of_satisfiedBy hBlank hSatisfied]
      exact ⟨h, rfl, .refl h⟩
    · have hResult := convertResolved_fst standard text target h
      have hAsked := e.nothingAsked_convertResolved text target h
      rw [Value.display_text, ← hResult]
      rcases hConvert : e.convertResolved text target h with ⟨_ | value, later⟩
      all_goals rw [hConvert] at hResult hAsked
      · exact ⟨later, rfl, hAsked⟩
      · cases hText : convertText text target with
        | error fault =>
          rw [hText] at hResult
          cases hResult
        | ok converted =>
          rw [hText] at hResult
          obtain rfl : value = converted := Except.ok.inj hResult
          refine ⟨later, ?_, hAsked⟩
          simp only [resolveCells_of_convertText e unmarked hText]

/-! ## Resolving -/

theorem pass_of_plainText (e : Engine) (plain : PlainText text) (passes : Nat)
    (target : TargetType) (h : History) :
    ∃ h', e.pass (passes + 1) target text h = some (.ok (.text text), h') ∧ h.NothingAsked h' := by
  obtain ⟨h', hEvaluate, hAsked⟩ := e.evaluator.evaluate_of_plainText plain passes h
  refine ⟨h', ?_, hAsked⟩
  have hText : (Value.text text).asText? ≠ some nullExpression := fun hNull =>
    plain.ne_nullExpression (Option.some.inj hNull)
  simp only [pass, e.resolver.resolve_of_unmarked plain.unmarked h]
  rw [if_neg hText, if_pos (.inr rfl), Value.display_text, hEvaluate]
  rfl

theorem settle_of_plainText (e : Engine) (plain : PlainText text) (passes : Nat)
    (target : TargetType) (depth : Nat) (h : History) :
    ∃ h', e.settle (passes + 1) target text depth text h = some (.ok (.text text), h') ∧
      h.NothingAsked h' := by
  cases depth with
  | zero =>
    -- the one pass that is made without any depth comes after the report that there is none
    have reported : h.NothingAsked (.report (.depthExhausted text e.settings.maxDepth) :: h) :=
      History.nothingAsked_cons rfl h
    obtain ⟨h', hPass, hAsked⟩ := e.pass_of_plainText plain passes target _
    exact ⟨h', hPass, reported.trans hAsked⟩
  | succ depth =>
    obtain ⟨h', hPass, hAsked⟩ := e.pass_of_plainText plain passes target h
    refine ⟨h', ?_, hAsked⟩
    rw [settle, hPass]
    exact if_pos rfl

/-! ## Conversion -/

/-- With the standard converter, text without markup is converted to its type as the converter does
    it, to the same value or with the same error, and no one is asked for anything. -/
theorem convert_plainText (e : Engine) (standard : e.converter = convertText) (passes : Nat)
    (raw : String) (plain : PlainText raw) (target : TargetType) (h : History) :
    ∃ h', e.convert (passes + 1) raw target h =
        some ((convertText raw target).mapError .conversion, h') ∧ h.NothingAsked h' := by
  rw [convert]
  split
  · rename_i hSteps
    subst hSteps
    refine ⟨.conversion raw .steps :: h, ?_, History.nothingAsked_cons rfl h⟩
    rw [ask, standard]
  · obtain ⟨resolved, hText, hAsked⟩ :=
      e.settle_of_plainText plain passes target e.settings.maxDepth h
    obtain ⟨h', hFit, hAskedLater⟩ := fit_of_unmarked standard plain.unmarked target resolved
    refine ⟨h', ?_, hAsked.trans hAskedLater⟩
    rw [resolveText, hText]
    exact congrArg some hFit

/-- A dry run without any depth, whose store knows a key and whose only processor always fails. -/
def prices : Engine where
  settings := { maxDepth := 0, dryRun := true }
  store := { story := [("a", .text "12")] }
  processors := [fun _ _ => .error (.evaluation "no such price")]

/-- A table with one cell, in which a pipe stands inside of what else were an opener. -/
def priceTable : String := "|price|\n|$\\|{a}|"

theorem convert_plainText_prices :
    prices.converter = convertText ∧ PlainText priceTable ∧
      ∃ h', prices.convert 1 priceTable (.optional .table) [] =
          some (.ok (.table ["price"] [[("price", .text "$|{a}")]]), h') ∧
        History.NothingAsked [] h' := by
  have standard : prices.converter = convertText := rfl
  have plain : PlainText priceTable := ⟨by decide +kernel, by decide +kernel⟩
  have hTable : convertText priceTable (.optional .table) =
      .ok (.table ["price"] [[("price", .text "$|{a}")]]) := rfl
  have converts := convert_plainText prices standard 0 priceTable plain (.optional .table) []
  rw [hTable] at converts
  exact ⟨standard, plain, converts⟩

end Engine

end StepArguments
