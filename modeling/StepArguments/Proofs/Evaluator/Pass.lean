import StepArguments.Evaluator
import StepArguments.Proofs.Markup.Substitution

/-! # One pass

What the processors make of an expression depends on what they were asked before.  `Evaluator.answer`
is what they make of it at a point of a run (`apply_fst`), and they are steady from that point on if
none of them ever answers otherwise (`Evaluator.Steady`).  Then a pass gives the same wherever in the
rest of the run it is made.  `pass_fst` says what that is, for the two strategies alike:

* the error of the first expression that some processor fails on (`Evaluator.failure?`);
* else the value of the expression that is the whole text, if that value is no text
  (`Evaluator.native?`);
* else the text in which every expression is replaced by what it evaluates to
  (`Expression.substitute` by `Evaluator.replaced`).
-/

namespace StepArguments

namespace Evaluator

/-! ## Answers -/

/-- The answer of the first of some processors that recognizes an expression or fails on it, at a
    point of a run.  The first of the processors stands at a place. -/
def firstAnswer (h : History) (place : Nat) :
    List Processor → String → Except ExpressionError (Option Value)
  | [], _ => .ok none
  | p :: processors, expression =>
    match p (h.expressionsAt place) expression with
    | .ok none => firstAnswer h (place + 1) processors expression
    | answer => answer

/-- What the content of an expression evaluates to at a point of a run. -/
def answer (e : Evaluator) (h : History) (content : List Char) :
    Except ExpressionError (Option Value) :=
  firstAnswer h 0 e.processors (String.ofList content)

/-- What the processor that is asked answers, given what happened before; only a question to a
    processor has an answer. -/
def answerTo (e : Evaluator) (before : History) :
    Event → Option (Except ExpressionError (Option Value))
  | .processor place expression =>
    (e.processors[place]?).map fun p => p (before.expressionsAt place) expression
  | _ => none

section

variable {e : Evaluator} {place : Nat} {p : Processor} {processors : List Processor}
  {expression : String} {h now : History}

/-- Processors that are left from a place on: which one stands there, and what is left behind it. -/
theorem processors_of_drop (hRest : e.processors.drop place = p :: processors) :
    e.processors[place]? = some p ∧ e.processors.drop (place + 1) = processors := by
  rw [← List.head?_drop, ← List.tail_drop, hRest]
  exact ⟨rfl, rfl⟩

theorem answerTo_processor (hRest : e.processors.drop place = p :: processors) (before : History)
    (expression : String) :
    e.answerTo before (.processor place expression) =
      some (p (before.expressionsAt place) expression) := by
  rw [answerTo, (processors_of_drop hRest).1, Option.map_some]

theorem firstAnswer_singleton (h : History) (place : Nat) (p : Processor) (expression : String) :
    firstAnswer h place [p] expression = p (h.expressionsAt place) expression := by
  rw [firstAnswer, firstAnswer]
  split
  · rename_i hNone
    exact hNone.symm
  · rfl

theorem firstAnswer_cons_of_lt {other : Nat} (hOther : other < place)
    (processors : List Processor) (expression asked : String) (h : History) :
    firstAnswer (.processor other asked :: h) place processors expression =
      firstAnswer h place processors expression := by
  induction processors generalizing place with
  | nil => rfl
  | cons p processors ih =>
    rw [firstAnswer, firstAnswer, History.expressionsAt_cons_of_ne (Nat.ne_of_lt hOther),
      ih (Nat.lt_succ_of_lt hOther)]

theorem askFrom_fst (place : Nat) (processors : List Processor) (expression : String)
    (h : History) :
    (askFrom place processors expression h).1 = firstAnswer h place processors expression := by
  induction processors generalizing place h with
  | nil => rfl
  | cons p processors ih =>
    rw [askFrom, firstAnswer]
    cases p (h.expressionsAt place) expression with
    | error error => rfl
    | ok value =>
      cases value with
      | none =>
        -- the processors behind this one have not noticed that it was asked
        dsimp only
        rw [ih, firstAnswer_cons_of_lt (Nat.lt_succ_self place)]
      | some value => rfl

theorem apply_fst (e : Evaluator) (content : List Char) (h : History) :
    (e.apply (String.ofList content) h).1 = e.answer h content :=
  askFrom_fst 0 e.processors _ h

/-- Asking for an expression keeps what every single question for it keeps. -/
theorem askFrom_keeps {P : History → Prop}
    (ask : ∀ place h, P h → P (.processor place expression :: h)) (place : Nat)
    (processors : List Processor) (kept : P h) : P (askFrom place processors expression h).2 := by
  induction processors generalizing place h with
  | nil => exact kept
  | cons p processors ih =>
    have asked := ask place h kept
    rw [askFrom]
    split
    · exact ih (place + 1) asked
    · exact asked

theorem suffix_of_apply (e : Evaluator) (expression : String) (h : History) :
    h <:+ (e.apply expression h).2 :=
  askFrom_keeps (P := fun later => h <:+ later)
    (fun _ _ earlier => earlier.trans (List.suffix_cons _ _)) 0 e.processors (List.suffix_refl h)

/-! ## Steady processors -/

/-- From a point of a run on, every processor answers as it does at that point. -/
def Steady (e : Evaluator) (h : History) : Prop :=
  ∀ place p, e.processors[place]? = some p → ∀ earlier, h.expressionsAt place <+: earlier →
    ∀ expression, p earlier expression = p (h.expressionsAt place) expression

/-- Processors that never look at what they were asked before are steady from the start. -/
theorem steady_of_constant (constant : ∀ p ∈ e.processors, ∃ answer, p = fun _ => answer)
    (h : History) : e.Steady h := by
  intro place p hPlace earlier _ expression
  obtain ⟨answer, rfl⟩ := constant p (List.mem_of_getElem? hPlace)
  rfl

theorem firstAnswer_of_steady (steady : e.Steady h) (since : h <:+ now)
    (hRest : e.processors.drop place = processors) (expression : String) :
    firstAnswer now place processors expression = firstAnswer h place processors expression := by
  induction processors generalizing place with
  | nil => rfl
  | cons p processors ih =>
    obtain ⟨hHere, hLater⟩ := processors_of_drop hRest
    rw [firstAnswer, firstAnswer, ih hLater,
      steady place p hHere _ (History.expressionsAt_prefix since place)]

theorem answer_of_steady (steady : e.Steady h) (since : h <:+ now) (content : List Char) :
    e.answer now content = e.answer h content :=
  firstAnswer_of_steady steady since List.drop_zero _

end

/-! ## What a pass gives -/

/-- The text that takes the place of an expression: the text of its value, or its own if no
    processor recognizes it. -/
def replaced (e : Evaluator) (h : History) (content : List Char) : List Char :=
  match e.answer h content with
  | .ok (some value) => value.chars
  | _ => Expression.writtenAs content

/-- The error of the first expression in a text that some processor fails on. -/
def failure? (e : Evaluator) (h : History) (strategy : Strategy) (s : List Char) :
    Option ExpressionError :=
  (Expression.cuts strategy s).findSome? fun m =>
    match e.answer h m.inside with
    | .error error => some error
    | .ok _ => none

/-- The value of an expression that is the whole text, unless that value is a text. -/
def native? (e : Evaluator) (h : History) (strategy : Strategy) (s : List Char) : Option Value :=
  match Expression.cut? strategy s with
  | none => none
  | some m =>
    match e.answer h m.inside with
    | .ok (some value) =>
      if m.before = [] ∧ m.after = [] ∧ value.isText = false then some value else none
    | _ => none

variable {e : Evaluator} {h now : History} {strategy : Strategy} {s : List Char} {m : Cut}

theorem pass_of_cut?_eq_none {first : Bool} {done : List Char}
    (hCut : Expression.cut? strategy s = none) :
    e.pass strategy first done s h = (.ok (.text (String.ofList (done.reverse ++ s))), h) := by
  rw [pass]
  split
  · rfl
  · rename_i m hm
    rw [hCut] at hm
    cases hm

theorem pass_of_cut?_eq_some {first : Bool} {done : List Char}
    (hCut : Expression.cut? strategy s = some m) :
    e.pass strategy first done s h =
      match e.apply (String.ofList m.inside) h with
      | (.error error, h) => (.error error, h)
      | (.ok (some value), h) =>
        if first ∧ m.before = [] ∧ m.after = [] ∧ value.isText = false then (.ok value, h)
        else e.pass strategy false ((m.before ++ value.chars).reverse ++ done) m.after h
      | (.ok none, h) =>
        e.pass strategy false ((m.before ++ Expression.writtenAs m.inside).reverse ++ done)
          m.after h := by
  rw [pass]
  split
  · rename_i hNone
    rw [hCut] at hNone
    cases hNone
  · rename_i n hn
    obtain rfl : m = n := Option.some.inj (hCut.symm.trans hn)
    rcases e.apply (String.ofList m.inside) h with ⟨error | (_ | value), h'⟩
    · rfl
    · simp [Expression.writtenAs]
    · simp [and_assoc]

theorem failure?_of_cut?_eq_none (hCut : Expression.cut? strategy s = none) :
    e.failure? h strategy s = none := by
  rw [failure?, Expression.cuts_of_cut?_eq_none hCut, List.findSome?_nil]

theorem failure?_of_cut?_eq_some (hCut : Expression.cut? strategy s = some m) :
    e.failure? h strategy s =
      match e.answer h m.inside with
      | .error error => some error
      | .ok _ => e.failure? h strategy m.after := by
  rw [failure?, Expression.cuts_of_cut?_eq_some hCut, List.findSome?_cons]
  cases e.answer h m.inside <;> rfl

theorem failure?_eq_none_iff :
    e.failure? h strategy s = none ↔
      ∀ m ∈ Expression.cuts strategy s, ∃ value, e.answer h m.inside = .ok value := by
  simp only [failure?, List.findSome?_eq_none_iff]
  refine forall₂_congr fun m _ => ?_
  cases e.answer h m.inside <;> simp

theorem of_native?_eq_some {value : Value}
    (hNative : e.native? h strategy s = some value) :
    (∃ content, s = Expression.writtenAs content ∧ e.answer h content = .ok (some value)) ∧
      value.isText = false ∧ value.chars = Expression.substitute strategy (e.replaced h) s := by
  unfold native? at hNative
  split at hNative
  · cases hNative
  · rename_i m hCut
    split at hNative
    · rename_i found hAnswer
      obtain ⟨⟨hBefore, hAfter, hText⟩, hValue⟩ := Option.ite_none_right_eq_some.1 hNative
      obtain rfl := Option.some.inj hValue
      have hWhole := Expression.eq_writtenAs_of_cut? hCut
      rw [hBefore, hAfter, List.nil_append, List.append_nil] at hWhole
      refine ⟨⟨m.inside, hWhole, hAnswer⟩, hText, ?_⟩
      rw [Expression.substitute_of_cut?_eq_some hCut, hBefore, hAfter, replaced, hAnswer,
        Expression.substitute_nil]
      simp
    · cases hNative

theorem pass_fst (steady : e.Steady h) (since : h <:+ now) (strategy : Strategy) (first : Bool)
    (done s : List Char) :
    (e.pass strategy first done s now).1 =
      match e.failure? h strategy s with
      | some error => .error error
      | none => .ok ((if first then e.native? h strategy s else none).getD
          (.text (String.ofList
            (done.reverse ++ Expression.substitute strategy (e.replaced h) s)))) := by
  induction s using Expression.cuts.induct strategy generalizing first done now with
  | case1 s hCut =>
    rw [pass_of_cut?_eq_none hCut, failure?_of_cut?_eq_none hCut,
      Expression.substitute_of_cut?_eq_none hCut]
    simp [native?, hCut]
  | case2 s m hCut ih =>
    have hLater := e.suffix_of_apply (String.ofList m.inside) now
    -- the answer now is the one at the point where the processors became steady
    rcases hApply : e.apply (String.ofList m.inside) now with ⟨answer, later⟩
    have hAnswer : e.answer h m.inside = answer := by
      rw [← answer_of_steady steady since, ← apply_fst e m.inside now, hApply]
    rw [hApply] at hLater
    have ih := ih (since.trans hLater)
    rw [pass_of_cut?_eq_some hCut, hApply, failure?_of_cut?_eq_some hCut, hAnswer,
      Expression.substitute_of_cut?_eq_some hCut]
    cases answer with
    | error error => rfl
    | ok value =>
      cases value with
      | none => simp [ih, native?, hCut, hAnswer, replaced, Expression.writtenAs]
      | some value =>
        by_cases hWhole : first = true ∧ m.before = [] ∧ m.after = [] ∧ value.isText = false
        · obtain ⟨rfl, hBefore, hAfter, hValue⟩ := hWhole
          have hNoMore : e.failure? h strategy [] = none := failure?_of_cut?_eq_none rfl
          simp [native?, hCut, hAnswer, hBefore, hAfter, hValue, hNoMore]
        · have hNative : (if first then e.native? h strategy s else none) = none := by
            cases first <;> simp_all [native?]
          simp only [hNative, if_neg hWhole, ih]
          simp [replaced, hAnswer]

end Evaluator

end StepArguments
