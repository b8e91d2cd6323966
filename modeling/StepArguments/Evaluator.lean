import StepArguments.Functions.Processor
import StepArguments.History
import StepArguments.Markup.Expression
import StepArguments.Value.Display

/-! # Evaluation of expressions

A pass goes over a text from left to right and replaces every expression that some processor
recognizes. Passes of one strategy repeat until the text stays as it is; reluctant and greedy
passes take turns until a greedy turn changes nothing. Since a processor may write new expressions,
there may be no end to this: the number of passes is bounded, and running out of them is not a
result. -/

namespace StepArguments

/-- Why an application of processors to a text failed, or a conversion after it. -/
structure EvaluationFailure where
  /-- The text as it was handed in. -/
  input : String
  error : ExpressionError
deriving DecidableEq

/-- What expressions are evaluated with. -/
structure Evaluator where
  /-- The processors in the order in which they are asked. -/
  processors : List Processor
  /-- Whether expressions are left alone. -/
  dryRun : Bool := false

namespace Evaluator

/-! ## One pass -/

/-- Asks processors in order, the first of which stands at a place; the first value counts. -/
def askFrom (place : Nat) : List Processor → (expression : String) → History →
    Except ExpressionError (Option Value) × History
  | [], _, h => (.ok none, h)
  | p :: processors, expression, h =>
    match p (h.expressionsAt place) expression with
    | .ok none => askFrom (place + 1) processors expression (.processor place expression :: h)
    | answer => (answer, .processor place expression :: h)

/-- The value of the content of an expression, if a processor recognizes it. -/
def apply (e : Evaluator) (expression : String) (h : History) :
    Except ExpressionError (Option Value) × History :=
  askFrom 0 e.processors expression h

/-- One pass over the rest of a text behind the text that is done, whose last character comes first;
`first` says that nothing of the text was passed over yet. A value that is no text, of an expression
that is all there is, ends the pass. -/
def pass (e : Evaluator) (strategy : Strategy) (first : Bool) (done rest : List Char)
    (h : History) : Except ExpressionError Value × History :=
  match _h : Expression.cut? strategy rest with
  | none => (.ok (.text (String.ofList (done.reverse ++ rest))), h)
  | some m =>
    match e.apply (String.ofList m.inside) h with
    | (.error error, h) => (.error error, h)
    | (.ok (some value), h) =>
      -- the expression is the whole text
      if first && m.before.isEmpty && m.after.isEmpty && !value.isText then (.ok value, h)
      else pass e strategy false ((m.before ++ value.chars).reverse ++ done) m.after h
    | (.ok none, h) =>
      pass e strategy false ((m.before ++ '#' :: '{' :: m.inside ++ ['}']).reverse ++ done) m.after h
termination_by rest.length
decreasing_by
  · exact Expression.length_after_lt _h
  · exact Expression.length_after_lt _h

/-! ## Repeated passes -/

/-- Repeats the passes of a strategy until one leaves the text as it is. -/
def settle (e : Evaluator) (strategy : Strategy) : (passes : Nat) → String → History →
    Option (Except ExpressionError Value × History)
  | 0, _, _ => none
  | passes + 1, text, h =>
    match e.pass strategy true [] text.toList h with
    | (.ok (.text next), h) =>
      if next = text then some (.ok (.text text), h) else settle e strategy passes next h
    | result => some result

/-- Lets the strategies take turns until a greedy turn leaves the text as it is; `passes` bounds
the passes of one turn. -/
def alternate (e : Evaluator) (passes : Nat) : (turns : Nat) → String → History →
    Option (Except ExpressionError Value × History)
  | 0, _, _ => none
  | turns + 1, text, h =>
    match e.settle .reluctant passes text h with
    | some (.ok (.text reluctant), h) =>
      match e.settle .greedy passes reluctant h with
      | some (.ok (.text greedy), h) =>
        if greedy = reluctant then some (.ok (.text greedy), h)
        else alternate e passes turns greedy h
      | result => result
    | result => result

def failed (input : String) (error : ExpressionError) (h : History) :
    Except EvaluationFailure Value × History :=
  (.error ⟨input, error⟩, .report (.expressionFailed input error.message) :: h)

/-- Evaluates all expressions of a text, the nested ones as well. -/
def evaluate (e : Evaluator) (passes : Nat) (text : String) (h : History) :
    Option (Except EvaluationFailure Value × History) :=
  if e.dryRun then some (.ok (.text text), .report (.expressionsSkipped text) :: h)
  else
    (e.alternate passes passes text h).map fun
      | (.ok value, h) => (.ok value, h)
      | (.error error, h) => failed text error h

/-- Evaluates the content of one expression; if no processor recognizes it, it stands for itself. -/
def evaluateContent (e : Evaluator) (expression : String) (h : History) :
    Except EvaluationFailure Value × History :=
  if e.dryRun then (.ok (.text expression), h)
  else
    match e.apply expression h with
    | (.ok value, h) => (.ok (value.getD (.text expression)), h)
    | (.error error, h) => failed expression error h

end Evaluator

end StepArguments
