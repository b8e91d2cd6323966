import StepArguments.Value

/-! # Processors

A processor evaluates the content of expressions it recognizes. It may keep a state, read a clock or
draw at random, and so answer one expression in different ways. In a run this shows as answers that
depend on what the processor was asked before; since that is never the same twice, there is no
sequence of answers that could not be given in this way. -/

namespace StepArguments

/-- Why an expression cannot be evaluated. -/
inductive ExpressionError where
  /-- A function was called with another number of arguments than it takes. -/
  | argumentCount (name : String) (expected found : Nat) (arguments : String)
  /-- The function itself failed. -/
  | evaluation (reason : String)
deriving DecidableEq

def ExpressionError.message : ExpressionError → String
  | .argumentCount name expected found arguments =>
    "The expected number of arguments for '" ++ name ++ "' expression is " ++ toString expected ++
      ", but found " ++ toString found ++ " argument" ++ (if found = 1 then "" else "s") ++ ": '" ++
      arguments ++ "'"
  | .evaluation reason => reason

/-- An evaluator of expressions, given those that it was asked for before, the earliest first: no value
if it does not recognize the expression. -/
abbrev Processor :=
  (earlier : List String) → (expression : String) → Except ExpressionError (Option Value)

/-- The processor of the expression `null`. -/
def nullProcessor : Processor := fun _ expression =>
  .ok (if expression = "null" then some .null else none)

end StepArguments
