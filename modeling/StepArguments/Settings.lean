/-! # Settings

The options of a run: whether dynamic variables and expressions are evaluated at all, and how many
passes a step argument may take. -/

namespace StepArguments

/-- How many passes a step argument may take if nothing else is said. -/
def Settings.standardDepth : Nat := 16

/-- The options of a run. -/
structure Settings where
  /-- Whether dynamic variables and expressions are left unevaluated. -/
  dryRun : Bool := false
  /-- How many passes a step argument may take. -/
  maxDepth : Nat := Settings.standardDepth
deriving DecidableEq, Inhabited

end StepArguments
