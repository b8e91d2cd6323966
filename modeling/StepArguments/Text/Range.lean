/-! # Ranges of characters

A property of characters given by the ranges of the code points that have it. -/

namespace StepArguments.Text

/-- A range of code points, both ends included. -/
structure Range where
  first : Nat
  last : Nat

def inRanges (ranges : List Range) (c : Char) : Bool :=
  ranges.any fun r => r.first ≤ c.toNat && c.toNat ≤ r.last

end StepArguments.Text
