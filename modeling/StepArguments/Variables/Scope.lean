/-! # Scopes

Where the value of a variable comes from. Of two scopes that know a variable, the one of higher
precedence gives the value. -/

namespace StepArguments

/-- Where the value of a variable comes from. -/
inductive Scope where
  /-- The variables of the process. -/
  | environment
  /-- The default that the key itself holds. -/
  | default
  /-- Variables shared by all stories of a batch. -/
  | batch
  /-- Variables of a story. -/
  | story
  /-- Variables of the current scenario. -/
  | scenario
  /-- Variables of a running step. -/
  | step
deriving DecidableEq

namespace Scope

/-- All scopes, from the lowest to the highest precedence. -/
def all : List Scope :=
  [.environment, .default, .batch, .story, .scenario, .step]

/-- The rank of a scope; the higher one wins. -/
def precedence : Scope → Nat
  | .environment => 0
  | .default => 1
  | .batch => 2
  | .story => 3
  | .scenario => 4
  | .step => 5

def displayName : Scope → String
  | .environment => "Environment"
  | .default => "Default"
  | .batch => "Batch"
  | .story => "Story"
  | .scenario => "Scenario"
  | .step => "Step"

def name : Scope → String
  | .environment => "environment"
  | .default => "default"
  | .batch => "batch"
  | .story => "story"
  | .scenario => "scenario"
  | .step => "step"

def ofName? (name : String) : Option Scope :=
  all.find? (·.name == name)

def above (s t : Scope) : Bool :=
  t.precedence < s.precedence

theorem ofName?_name (s : Scope) : ofName? s.name = some s := by
  cases s <;> rfl

end Scope

end StepArguments
