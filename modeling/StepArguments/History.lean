import StepArguments.Json.Text
import StepArguments.TargetType

/-! # History

What a run asks of its surroundings, and what it reports, as one list of events. The history is all
the state there is: how often a provider was asked is read off it. -/

namespace StepArguments

/-- How urgent a report is. -/
inductive Level where
  | error
  | debug
deriving DecidableEq

def Level.name : Level → String
  | .error => "ERROR"
  | .debug => "DEBUG"

/-- What a run reports. -/
inductive Report where
  /-- A processor failed; the input is the text that was to be evaluated. -/
  | expressionFailed (input reason : String)
  /-- A provider of a dynamic variable failed. -/
  | providerFailed (name reason : String)
  /-- A dynamic variable is left alone in a dry run. -/
  | dynamicSkipped (name : String)
  /-- The expressions of a text are left alone in a dry run. -/
  | expressionsSkipped (input : String)
  /-- All passes changed the text, which is resolved once more from its start. -/
  | depthExhausted (start : String) (maxDepth : Nat)
deriving DecidableEq

namespace Report

def level : Report → Level
  | .expressionFailed .. => .error
  | .providerFailed .. => .error
  | .dynamicSkipped _ => .debug
  | .expressionsSkipped _ => .debug
  | .depthExhausted .. => .debug

def message : Report → String
  | .expressionFailed input _ => "Unable to process expression '" ++ input ++ "'"
  | .providerFailed name reason =>
    "Unable to resolve dynamic variable $\x7b" ++ name ++ "\x7d: " ++ reason
  | .dynamicSkipped _ => "Dry run: dynamic variable is not evaluated"
  | .expressionsSkipped _ => "Dry run: expressions are not evaluated"
  | .depthExhausted .. => "Resolution depth exhausted, resolving the original value once"

/-- What a report holds besides its wording, by name. -/
def fields : Report → List (String × String)
  | .expressionFailed _ reason => [("error", reason)]
  | .providerFailed .. => []
  | .dynamicSkipped name => [("name", name)]
  | .expressionsSkipped input => [("input", input)]
  | .depthExhausted start maxDepth =>
    [("value", start), ("max_depth", toString maxDepth)]

end Report

/-- What a run does that can be seen from outside. -/
inductive Event where
  /-- The store is asked for a key. -/
  | lookup (key : String)
  /-- The provider registered under a name is asked. -/
  | provider (name : String)
  /-- The processor at a place of the list is asked to evaluate an expression. -/
  | processor (place : Nat) (expression : String)
  /-- A text is to be converted. -/
  | conversion (text : String) (target : TargetType)
  | report (report : Report)
deriving DecidableEq

/-- The events of a run, the latest first. -/
abbrev History := List Event

namespace History

def timesAsked (h : History) (name : String) : Nat :=
  h.countP fun event => event == .provider name

theorem timesAsked_cons (event : Event) (h : History) (name : String) :
    timesAsked (event :: h) name =
      h.timesAsked name + if event = .provider name then 1 else 0 := by
  simp [timesAsked, List.countP_cons]

/-- The reports, the earliest first. -/
def reports (h : History) : List Report :=
  h.reverse.filterMap fun
    | .report r => some r
    | _ => none

/-- The expressions that the processor at a place was asked for, the earliest first. -/
def expressionsAt (h : History) (place : Nat) : List String :=
  h.reverse.filterMap fun
    | .processor p expression => if p = place then some expression else none
    | _ => none

@[simp] theorem expressionsAt_nil (place : Nat) : expressionsAt [] place = [] := rfl

theorem expressionsAt_append (later earlier : History) (place : Nat) :
    expressionsAt (later ++ earlier) place =
      earlier.expressionsAt place ++ later.expressionsAt place := by
  simp [expressionsAt]

/-- Asking a processor tells nothing to the others. -/
theorem expressionsAt_cons_of_ne {place other : Nat} (hOther : other ≠ place) (expression : String)
    (h : History) :
    expressionsAt (.processor other expression :: h) place = h.expressionsAt place := by
  simp [expressionsAt, hOther]

/-- What was asked before stays before all that is asked later. -/
theorem expressionsAt_prefix {earlier later : History} (since : earlier <:+ later) (place : Nat) :
    earlier.expressionsAt place <+: later.expressionsAt place := by
  obtain ⟨events, rfl⟩ := since
  rw [expressionsAt_append]
  exact List.prefix_append _ _

/-- The texts that were to be converted and their types, the earliest first. -/
def conversions (h : History) : List (String × TargetType) :=
  h.reverse.filterMap fun
    | .conversion text target => some (text, target)
    | _ => none

/-- How often each of several registrations was asked. One that a later one of the same name
replaced is never asked. -/
def registrationCounts (h : History) : (names : List String) → List (String × Nat)
  | [] => []
  | name :: names =>
    (name, if names.contains name then 0 else h.timesAsked name) :: registrationCounts h names

end History

end StepArguments
