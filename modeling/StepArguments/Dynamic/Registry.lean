import StepArguments.History
import StepArguments.Text.Case
import StepArguments.Value

/-! # Dynamic variables

A dynamic variable has a provider that computes its value anew each time. A provider is registered
under a name; a camelCase name that is not registered reaches the provider of its kebab-case
spelling. -/

namespace StepArguments

/-- The answers of a dynamic variable: a value, or why there is none, for each number of earlier
calls. -/
structure Provider where
  answer : (earlier : Nat) → Except String Value

def Provider.constant (value : Value) : Provider where
  answer _ := .ok value

def Provider.failing (reason : String) : Provider where
  answer _ := .error reason

def Provider.counter (start : Int64) : Provider where
  answer earlier := .ok (.integer (start + Int64.ofNat earlier))

/-- Providers under their names. -/
abbrev Registry := Named Provider

/-! ## Spellings -/

/-- The spelling of a name in which each capital is a small letter after a hyphen; no hyphen comes
first. -/
def kebabFrom (empty : Bool) : List Char → List Char
  | [] => []
  | c :: s =>
    if Text.isUpper c then
      (if empty then [] else ['-']) ++ Text.lowerChar c ++ kebabFrom false s
    else c :: kebabFrom false s

def kebabCase? (name : String) : Option String :=
  if name.toList.any Text.isUpper then some (String.ofList (kebabFrom true name.toList)) else none

/-- The provider that a name reaches, with the name it is registered under. -/
def Registry.reach? (registry : Registry) (name : String) : Option (String × Provider) :=
  match registry.get? name with
  | some provider => some (name, provider)
  | none => do
    let kebab ← kebabCase? name
    (registry.get? kebab).map (kebab, ·)

/-! ## Asking providers -/

/-- The dynamic variables of a run. -/
structure Dynamic where
  registry : Registry := []
  /-- Whether no provider is asked at all. -/
  dryRun : Bool := false

namespace Dynamic

def ask (name : String) (provider : Provider) (h : History) : Except String Value × History :=
  (provider.answer (h.timesAsked name), .provider name :: h)

/-- Asks the provider registered under exactly a name, if there is one. -/
def askExactly (d : Dynamic) (name : String) (h : History) :
    Option (Except String Value) × History :=
  match d.registry.get? name with
  | none => (none, h)
  | some provider =>
    let (answer, h) := ask name provider h
    (some answer, h)

/-- The value of a dynamic variable. A failure is reported, and there is no value then. -/
def lookup (d : Dynamic) (name : String) (h : History) : Option Value × History :=
  if d.dryRun then (none, .report (.dynamicSkipped name) :: h)
  else
    match d.registry.reach? name with
    | none => (none, h)
    | some (registered, provider) =>
      match ask registered provider h with
      | (.ok value, h) => (some value, h)
      | (.error reason, h) => (none, .report (.providerFailed name reason) :: h)

end Dynamic

/-! ## Asking once -/

/-- What is known during one call: the dynamic variables asked for so far, and the history. -/
structure Memory where
  /-- The answers by the names that were asked for; no value is an answer as well. -/
  known : Named (Option Value) := []
  history : History := []

/-- The value of a dynamic variable, asked for only once under each spelling. -/
def Dynamic.recall (d : Dynamic) (name : String) (m : Memory) : Option Value × Memory :=
  match m.known.get? name with
  | some value => (value, m)
  | none =>
    let (value, h) := d.lookup name m.history
    (value, ⟨m.known.put name value, h⟩)

end StepArguments
