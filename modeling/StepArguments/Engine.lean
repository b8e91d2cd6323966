import StepArguments.Conversion
import StepArguments.Dynamic.Builtin
import StepArguments.Evaluator
import StepArguments.Functions.Standard
import StepArguments.Resolver
import StepArguments.Settings
import StepArguments.Variables.Store

/-! # The engine

The engine turns the raw text of a step argument into a value of its declared type. Passes that
resolve placeholders and then evaluate expressions repeat until the text settles; a value that does
not fit the type then goes through its text. -/

namespace StepArguments

/-! ## Errors and runs -/

/-- Converts text to values of target types. -/
abbrev Converter := String → TargetType → Except ConversionError Value

/-- Why a step argument has no value. -/
inductive ArgumentError where
  /-- An expression of a text cannot be evaluated. -/
  | expression (failure : EvaluationFailure)
  /-- A text cannot be converted. -/
  | conversion (error : ConversionError)

def ArgumentError.message : ArgumentError → String
  | .expression failure =>
    "unable to process expression '" ++ failure.input ++ "': " ++ failure.error.message
  | .conversion error => "conversion error: " ++ error.message

/-- A computation on the history: it ends with a value or an error, unless the bound on its passes
ends it first. -/
abbrev Run (α : Type) := History → Option (Except ArgumentError α × History)

/-- What step arguments are resolved and converted with. -/
structure Engine where
  settings : Settings := {}
  store : Store := {}
  environment : Environment := .empty
  registry : Registry := []
  processors : List Processor := []
  converter : Converter := convertText

namespace Engine

/-- The placeholders of an engine: from its store, else from its dynamic variables. -/
def resolver (e : Engine) : Resolver where
  find? := e.store.get? e.environment
  dynamic := ⟨e.registry, e.settings.dryRun⟩

def evaluator (e : Engine) : Evaluator where
  processors := e.processors
  dryRun := e.settings.dryRun

/-! ## Passes -/

def nullExpression : String := "#\x7bnull\x7d"

/-- One pass: all placeholders, then all expressions. A value that is no text is done, unless text
is asked for. -/
def pass (e : Engine) (passes : Nat) (target : TargetType) (text : String) : Run Value := fun h =>
  let (value, h) := e.resolver.resolve text h
  -- no processor is needed for the absent value
  if value.asText? = some nullExpression then some (.ok .null, h)
  else if target = .text ∨ value.isText then
    (e.evaluator.evaluate passes value.display h).map fun
      | (.ok value, h) => (.ok value, h)
      | (.error failure, h) => (.error (.expression failure), h)
  else some (.ok value, h)

/-- Repeats passes while they change the text. When all the passes allowed have changed it, the
starting text takes one pass instead. -/
def settle (e : Engine) (passes : Nat) (target : TargetType) (start : String) :
    (depth : Nat) → (text : String) → Run Value
  | 0, _, h =>
    e.pass passes target start (.report (.depthExhausted start e.settings.maxDepth) :: h)
  | depth + 1, text, h =>
    match e.pass passes target text h with
    | some (.ok (.text next), h) =>
      if next = text then some (.ok (.text next), h)
      else settle e passes target start depth next h
    | result => result

/-- Resolves all placeholders and expressions of a text for a target type. -/
def resolveText (e : Engine) (passes : Nat) (text : String) (target : TargetType) : Run Value :=
  e.settle passes target text e.settings.maxDepth text

/-! ## Conversion -/

def ask (e : Engine) (text : String) (target : TargetType) (h : History) :
    Except ArgumentError Value × History :=
  ((e.converter text target).mapError .conversion, .conversion text target :: h)

/-- Converts resolved text; blank text is the absent value of an optional type. -/
def convertResolved (e : Engine) (text : String) : TargetType → History →
    Except ArgumentError Value × History
  | .optional inner, h =>
    if Text.isBlankText text then (.ok .null, h) else e.convertResolved text inner h
  | target, h => e.ask text target h

def resolveRow (e : Engine) : Bindings → History → Bindings × History
  | [], h => ([], h)
  | (name, .text cell) :: cells, h =>
    let (value, h) := e.resolver.resolve cell h
    let (cells, h) := e.resolveRow cells h
    ((name, value) :: cells, h)
  | cell :: cells, h =>
    let (cells, h) := e.resolveRow cells h
    (cell :: cells, h)

def resolveRows (e : Engine) : List Bindings → History → List Bindings × History
  | [], h => ([], h)
  | row :: rows, h =>
    let (row, h) := e.resolveRow row h
    let (rows, h) := e.resolveRows rows h
    (row :: rows, h)

/-- Resolves the placeholders of the cells of a table; any other value stays. -/
def resolveCells (e : Engine) (value : Value) (h : History) : Value × History :=
  match value with
  | .table headers rows =>
    let (rows, h) := e.resolveRows rows h
    (.table headers rows, h)
  | value => (value, h)

/-- Makes a resolved value one of the target type. Blank text is no value of an optional type; the
absent value and a value that satisfies the type stay; all else goes through its text. -/
def fit (e : Engine) (target : TargetType) (value : Value) (h : History) :
    Except ArgumentError Value × History :=
  let blank :=
    match target, value with
    | .optional _, .text s => Text.isBlankText s
    | _, _ => false
  if blank then (.ok .null, h)
  else if value.isNull || target.satisfiedBy value then (.ok value, h)
  else
    match e.convertResolved value.display target h with
    | (.ok value, h) =>
      let (value, h) := e.resolveCells value h
      (.ok value, h)
    | failed => failed

/-- Resolves the raw text of a step argument and converts it to its type. A block of steps is
converted as it is. -/
def convert (e : Engine) (passes : Nat) (raw : String) (target : TargetType) : Run Value := fun h =>
  if target = .steps then some (e.ask raw target h)
  else
    (e.resolveText passes raw target h).map fun
      | (.ok value, h) => e.fit target value h
      | failed => failed

def resolve (e : Engine) (passes : Nat) (raw : String) : Run Value :=
  e.convert passes raw .any

end Engine

/-! ## Assembly -/

/-- The parts of an engine that may be left out. -/
structure Engine.Parts where
  settings : Settings := {}
  store : Store := {}
  environment : Environment := .empty
  /-- Dynamic variables; they take the place of built-in ones of the same name. -/
  dynamic : Registry := []
  /-- The built-in dynamic variables, if they are wanted. -/
  builtins : Registry := []
  /-- Processors that are asked before the standard ones. -/
  processors : List Processor := []
  /-- The standard processors, if they are wanted. -/
  standard : List Processor := []
  converter : Converter := convertText

def Engine.build (p : Engine.Parts) : Engine where
  settings := p.settings
  store := p.store
  environment := p.environment
  registry := (Named.ofPairs p.builtins).putAll p.dynamic
  processors := p.processors ++ p.standard
  converter := p.converter

end StepArguments
