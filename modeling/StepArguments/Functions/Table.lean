import StepArguments.Functions.Call
import StepArguments.Functions.Processor
import StepArguments.Text.Case

/-! # Function tables

A function table evaluates calls of the functions registered in it. Names differ by more than their
case, and of two functions of one name the later one stays. -/

namespace StepArguments

/-- How the text of a call is handed to a function. -/
inductive Arity where
  /-- The whole text as one argument. -/
  | unary
  /-- Exactly this many arguments. -/
  | exactly (count : Nat)
  /-- Any number of arguments. -/
  | variadic
deriving DecidableEq

/-- What a function makes of its arguments, given the expressions that its table was asked for before,
the earliest first. -/
abbrev FunctionBody :=
  (earlier : List String) → (arguments : List String) → Except ExpressionError Value

/-- A function of expressions. -/
structure Function where
  /-- The name as it was registered. -/
  name : String
  arity : Arity
  body : FunctionBody

def Function.arguments (f : Function) (text : String) : Except ExpressionError (List String) :=
  match f.arity with
  | .unary => .ok [text]
  | .variadic => .ok (Call.splitArguments text)
  | .exactly count =>
    let arguments := Call.splitArguments text
    if arguments.length = count then .ok arguments
    else .error (.argumentCount f.name count arguments.length text)

/-- Functions under their names in lower case. -/
abbrev FunctionTable := Named Function

namespace FunctionTable

def empty : FunctionTable := []

def register (table : FunctionTable) (f : Function) : FunctionTable :=
  table.put (Text.lower f.name) f

def unary (table : FunctionTable) (name : String)
    (body : (earlier : List String) → (argument : String) → Except ExpressionError Value) :
    FunctionTable :=
  table.register ⟨name, .unary, fun earlier arguments => body earlier (arguments.headD "")⟩

def exactly (table : FunctionTable) (name : String) (count : Nat) (body : FunctionBody) :
    FunctionTable :=
  table.register ⟨name, .exactly count, body⟩

def variadic (table : FunctionTable) (name : String) (body : FunctionBody) : FunctionTable :=
  table.register ⟨name, .variadic, body⟩

/-- Adds all functions of another table, which replace those of the same name. -/
def merge (table other : FunctionTable) : FunctionTable :=
  table.putAll other

/-- The names of the functions as they were registered, in order. -/
def functionNames (table : FunctionTable) : List String :=
  (table.map fun (_, f) => f.name).mergeSort (· ≤ ·)

def supports (table : FunctionTable) (name : String) : Bool :=
  (table.get? (Text.lower name)).isSome

def execute (table : FunctionTable) : Processor := fun earlier expression =>
  match Call.parse? expression with
  | none => .ok none
  | some call =>
    match table.get? (Text.lower call.name) with
    | none => .ok none
    | some f =>
      (f.arguments call.arguments).bind fun arguments => (f.body earlier arguments).map some

end FunctionTable

end StepArguments
