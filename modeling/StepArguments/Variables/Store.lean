import StepArguments.Value
import StepArguments.Variables.Environment
import StepArguments.Variables.Key
import StepArguments.Variables.Scope

/-! # The variable store

The store holds the variables of a run in layers: one frame for each open step, then the scenario,
the story and the batch. `Store.resolve?` asks the layers from the innermost to the outermost, then
takes the default of the key, and only then the environment. A null value counts as absent. -/

namespace StepArguments

/-! ## One layer -/

/-- The value of a name, unless it is the absent one. Bindings by themselves are the simplest
store. -/
def Bindings.value? (bindings : Bindings) (name : String) : Option Value :=
  Value.present? (bindings.get? name)

/-- The value at a path below the names of some bindings. An index picks from a list and is ignored
on anything else; a field picks from a map, and on anything else the value itself is the answer. -/
def Bindings.follow? (bindings : Bindings) (path : List Char) : Option Value :=
  match _h : Path.parse? path with
  | none => none
  | some p => do
    -- a root that is bound to the absent value is not bound
    let root ← bindings.value? (String.ofList p.root)
    let value ←
      match p.index, root with
      | some i, .list items => Value.present? items[i]?
      | _, value => some value
    match _hrest : p.rest, value with
    | some rest, .map entries =>
      -- a name with dots in it comes before a way through nested maps
      (Bindings.value? entries (String.ofList rest)).or
        (Bindings.follow? entries rest)
    | _, value => some value
termination_by path.length
decreasing_by exact Path.length_rest_lt _h _hrest

/-- The value of a key in one layer: bound to the whole key, else bound to the key without its
default, else at the path that the key describes. -/
def Bindings.find? (bindings : Bindings) (key : Key) : Option Value :=
  (bindings.value? key.written).or <|
    (if key.hasDefault then bindings.value? key.name else none).or
      (bindings.follow? key.written.toList)

/-! ## All layers -/

/-- The value of a variable and where it comes from. -/
structure Resolved where
  /-- The key as it was asked for. -/
  name : String
  value : Value
  scope : Scope

/-- The variables of a run. -/
structure Store where
  batch : Bindings := []
  story : Bindings := []
  scenario : Bindings := []
  /-- The frames of the open steps, the innermost first. -/
  frames : List Bindings := []
deriving Inhabited

namespace Store

/-- The layers of a store, from the innermost to the outermost. -/
def layers (s : Store) : List (Scope × Bindings) :=
  s.frames.map (Scope.step, ·) ++
    [(Scope.scenario, s.scenario), (Scope.story, s.story), (Scope.batch, s.batch)]

/-- The value of a key in the layers, and its scope. -/
def inLayers? (s : Store) (key : Key) : Option (Value × Scope) :=
  s.layers.findSome? fun (scope, bindings) => (bindings.find? key).map (·, scope)

/-- The value of a key: from the innermost layer that has one, else its default, else from the
environment. -/
def resolve? (s : Store) (e : Environment) (written : String) : Option Resolved :=
  let key := Key.parse written
  match s.inLayers? key with
  | some (value, scope) => some ⟨written, value, scope⟩
  | none =>
    match key.default? with
    | some default => some ⟨written, .text default, .default⟩
    | none => (e.get? written).map fun text => ⟨written, .text text, .environment⟩

def get? (s : Store) (e : Environment) (key : String) : Option Value :=
  (s.resolve? e key).map (·.value)

/-! ## Changing the store -/

def openStep (s : Store) : Store :=
  { s with frames := [] :: s.frames }

/-- Closes the innermost frame, if there is one. -/
def closeStep (s : Store) : Store :=
  { s with frames := s.frames.drop 1 }

def clearScenario (s : Store) : Store :=
  { s with scenario := [] }

def clearStory (s : Store) : Store :=
  { s with story := [] }

/-- Binds a variable in the innermost frame; if no step is open, a frame is opened for it. -/
def putStep (s : Store) (name : String) (value : Value) : Store :=
  match s.frames with
  | [] => { s with frames := [Named.put name value []] }
  | frame :: frames => { s with frames := frame.put name value :: frames }

/-- Binds a variable in a scope. The scopes that cannot be written stand for the batch. -/
def put (s : Store) (scope : Scope) (name : String) (value : Value) : Store :=
  match scope with
  | .step => s.putStep name value
  | .scenario => { s with scenario := s.scenario.put name value }
  | .story => { s with story := s.story.put name value }
  | .batch | .default | .environment => { s with batch := s.batch.put name value }

/-! ## The merged view -/

/-- All variables, the inner layers over the outer ones. -/
def merged (s : Store) : Bindings :=
  s.layers.reverse.foldl (fun bindings (_, layer) => bindings.putAll layer) []

end Store

end StepArguments
