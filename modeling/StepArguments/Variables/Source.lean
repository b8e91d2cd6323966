import StepArguments.Variables.Store

/-! # Sources of variables

The values of variables come from plain bindings or from a store with all its layers. A source that
others may change stands behind a lock, which is held for one look-up. -/

namespace StepArguments

/-- Where the values of keys are looked up. -/
inductive Source where
  /-- Names and what is bound to them. -/
  | plain (bindings : Bindings)
  /-- The layers of a store, and the process around it. -/
  | layered (store : Store) (environment : Environment)
  /-- Another source behind a lock. -/
  | locked (source : Source)

def Source.get? : Source → String → Option Value
  | .plain bindings, key => bindings.value? key
  | .layered store environment, key => store.get? environment key
  | .locked source, key => source.get? key

end StepArguments
