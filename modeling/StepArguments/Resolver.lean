import StepArguments.Dynamic.Registry
import StepArguments.Markup.Placeholder
import StepArguments.Value.Display

/-! # Resolution of placeholders

Every placeholder of a text is replaced by the text of its variable, from left to right; a key that
holds placeholders is resolved first. Text that was put in is never looked at again. A placeholder
that has no value stays, with its key resolved, and one that is all there is gives the value
itself. -/

namespace StepArguments

/-- What placeholders are resolved with. -/
structure Resolver where
  /-- The value of a key in the store. -/
  find? : String → Option Value
  dynamic : Dynamic := {}

namespace Resolver

/-- The value of a key: from the store, else from the dynamic variables. -/
def lookup (r : Resolver) (key : String) (m : Memory) : Option Value × Memory :=
  let m := { m with history := .lookup key :: m.history }
  match r.find? key with
  | some value => (some value, m)
  | none => r.dynamic.recall key m

/-- Resolves the rest of a text behind the text that is done, whose last character comes first. -/
def resolveFrom (r : Resolver) (done rest : List Char) (m : Memory) : Value × Memory :=
  match _h : Placeholder.cut? rest with
  | none => (.text (String.ofList (done.reverse ++ rest)), m)
  | some p =>
    -- a key with an opener in it, closed or not, is a text of its own
    let (key, m) :=
      if Placeholder.opens p.inside then
        let (value, m) := resolveFrom r [] p.inside m
        (value.chars, m)
      else (p.inside, m)
    match r.lookup (String.ofList key) m with
    | (some value, m) =>
      -- nothing is left of the text but this placeholder
      if done.isEmpty && p.before.isEmpty && p.after.isEmpty then (value, m)
      else resolveFrom r ((p.before ++ value.chars).reverse ++ done) p.after m
    | (none, m) =>
      resolveFrom r ((p.before ++ '$' :: '{' :: key ++ ['}']).reverse ++ done) p.after m
termination_by rest.length
decreasing_by
  · exact Placeholder.length_inside_lt _h
  · exact Placeholder.length_after_lt _h
  · exact Placeholder.length_after_lt _h

def resolve (r : Resolver) (text : String) (h : History) : Value × History :=
  let (value, m) := r.resolveFrom [] text.toList { history := h }
  (value, m.history)

def value (r : Resolver) (key : String) (h : History) : Option Value × History :=
  let h := .lookup key :: h
  match r.find? key with
  | some value => (some value, h)
  | none => r.dynamic.lookup key h

/-- The keys of the outermost placeholders that would stay: known neither to the store nor, under
exactly that name, to the dynamic variables. Keys that hold placeholders are left out, and nothing
is computed. -/
def unresolved (r : Resolver) (text : String) : List String :=
  (Placeholder.keys text).filter fun key =>
    !Placeholder.opens key.toList && (r.find? key).isNone &&
      (r.dynamic.registry.get? key).isNone

end Resolver

end StepArguments
