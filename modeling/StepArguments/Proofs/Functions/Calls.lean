import StepArguments.Functions.Table
import StepArguments.Proofs.Markup.Opener
import StepArguments.Value.Display

/-! # Calls of functions

The name of a call is all that decides whether a table answers it.  A text that starts with a name
and a parenthesis is a call of that name or no call at all, so that a table without the name never
answers it, whatever follows (`execute_of_not_supports`).  A table of tame functions answers every
call of a name that it supports.
-/

namespace StepArguments

open Expression (Plain)

namespace Call

/-- A word that may name a function. -/
def IsName (name : List Char) : Prop :=
  name ≠ [] ∧ name.all isNameChar = true

instance (name : List Char) : Decidable (IsName name) :=
  inferInstanceAs (Decidable (_ ∧ _))

def written (name arguments : List Char) : List Char :=
  name ++ '(' :: arguments ++ [')']

/-- The text of a call, given its name and the text between its parentheses. -/
def ofText (name text : String) : String :=
  name ++ "(" ++ text ++ ")"

theorem ofText_eq (name text : String) :
    ofText name text = String.ofList (written name.toList text.toList) := by
  rw [← String.toList_inj]
  simp [ofText, written]

variable {name : List Char}

theorem IsName.not_mem (hName : IsName name) {c : Char} (hc : isNameChar c = false) :
    c ∉ name := by
  intro hMem
  have hTrue := List.all_eq_true.1 hName.2 c hMem
  rw [hc] at hTrue
  cases hTrue

theorem IsName.plain (hName : IsName name) : Plain name :=
  ⟨hName.not_mem rfl, hName.not_mem rfl, hName.not_mem rfl⟩

theorem parse?_append (hName : IsName name) (rest : List Char) :
    parse? (String.ofList (name ++ '(' :: rest)) =
      if rest.getLast? = some ')' then
        some ⟨String.ofList name, String.ofList rest.dropLast⟩
      else none := by
  have hParen : '(' ∉ name := hName.not_mem rfl
  have hEmpty : name.isEmpty = false := List.isEmpty_eq_false_iff.2 hName.1
  simp only [parse?, String.toList_ofList, Text.cut?_append hParen, Option.bind_eq_bind,
    Option.bind_some, hEmpty, hName.2]
  rfl

theorem parse?_written (hName : IsName name) (arguments : List Char) :
    parse? (String.ofList (written name arguments)) =
      some ⟨String.ofList name, String.ofList arguments⟩ := by
  rw [written, List.append_assoc, List.cons_append, parse?_append hName]
  simp

end Call

/-- A function that takes the whole text of a call or any number of arguments, and that never fails
    on what it may take and always makes the same of it.  The text of its values has no part in
    expressions. -/
structure Function.Tame (f : Function) : Prop where
  arity : f.arity = .unary ∨ f.arity = .variadic
  plain : ∀ text arguments, f.arguments text = .ok arguments →
    ∃ value, (∀ earlier, f.body earlier arguments = .ok value) ∧ Plain value.chars

theorem Function.Tame.exists_arguments {f : Function} (hf : f.Tame) (text : String) :
    ∃ arguments, f.arguments text = .ok arguments := by
  cases hf.arity with
  | inl hArity => exact ⟨[text], by rw [Function.arguments, hArity]⟩
  | inr hArity => exact ⟨Call.splitArguments text, by rw [Function.arguments, hArity]⟩

namespace FunctionTable

def Tame (table : FunctionTable) : Prop :=
  ∀ name f, table.get? name = some f → f.Tame

theorem tame_empty : empty.Tame := by
  intro name f hGet
  cases hGet

variable {table : FunctionTable} {name : List Char}

theorem Tame.register (hTable : table.Tame) {f : Function} (hf : f.Tame) :
    (table.register f).Tame := by
  intro name g hGet
  rw [FunctionTable.register, Named.get?_put] at hGet
  split at hGet
  · exact Option.some.inj hGet ▸ hf
  · exact hTable name g hGet

theorem execute_of_not_supports (hName : Call.IsName name)
    (hTable : table.supports (String.ofList name) = false) (earlier : List String)
    (rest : List Char) :
    table.execute earlier (String.ofList (name ++ '(' :: rest)) = .ok none := by
  have hNone : table.get? (Text.lower (String.ofList name)) = none := by
    simpa [supports] using hTable
  rw [execute, Call.parse?_append hName]
  split
  · rfl
  · rename_i call hCall
    obtain ⟨-, hSome⟩ := Option.ite_none_right_eq_some.1 hCall
    obtain rfl := Option.some.inj hSome
    rw [hNone]

theorem Tame.execute_of_parse? (hTable : table.Tame) {expression : String} {call : Call}
    {f : Function} (hCall : Call.parse? expression = some call)
    (hGet : table.get? (Text.lower call.name) = some f) :
    ∃ value, (∀ earlier, table.execute earlier expression = .ok (some value)) ∧
      Plain value.chars := by
  obtain ⟨arguments, hArguments⟩ := (hTable _ f hGet).exists_arguments call.arguments
  obtain ⟨value, hBody, hPlain⟩ := (hTable _ f hGet).plain _ _ hArguments
  refine ⟨value, fun earlier => ?_, hPlain⟩
  rw [execute, hCall]
  simp only [hGet, hArguments]
  rw [Except.bind, hBody]
  rfl

theorem Tame.execute (hTable : table.Tame) (expression : String) :
    (∀ earlier, table.execute earlier expression = .ok none) ∨
      ∃ value, (∀ earlier, table.execute earlier expression = .ok (some value)) ∧
        Plain value.chars := by
  cases hCall : Call.parse? expression with
  | none =>
    left
    intro earlier
    rw [FunctionTable.execute, hCall]
  | some call =>
    cases hGet : table.get? (Text.lower call.name) with
    | none =>
      left
      intro earlier
      rw [FunctionTable.execute, hCall]
      simp only [hGet]
    | some f => exact .inr (hTable.execute_of_parse? hCall hGet)

/-- A tame table answers as if it had not been asked before. -/
theorem Tame.execute_eq (hTable : table.Tame) (earlier : List String) (expression : String) :
    table.execute earlier expression = table.execute [] expression := by
  rcases hTable.execute expression with hNone | ⟨value, hValue, _⟩
  · rw [hNone, hNone]
  · rw [hValue, hValue]

theorem Tame.execute_written (hTable : table.Tame) (hName : Call.IsName name)
    (hSupports : table.supports (String.ofList name) = true) (arguments : List Char) :
    ∃ value, (∀ earlier, table.execute earlier (String.ofList (Call.written name arguments)) =
      .ok (some value)) ∧ Plain value.chars := by
  obtain ⟨f, hGet⟩ := Option.isSome_iff_exists.1 hSupports
  exact hTable.execute_of_parse? (Call.parse?_written hName arguments) hGet

end FunctionTable

end StepArguments
