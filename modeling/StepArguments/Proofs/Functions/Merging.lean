import StepArguments.Proofs.Evaluator.Pass
import StepArguments.Proofs.Functions.Calls

/-! # Function tables put together

A table of functions comes about by registering functions one after the other and by merging other
tables into it.  `Assembly.registered` lists the functions in that order, those of a table that is
merged in at the place of the merge, and forgets nothing, while the table itself keeps one function
under a name in lower case.  `Holds` is what connects the two: under every name the table has the
function of the list that was registered last.

So a merged table answers every expression as its two parts do when the one that was merged in is
asked first (`execute_merge`), a failure for a wrong number of arguments included: both sides come
to the same function, and what it says ends the search on either.  The functions may keep a state of
their own, so the answers are compared as they are at one and the same point.
-/

namespace StepArguments

/-- What a call of a function with a text gives, given the expressions that its table was asked for
    before. -/
def Function.call (f : Function) (earlier : List String) (text : String) :
    Except ExpressionError Value :=
  (f.arguments text).bind (f.body earlier)

namespace FunctionTable

section

variable {table other : FunctionTable} {functions others : List Function} {f : Function}

/-! ## Answers of a table -/

/-- The answer of a function, if there is one under the name of a call. -/
def answerOf (earlier : List String) (text : String) :
    Option Function → Except ExpressionError (Option Value)
  | none => .ok none
  | some f => (f.call earlier text).map some

theorem execute_eq (table : FunctionTable) (earlier : List String) (expression : String) :
    table.execute earlier expression =
      match Call.parse? expression with
      | none => .ok none
      | some call => answerOf earlier call.arguments (table.get? (Text.lower call.name)) := by
  rw [execute]
  cases Call.parse? expression with
  | none => rfl
  | some call =>
    dsimp only
    cases table.get? (Text.lower call.name) with
    | none => rfl
    | some f =>
      dsimp only [answerOf, Function.call]
      cases f.arguments call.arguments <;> rfl

theorem execute_ofText {name : String} (hName : Call.IsName name.toList)
    (hGet : table.get? (Text.lower name) = some f) (earlier : List String) (text : String) :
    table.execute earlier (Call.ofText name text) = (f.call earlier text).map some := by
  rw [Call.ofText_eq, execute_eq, Call.parse?_written hName]
  simp only [String.ofList_toList, hGet, answerOf]

/-- A function that is there ends the search of processors, be it with a value or a failure. -/
theorem answerOf_or (earlier : List String) (text : String) (found other : Option Function) :
    answerOf earlier text (found.or other) =
      match answerOf earlier text found with
      | .ok none => answerOf earlier text other
      | answer => answer := by
  cases found with
  | none => rfl
  | some f =>
    dsimp only [Option.some_or, answerOf]
    cases f.call earlier text <;> rfl

/-! ## What a table holds -/

/-- The last of some functions whose name in lower case is a given one. -/
def last? (functions : List Function) (lowerName : String) : Option Function :=
  functions.reverse.find? fun f => Text.lower f.name = lowerName

/-- A table has, under distinct names, the functions that were registered last. -/
structure Holds (table : FunctionTable) (functions : List Function) : Prop where
  distinct : table.names.Nodup
  get? : ∀ name, Named.get? table name = last? functions name

theorem last?_append (functions others : List Function) (name : String) :
    last? (functions ++ others) name = (last? others name).or (last? functions name) := by
  rw [last?, List.reverse_append, List.find?_append]
  rfl

theorem last?_singleton (f : Function) (name : String) :
    last? [f] name = if name = Text.lower f.name then some f else none := by
  by_cases hName : name = Text.lower f.name
  · simp [last?, hName]
  · simp [last?, hName, Ne.symm hName]

theorem holds_empty : empty.Holds [] where
  distinct := List.nodup_nil
  get? _ := rfl

theorem Holds.register (holds : table.Holds functions) (f : Function) :
    (table.register f).Holds (functions ++ [f]) where
  distinct := Named.nodup_names_put holds.distinct _ f
  get? name := by
    rw [FunctionTable.register, Named.get?_put, holds.get?, last?_append, last?_singleton]
    split <;> rfl

theorem Holds.merge (holds : table.Holds functions) (holdsOther : other.Holds others) :
    (table.merge other).Holds (functions ++ others) where
  distinct := Named.nodup_names_putAll holds.distinct other
  get? name := by
    rw [FunctionTable.merge, Named.get?_putAll, Named.get?_reverse holdsOther.distinct,
      holdsOther.get?, holds.get?, last?_append]

/-- A function is the last one registered under a name, whatever the case of either. -/
def IsLast (functions : List Function) (name : String) (f : Function) : Prop :=
  ∃ before after, functions = before ++ f :: after ∧ Text.lower f.name = Text.lower name ∧
    ∀ later ∈ after, Text.lower later.name ≠ Text.lower name

theorem last?_of_isLast {name : String} (isLast : IsLast functions name f) :
    last? functions (Text.lower name) = some f := by
  obtain ⟨before, after, rfl, hName, hLater⟩ := isLast
  have hNone : last? after (Text.lower name) = none := by
    rw [last?, List.find?_eq_none]
    simpa using hLater
  rw [← List.singleton_append, ← List.append_assoc, last?_append, hNone, last?_append,
    last?_singleton, if_pos hName.symm]
  rfl

theorem isSome_last?_iff {name : String} :
    (last? functions name).isSome = true ↔ ∃ f ∈ functions, Text.lower f.name = name := by
  simp [last?]

end

/-! ## Tables put together -/

/-- The ways in which a table comes about: functions registered one after the other, and other
    tables merged in. -/
inductive Assembly where
  | empty
  | unary (before : Assembly) (name : String)
      (body : (earlier : List String) → (argument : String) → Except ExpressionError Value)
  | exactly (before : Assembly) (name : String) (count : Nat) (body : FunctionBody)
  | variadic (before : Assembly) (name : String) (body : FunctionBody)
  | merge (before other : Assembly)

namespace Assembly

def table : Assembly → FunctionTable
  | empty => .empty
  | unary before name body => before.table.unary name body
  | exactly before name count body => before.table.exactly name count body
  | variadic before name body => before.table.variadic name body
  | merge before other => before.table.merge other.table

/-- All functions in the order of their registration, those of a table that is merged in counted at
    the merge. -/
def registered : Assembly → List Function
  | empty => []
  | unary before name body =>
    before.registered ++
      [⟨name, .unary, fun earlier arguments => body earlier (arguments.headD "")⟩]
  | exactly before name count body => before.registered ++ [⟨name, .exactly count, body⟩]
  | variadic before name body => before.registered ++ [⟨name, .variadic, body⟩]
  | merge before other => before.registered ++ other.registered

theorem holds (a : Assembly) : a.table.Holds a.registered := by
  induction a with
  | empty => exact holds_empty
  | unary before name body ih => exact ih.register _
  | exactly before name count body ih => exact ih.register _
  | variadic before name body ih => exact ih.register _
  | merge before other ih ihOther => exact ih.merge ihOther

/-- Of a call only the function registered last under its name has a part in the answer. -/
theorem execute_eq (a : Assembly) (earlier : List String) (expression : String) :
    a.table.execute earlier expression =
      match Call.parse? expression with
      | none => .ok none
      | some call =>
        answerOf earlier call.arguments (last? a.registered (Text.lower call.name)) := by
  simp only [FunctionTable.execute_eq, a.holds.get?]

theorem execute_written (a : Assembly) {name : List Char} (hName : Call.IsName name)
    (earlier : List String) (arguments : List Char) :
    a.table.execute earlier (String.ofList (Call.written name arguments)) =
      answerOf earlier (String.ofList arguments)
        (last? a.registered (Text.lower (String.ofList name))) := by
  rw [a.execute_eq, Call.parse?_written hName]

theorem supports_iff (a : Assembly) (name : String) :
    a.table.supports name = true ↔ ∃ f ∈ a.registered, Text.lower f.name = Text.lower name := by
  rw [supports, a.holds.get?, isSome_last?_iff]

/-- The table that is merged in is asked first, and the other one where it has no answer. -/
theorem execute_merge_eq (a b : Assembly) (earlier : List String) (expression : String) :
    (a.merge b).table.execute earlier expression =
      match b.table.execute earlier expression with
      | .ok none => a.table.execute earlier expression
      | answer => answer := by
  rw [(a.merge b).execute_eq, b.execute_eq, a.execute_eq]
  cases Call.parse? expression with
  | none => rfl
  | some call =>
    -- the functions merged in come last, so they are the first to be found
    dsimp only [registered]
    rw [last?_append, answerOf_or]

theorem execute_merge_assoc (a b c : Assembly) (earlier : List String) (expression : String) :
    ((a.merge b).merge c).table.execute earlier expression =
      (a.merge (b.merge c)).table.execute earlier expression := by
  rw [execute_eq, execute_eq, registered, registered, registered, registered, List.append_assoc]

/-- At any point a merged table answers an expression as its two parts do at that point, the one that
    was merged in asked first, and it does not matter which of several tables are merged first.  A
    call reaches the function registered last under its name in any case, with whatever that
    function says of the arguments, and a table supports the names for which there is one. -/
theorem execute_merge (a b c : Assembly) :
    (∀ earlier expression h, (a.merge b).table.execute earlier expression =
      (Evaluator.apply { processors := [fun _ => b.table.execute earlier,
        fun _ => a.table.execute earlier] } expression h).1) ∧
    (∀ earlier expression, ((a.merge b).merge c).table.execute earlier expression =
      (a.merge (b.merge c)).table.execute earlier expression) ∧
    (∀ earlier name arguments f, Call.IsName name →
      IsLast a.registered (String.ofList name) f →
        a.table.execute earlier (String.ofList (Call.written name arguments)) =
          (f.call earlier (String.ofList arguments)).map some) ∧
    (∀ earlier name arguments, Call.IsName name →
      a.table.supports (String.ofList name) = false →
        a.table.execute earlier (String.ofList (Call.written name arguments)) = .ok none) ∧
    (∀ name, a.table.supports name = true ↔
      ∃ f ∈ a.registered, Text.lower f.name = Text.lower name) := by
  refine ⟨fun earlier expression h => ?_, a.execute_merge_assoc b c, ?_, ?_, a.supports_iff⟩
  · have hMerge := execute_merge_eq a b earlier expression
    rw [Evaluator.apply, Evaluator.askFrom_fst, Evaluator.firstAnswer,
      Evaluator.firstAnswer_singleton]
    exact hMerge
  · intro earlier name arguments f hName isLast
    rw [a.execute_written hName, last?_of_isLast isLast]
    rfl
  · intro earlier name arguments hName hTable
    rw [Call.written, List.append_assoc, List.cons_append]
    exact execute_of_not_supports hName hTable earlier _

/-- A function of the whole text, and one of all arguments. -/
def shaping : Assembly :=
  .variadic (.unary .empty "Upper" fun _ text => .ok (.text text)) "join" fun _ arguments =>
    .ok (.list (arguments.map .text))

/-- A function of two arguments that makes one pair and no more.  Its name differs from that of an
    earlier one in case only. -/
def pairing : Function where
  name := "UPPER"
  arity := .exactly 2
  body earlier arguments :=
    if earlier = [] then .ok (.list (arguments.map .text)) else .error (.evaluation "one pair only")

theorem execute_merge_shaping :
    let merged := shaping.merge (.exactly .empty pairing.name 2 pairing.body)
    Call.IsName "uPPer".toList ∧ IsLast merged.registered "uPPer" pairing ∧
      merged.table.execute [] "uPPer(x)" = .error (.argumentCount "UPPER" 2 1 "x") ∧
      merged.table.execute ["uPPer(x)"] "uPPer(x,y)" = .error (.evaluation "one pair only") ∧
      merged.table.supports "lower" = false ∧
      merged.table.execute ["uPPer(x)"] "lower(x)" = .ok none := by
  intro merged
  obtain ⟨-, -, hReached, hUnknown, -⟩ := execute_merge merged .empty .empty
  have hName : Call.IsName "uPPer".toList := by decide
  have isLast : IsLast merged.registered "uPPer" pairing :=
    ⟨shaping.registered, [], rfl, by decide +kernel, List.forall_mem_nil _⟩
  have hOne : Call.splitArguments "x" = ["x"] := by decide +kernel
  have hTwo : Call.splitArguments "x,y" = ["x", "y"] := by decide +kernel
  have hCount : pairing.call [] "x" = .error (.argumentCount "UPPER" 2 1 "x") := by
    rw [Function.call, Function.arguments, pairing]
    simp only [hOne]
    rfl
  have hOnce : pairing.call ["uPPer(x)"] "x,y" = .error (.evaluation "one pair only") := by
    rw [Function.call, Function.arguments, pairing]
    simp only [hTwo]
    rfl
  have hLower : merged.table.supports "lower" = false := by decide +kernel
  refine ⟨hName, isLast, ?_, ?_, hLower,
    hUnknown ["uPPer(x)"] "lower".toList ['x'] (by decide) hLower⟩
  · exact (hReached [] _ ['x'] pairing hName isLast).trans (congrArg (Except.map some) hCount)
  · exact (hReached ["uPPer(x)"] _ ['x', ',', 'y'] pairing hName isLast).trans
      (congrArg (Except.map some) hOnce)

end Assembly

end FunctionTable

end StepArguments
