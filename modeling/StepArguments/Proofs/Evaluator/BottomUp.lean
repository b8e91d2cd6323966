import StepArguments.Proofs.Evaluator.Forest
import StepArguments.Proofs.Evaluator.Settling

/-! # Evaluation from the innermost calls outwards

The evaluation of a text knows of no calls in calls: it goes over the text again and again.  If the
text is that of a forest, and the functions are tame, then what it comes to is the evaluation of the
forest (`evaluate_forest`).  A reluctant pass takes a step of the forest.  The reluctant turn ends
with a forest that has no step left, or with the value of the last call if there is nothing around
it, and the greedy turn leaves the former as it is.
-/

namespace StepArguments

open Expression (Plain Clear substitute writtenAs)

/-- The text of the value that a call has in the first table that supports its name, before anything
    was asked; tame tables give no other one later. -/
def FunctionTable.callText? (tables : List FunctionTable) (name argument : List Char) :
    Option (List Char) :=
  (tables.find? fun table => table.supports (String.ofList name)).bind fun table =>
    match table.execute [] (String.ofList (Call.written name argument)) with
    | .ok (some value) => some value.chars
    | _ => none

namespace Evaluator

def ofTables (tables : List FunctionTable) : Evaluator where
  processors := tables.map FunctionTable.execute

variable {tables : List FunctionTable} {name : List Char} {forest : Forest} {strategy : Strategy}
  {h : History} {place : Nat}

/-! ## Answers of tables -/

theorem firstAnswer_of_tame (hTables : ∀ table ∈ tables, table.Tame) (expression : String) :
    firstAnswer h place (tables.map FunctionTable.execute) expression = .ok none ∨
      ∃ value, firstAnswer h place (tables.map FunctionTable.execute) expression =
        .ok (some value) ∧ Plain value.chars := by
  induction tables generalizing place with
  | nil => exact .inl rfl
  | cons table tables ih =>
    rw [List.forall_mem_cons] at hTables
    rw [List.map_cons, firstAnswer]
    rcases hTables.1.execute expression with hNone | ⟨value, hValue, hPlain⟩
    · rw [hNone]
      exact ih hTables.2
    · rw [hValue]
      exact .inr ⟨value, rfl, hPlain⟩

theorem firstAnswer_of_not_supports (hName : Call.IsName name)
    (hTables : ∀ table ∈ tables, table.supports (String.ofList name) = false) (rest : List Char) :
    firstAnswer h place (tables.map FunctionTable.execute) (String.ofList (name ++ '(' :: rest)) =
      .ok none := by
  induction tables generalizing place with
  | nil => rfl
  | cons table tables ih =>
    rw [List.forall_mem_cons] at hTables
    rw [List.map_cons, firstAnswer, FunctionTable.execute_of_not_supports hName hTables.1]
    exact ih hTables.2

theorem firstAnswer_written (hName : Call.IsName name) (hTables : ∀ table ∈ tables, table.Tame)
    {table : FunctionTable}
    (hFind : tables.find? (fun table => table.supports (String.ofList name)) = some table)
    (argument : List Char) :
    firstAnswer h place (tables.map FunctionTable.execute)
        (String.ofList (Call.written name argument)) =
      table.execute [] (String.ofList (Call.written name argument)) := by
  induction tables generalizing place with
  | nil => cases hFind
  | cons first tables ih =>
    rw [List.forall_mem_cons] at hTables
    rw [List.find?_cons] at hFind
    rw [List.map_cons, firstAnswer]
    split at hFind
    · rename_i hSupports
      obtain rfl := Option.some.inj hFind
      obtain ⟨value, hValue, _⟩ := hTables.1.execute_written hName hSupports argument
      rw [hValue, hValue]
    · rename_i hOther
      have hNone := FunctionTable.execute_of_not_supports hName hOther
        (h.expressionsAt place) (argument ++ [')'])
      rw [← List.cons_append, ← List.append_assoc] at hNone
      rw [Call.written, hNone]
      exact ih hTables.2 hFind

theorem steady_ofTables (hTables : ∀ table ∈ tables, table.Tame) (h : History) :
    (ofTables tables).Steady h := by
  intro place p hPlace earlier _ expression
  obtain ⟨table, hMem, rfl⟩ := List.mem_map.1 (List.mem_of_getElem? hPlace)
  rw [(hTables table hMem).execute_eq, (hTables table hMem).execute_eq (h.expressionsAt place)]

theorem exists_callText? (hName : Call.IsName name) (hTables : ∀ table ∈ tables, table.Tame)
    {table : FunctionTable}
    (hFind : tables.find? (fun table => table.supports (String.ofList name)) = some table)
    (argument : List Char) :
    ∃ value, (∀ h, (ofTables tables).answer h (Call.written name argument) = .ok (some value)) ∧
      FunctionTable.callText? tables name argument = some value.chars := by
  have hTable := hTables table (List.mem_of_find?_eq_some hFind)
  have hSupports := List.find?_some hFind
  obtain ⟨value, hValue, _⟩ := hTable.execute_written hName hSupports argument
  refine ⟨value, ?_, ?_⟩
  · intro h
    rw [answer, ofTables, firstAnswer_written hName hTables hFind, hValue]
  · rw [FunctionTable.callText?, hFind, Option.bind_some, hValue]

theorem replaces_ofTables (hTables : ∀ table ∈ tables, table.Tame) :
    Forest.Replaces (FunctionTable.callText? tables) ((ofTables tables).replaced h) where
  value name argument t hName hText := by
    cases hFind : tables.find? (fun table => table.supports (String.ofList name)) with
    | none =>
      rw [FunctionTable.callText?, hFind] at hText
      cases hText
    | some table =>
      obtain ⟨value, hAnswer, hValue⟩ := exists_callText? hName hTables hFind argument
      rw [replaced, hAnswer]
      exact Option.some.inj (hValue.symm.trans hText)
  written name argument rest hName hNone := by
    cases hFind : tables.find? (fun table => table.supports (String.ofList name)) with
    | none =>
      have hTables : ∀ table ∈ tables, table.supports (String.ofList name) = false := by
        simpa using List.find?_eq_none.1 hFind
      rw [replaced, answer, ofTables, firstAnswer_of_not_supports hName hTables]
    | some table =>
      obtain ⟨value, _, hValue⟩ := exists_callText? hName hTables hFind argument
      rw [hNone] at hValue
      cases hValue

theorem plain_callText? (hTables : ∀ table ∈ tables, table.Tame) (name argument t : List Char)
    (hText : FunctionTable.callText? tables name argument = some t) : Plain t := by
  obtain ⟨table, hFind, hValue⟩ := Option.bind_eq_some_iff.1 hText
  split at hValue
  · rename_i value hExecute
    rcases (hTables table (List.mem_of_find?_eq_some hFind)).execute
      (String.ofList (Call.written name argument)) with hNone | ⟨value', hSome, hPlain⟩
    · rw [hNone] at hExecute
      cases hExecute
    · rw [hSome] at hExecute
      obtain rfl : value' = value := by simpa using hExecute
      rw [← Option.some.inj hValue]
      exact hPlain
  · cases hValue

/-! ## Passes over a forest -/

theorem failure?_ofTables (hTables : ∀ table ∈ tables, table.Tame) (s : List Char) :
    (ofTables tables).failure? h strategy s = none := by
  rw [failure?_eq_none_iff]
  intro m _
  rcases firstAnswer_of_tame hTables (String.ofList m.inside) with hNone | ⟨value, hValue, _⟩
  · exact ⟨none, hNone⟩
  · exact ⟨some value, hValue⟩

theorem substitute_forest (hTables : ∀ table ∈ tables, table.Tame) (hForest : forest.WellFormed)
    (hStrategy : strategy = .reluctant ∨
      forest.step (FunctionTable.callText? tables) = forest) :
    substitute strategy ((ofTables tables).replaced h) forest.chars =
      (forest.step (FunctionTable.callText? tables)).chars := by
  have hPass := Forest.substitute_chars (replaces_ofTables (h := h) hTables) hForest hStrategy
    Expression.clear_nil
  rw [List.append_nil, Expression.substitute_nil, List.append_nil] at hPass
  exact hPass

theorem plain_of_native? (hTables : ∀ table ∈ tables, table.Tame) {s : List Char} {value : Value}
    (hNative : (ofTables tables).native? h strategy s = some value) : Plain value.chars := by
  obtain ⟨⟨content, _, hAnswer⟩, _⟩ := of_native?_eq_some hNative
  rcases firstAnswer_of_tame hTables (String.ofList content) with hNone | ⟨found, hFound, hPlain⟩
  · cases hNone.symm.trans hAnswer
  · cases hFound.symm.trans hAnswer
    exact hPlain

theorem evaluated_of_native? (hTables : ∀ table ∈ tables, table.Tame)
    (hForest : forest.WellFormed) {value : Value}
    (hNative : (ofTables tables).native? h .reluctant forest.chars = some value) :
    (forest.evaluated (FunctionTable.callText? tables)).1 = value.chars := by
  have hPlain := plain_of_native? hTables hNative
  obtain ⟨_, _, hChars⟩ := of_native?_eq_some hNative
  rw [substitute_forest hTables hForest (.inl rfl)] at hChars
  rw [hChars] at hPlain ⊢
  rw [← Forest.evaluated_step,
    Forest.evaluated_of_flat (Forest.flat_of_hash_not_mem hPlain.hash)]

theorem native?_eq_none_of_step_eq (hTables : ∀ table ∈ tables, table.Tame)
    (hForest : forest.WellFormed)
    (hStep : forest.step (FunctionTable.callText? tables) = forest) :
    (ofTables tables).native? h strategy forest.chars = none := by
  cases hNative : (ofTables tables).native? h strategy forest.chars with
  | none => rfl
  | some value =>
    have hPlain := plain_of_native? hTables hNative
    obtain ⟨⟨content, hWhole, _⟩, _, hChars⟩ := of_native?_eq_some hNative
    rw [substitute_forest hTables hForest (.inr hStep), hStep, hWhole] at hChars
    rw [hChars] at hPlain
    exact absurd (by simp [writtenAs]) hPlain.hash

theorem passValue_forest (hTables : ∀ table ∈ tables, table.Tame) (hForest : forest.WellFormed)
    (hStrategy : strategy = .reluctant ∨
      forest.step (FunctionTable.callText? tables) = forest)
    (hNative : (ofTables tables).native? h strategy forest.chars = none) :
    (ofTables tables).passValue h strategy (String.ofList forest.chars) =
      .ok (.text (String.ofList (forest.step (FunctionTable.callText? tables)).chars)) := by
  rw [passValue, String.toList_ofList, failure?_ofTables hTables, hNative,
    substitute_forest hTables hForest hStrategy]
  rfl

/-! ## Turns over a forest -/

theorem ofList_chars_ne (hForest : forest.WellFormed) {next : Forest} (hNext : next.WellFormed)
    (hLess : next.calls < forest.calls) : String.ofList next.chars ≠ String.ofList forest.chars := by
  intro hSame
  have hChars : next.chars = forest.chars := by simpa using congrArg String.toList hSame
  rw [← Forest.count_hash_chars hForest, ← Forest.count_hash_chars hNext, hChars] at hLess
  exact Nat.lt_irrefl _ hLess

/-- The reluctant turn ends with the value of the whole forest, or with a forest without a step. -/
theorem settles_forest (hTables : ∀ table ∈ tables, table.Tame) (hForest : forest.WellFormed) :
    (∃ value, (ofTables tables).Settles h .reluctant (String.ofList forest.chars) (.ok value) ∧
        value.isText = false ∧
        (forest.evaluated (FunctionTable.callText? tables)).1 = value.chars) ∨
      ∃ settled : Forest, settled.WellFormed ∧
        settled.step (FunctionTable.callText? tables) = settled ∧
        settled.evaluated (FunctionTable.callText? tables) =
          forest.evaluated (FunctionTable.callText? tables) ∧
        (ofTables tables).Settles h .reluctant (String.ofList forest.chars)
          (.ok (.text (String.ofList settled.chars))) := by
  induction hCalls : forest.calls using Nat.strongRecOn generalizing forest with
  | _ count ih =>
    subst hCalls
    cases hNative : (ofTables tables).native? h .reluctant forest.chars with
    | some value =>
      obtain ⟨_, hText, _⟩ := of_native?_eq_some hNative
      refine .inl ⟨value, .stop ?_ ?_, hText, evaluated_of_native? hTables hForest hNative⟩
      · rw [passValue, String.toList_ofList, failure?_ofTables hTables, hNative]
        rfl
      · rintro s hSome
        cases hSome
        cases hText
    | none =>
      have hPass := passValue_forest hTables hForest (.inl rfl) hNative
      rcases Forest.step_eq_or_calls_step_lt (FunctionTable.callText? tables) forest with
        hStep | hLess
      · rw [hStep] at hPass
        exact .inr ⟨forest, hForest, hStep, rfl, .stay hPass⟩
      · have hNext := Forest.wellFormed_step (plain_callText? hTables) hForest
        have hOther := ofList_chars_ne hForest hNext hLess
        rcases ih _ hLess hNext rfl with ⟨value, settles, hText, hValue⟩ |
          ⟨settled, hSettled, hStep, hEvaluated, settles⟩
        · rw [Forest.evaluated_step] at hValue
          exact .inl ⟨value, .change hPass hOther settles, hText, hValue⟩
        · rw [Forest.evaluated_step] at hEvaluated
          exact .inr ⟨settled, hSettled, hStep, hEvaluated, .change hPass hOther settles⟩

theorem evaluates_forest (hTables : ∀ table ∈ tables, table.Tame) (hForest : forest.WellFormed) :
    ∃ value, (ofTables tables).Evaluates h (String.ofList forest.chars) (.ok value) ∧
      value.chars = (forest.evaluated (FunctionTable.callText? tables)).1 := by
  rcases settles_forest hTables hForest with ⟨value, reluctant, hText, hValue⟩ |
    ⟨settled, hSettled, hStep, hEvaluated, reluctant⟩
  · refine ⟨value, .stopReluctant reluctant ?_, hValue.symm⟩
    rintro s hSome
    cases hSome
    cases hText
  · have greedy : (ofTables tables).passValue h .greedy (String.ofList settled.chars) = _ :=
      passValue_forest hTables hSettled (.inr hStep)
        (native?_eq_none_of_step_eq hTables hSettled hStep)
    rw [hStep] at greedy
    refine ⟨_, .stay reluctant (.stay greedy), ?_⟩
    rw [← hEvaluated, Forest.evaluated_of_step_eq hStep, Value.chars, String.toList_ofList]

/-- The text of a forest evaluates to the evaluation of the forest from the innermost calls
    outwards, with as many passes as it takes. -/
theorem evaluate_forest (tables : List FunctionTable) (hTables : ∀ table ∈ tables, table.Tame)
    (forest : Forest) (hForest : forest.WellFormed) :
    ∃ value, value.chars = (forest.evaluated (FunctionTable.callText? tables)).1 ∧
      ∃ bound, ∀ passes, bound ≤ passes → ∀ h, ∃ h',
        (ofTables tables).evaluate passes (String.ofList forest.chars) h =
          some (.ok value, h') := by
  obtain ⟨value, evaluates, hValue⟩ := evaluates_forest hTables hForest
  obtain ⟨bound, hBound⟩ := evaluates.evaluate_eq (steady_ofTables hTables []) rfl
  exact ⟨value, hValue, bound, fun passes hPasses h => hBound passes hPasses h List.nil_suffix⟩

def isBlankTable : FunctionTable :=
  FunctionTable.empty.unary "isBlank" fun _ s => .ok (.bool s.isEmpty)

def amountTable : FunctionTable :=
  FunctionTable.empty.variadic "amount" fun _ arguments =>
    .ok (.text (if arguments.length < 2 then "one" else "many"))

theorem tame_isBlankTable : isBlankTable.Tame := by
  refine FunctionTable.tame_empty.register ⟨.inl rfl, fun _ arguments _ => ⟨_, fun _ => rfl, ?_⟩⟩
  cases (arguments.headD "").isEmpty <;> exact ⟨by decide, by decide, by decide⟩

theorem tame_amountTable : amountTable.Tame := by
  refine FunctionTable.tame_empty.register ⟨.inr rfl, fun _ arguments _ => ⟨_, fun _ => rfl, ?_⟩⟩
  split <;> exact ⟨by decide, by decide, by decide⟩

def amountForest : Forest :=
  .call "amount".toList (.text "x,".toList (.call "isblank".toList .nil .nil))
    (.text " ".toList (.call "f".toList (.call "isblank".toList (.text "y".toList .nil) .nil) .nil))

theorem evaluate_forest_amount :
    ((∀ table ∈ [isBlankTable, amountTable], table.Tame) ∧ amountForest.WellFormed ∧
      amountForest.chars = "#{amount(x,#{isblank()})} #{f(#{isblank(y)})}".toList) ∧
      ∃ value : Value, value.chars = "many #{f(false)}".toList ∧
        ∃ bound, ∀ passes, bound ≤ passes → ∀ h, ∃ h',
          (ofTables [isBlankTable, amountTable]).evaluate passes
            (String.ofList amountForest.chars) h = some (.ok value, h') := by
  have hTables : ∀ table ∈ [isBlankTable, amountTable], table.Tame := by
    simp [tame_isBlankTable, tame_amountTable]
  have hForest : amountForest.WellFormed := by decide +kernel
  have hEvaluated : (amountForest.evaluated
      (FunctionTable.callText? [isBlankTable, amountTable])).1 = "many #{f(false)}".toList := by
    decide +kernel
  refine ⟨⟨hTables, hForest, by decide +kernel⟩, ?_⟩
  obtain ⟨value, hValue, hEvaluate⟩ := evaluate_forest _ hTables amountForest hForest
  exact ⟨value, hValue.trans hEvaluated, hEvaluate⟩

end Evaluator

end StepArguments
