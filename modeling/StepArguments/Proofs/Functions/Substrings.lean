import StepArguments.Proofs.Functions.Arguments
import StepArguments.Proofs.Functions.Standard

/-! # Before and after a separator

The two functions on substrings divide a text in three where its separator stands first, and leave a
text without the separator whole.  `Divides` says so without a search, and the search gives just this
(`substrings_divide`).  Between three quotes both arguments come to the functions as they are, be
there commas and parentheses in them, so that no call of this form fails (`execute_substrings`).
-/

namespace StepArguments

/-! ## The division -/

/-- The parts of a text around the leftmost occurrence of a separator; without an occurrence the
    first part is all of the text. -/
structure Divides (text separator before after : String) : Prop where
  occurs : separator.toList <:+: text.toList → text = before ++ separator ++ after
  /-- Up to the end of the separator that is cut out there is no other. -/
  leftmost : separator.toList <:+: text.toList →
    ∀ earlier later, before ++ separator = earlier ++ separator ++ later → later = ""
  missing : ¬ separator.toList <:+: text.toList → before = text ∧ after = ""

variable {text separator before after : String}

theorem substrings_divide (text separator : String) :
    Divides text separator (substringBefore text separator) (substringAfter text separator) := by
  rw [substringBefore, substringAfter]
  cases hCut : Text.cut? separator.toList text.toList with
  | none =>
    have hMissing := Text.cut?_eq_none_iff.1 hCut
    exact ⟨(absurd · hMissing), (absurd · hMissing), fun _ => ⟨rfl, rfl⟩⟩
  | some parts =>
    obtain ⟨before, after⟩ := parts
    have hText := Text.eq_of_cut? hCut
    refine ⟨fun _ => ?_, fun _ earlier later hOccurs => ?_, fun hMissing => ?_⟩
    · rw [← String.toList_inj]
      simpa using hText
    · rw [← String.toList_inj] at hOccurs ⊢
      simp only [String.toList_append, String.toList_ofList] at hOccurs
      exact Text.leftmost_of_cut? hCut hOccurs
    · exact absurd ⟨before, after, hText.symm⟩ hMissing

/-- The empty separator stands in front of the whole text. -/
theorem Divides.of_empty (divides : Divides text "" before after) : before = "" ∧ after = text := by
  have hOccurs : "".toList <:+: text.toList := List.nil_infix
  have hBefore := divides.leftmost hOccurs "" before (by simp)
  have hText := divides.occurs hOccurs
  simp only [hBefore, String.empty_append, String.append_empty] at hText
  exact ⟨hBefore, hText.symm⟩

/-! ## Calls -/

namespace Call

/-- A text between three quotes. -/
def quoted (text : String) : String :=
  "\"\"\"" ++ text ++ "\"\"\""

/-- A text that comes back as it is if it is written between three quotes. -/
structure Quotable (text : String) : Prop where
  inside : ¬ threeQuotes <:+: text.toList
  last : text.toList.getLast? ≠ some '"'

/-- A call with two arguments between three quotes, and a comma between them. -/
def ofQuoted (name first second : String) : String :=
  ofText name (quoted first ++ "," ++ quoted second)

theorem Quotable.writes (quotable : Quotable text) : Writes (quoted text).toList text.toList := by
  have hWrites := @Writes.quoted [] text.toList [] (List.forall_mem_nil _) (List.forall_mem_nil _)
    quotable.inside quotable.last
  rw [quoted, String.toList_append, String.toList_append]
  rwa [List.nil_append, List.append_nil] at hWrites

theorem splitArguments_quoted {first second : String} (hFirst : Quotable first)
    (hSecond : Quotable second) :
    splitArguments (quoted first ++ "," ++ quoted second) = [first, second] := by
  have hSplit := splitFrom_separated (.cons hFirst.writes (.cons hSecond.writes .nil))
    (List.cons_ne_nil _ _)
  simpa [splitArguments, separated] using hSplit

end Call

theorem Function.call_of_splitArguments {f : Function} {call : String} {arguments : List String}
    (hArity : f.arity = .exactly arguments.length)
    (hSplit : Call.splitArguments call = arguments) (earlier : List String) :
    f.call earlier call = f.body earlier arguments := by
  rw [Function.call, Function.arguments, hArity]
  simp only [hSplit, if_pos]
  rfl

namespace FunctionTable

theorem get?_substringBefore (choice : Choice) :
    (stringFunctions choice).get? (Text.lower "substringBefore") =
      some ⟨"substringBefore", .exactly 2, fun _ arguments =>
        .ok (.text (substringBefore (arguments.getD 0 "") (arguments.getD 1 "")))⟩ :=
  get?_stringFunctions (f := ⟨"substringBefore", _, _⟩)
    (by simp [textAssembly, Assembly.registered])

theorem get?_substringAfter (choice : Choice) :
    (stringFunctions choice).get? (Text.lower "substringAfter") =
      some ⟨"substringAfter", .exactly 2, fun _ arguments =>
        .ok (.text (substringAfter (arguments.getD 0 "") (arguments.getD 1 "")))⟩ :=
  get?_stringFunctions (f := ⟨"substringAfter", _, _⟩)
    (by simp [textAssembly, Assembly.registered])

theorem execute_ofQuoted {table : FunctionTable} {name first second : String} {f : Function}
    (hName : Call.IsName name.toList) (hGet : table.get? (Text.lower name) = some f)
    (hArity : f.arity = .exactly 2) (hFirst : Call.Quotable first)
    (hSecond : Call.Quotable second) (earlier : List String) :
    table.execute earlier (Call.ofQuoted name first second) =
      (f.body earlier [first, second]).map some := by
  rw [Call.ofQuoted, execute_ofText hName hGet,
    Function.call_of_splitArguments hArity (Call.splitArguments_quoted hFirst hSecond)]

/-- Of a text and a separator between three quotes the two functions give the parts of the text
    around the leftmost occurrence of the separator. -/
theorem execute_substrings (choice : Choice) (text separator : String)
    (hText : Call.Quotable text) (hSeparator : Call.Quotable separator) :
    ∃ before after,
      (∀ earlier, (stringFunctions choice).execute earlier
          (Call.ofQuoted "substringBefore" text separator) = .ok (some (.text before))) ∧
        (∀ earlier, (stringFunctions choice).execute earlier
          (Call.ofQuoted "substringAfter" text separator) = .ok (some (.text after))) ∧
        Divides text separator before after ∧ (separator = "" → before = "" ∧ after = text) := by
  have hBefore : Call.IsName "substringBefore".toList := by decide +kernel
  have hAfter : Call.IsName "substringAfter".toList := by decide +kernel
  have divides := substrings_divide text separator
  refine ⟨_, _, ?_, ?_, divides, ?_⟩
  · intro earlier
    rw [execute_ofQuoted hBefore (get?_substringBefore choice) rfl hText hSeparator]
    rfl
  · intro earlier
    rw [execute_ofQuoted hAfter (get?_substringAfter choice) rfl hText hSeparator]
    rfl
  · rintro rfl
    exact divides.of_empty

/-- A separator with a comma in it, which stands twice in the text and once across both places. -/
theorem execute_substrings_overlapping :
    let functions := stringFunctions fun _ _ => 0
    Call.Quotable "größe(a,a,a)" ∧ Call.Quotable "a,a" ∧
      Call.ofQuoted "substringAfter" "größe(a,a,a)" "a,a" =
        "substringAfter(\"\"\"größe(a,a,a)\"\"\",\"\"\"a,a\"\"\")" ∧
      ∃ before after,
        functions.execute [] (Call.ofQuoted "substringBefore" "größe(a,a,a)" "a,a") =
            .ok (some (.text before)) ∧
          functions.execute [] (Call.ofQuoted "substringAfter" "größe(a,a,a)" "a,a") =
            .ok (some (.text after)) ∧
          Divides "größe(a,a,a)" "a,a" before after := by
  have hText : Call.Quotable "größe(a,a,a)" := ⟨by decide +kernel, by decide +kernel⟩
  have hSeparator : Call.Quotable "a,a" := ⟨by decide +kernel, by decide +kernel⟩
  obtain ⟨before, after, hBefore, hAfter, divides, -⟩ :=
    execute_substrings (fun _ _ => 0) "größe(a,a,a)" "a,a" hText hSeparator
  exact ⟨hText, hSeparator, by decide +kernel, before, after, hBefore [], hAfter [], divides⟩

end FunctionTable

end StepArguments
