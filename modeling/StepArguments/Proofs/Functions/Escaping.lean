import StepArguments.Proofs.Functions.Standard
import StepArguments.Proofs.Json.Escaping
import StepArguments.Proofs.Json.RoundTrip
import StepArguments.Proofs.Text.Html

/-! # Text made safe for JSON and HTML

Both functions take the whole text of a call.  What `escapeJSON` makes of a text can be put between
quotes and is then read as just this text, be it full of quotes and backslashes itself
(`execute_escapeJSON`).  What `escapeHTML` makes of it has no markup, and the text can be read out of
it again (`execute_escapeHTML`).
-/

namespace StepArguments

namespace FunctionTable

theorem get?_escaping (choice : Choice) :
    (stringFunctions choice).get? (Text.lower "escapeHTML") =
        some (.mapping "escapeHTML" Text.Html.escape) ∧
      (stringFunctions choice).get? (Text.lower "escapeJSON") =
        some (.mapping "escapeJSON" Json.inside) :=
  ⟨get?_stringFunctions (f := .mapping "escapeHTML" Text.Html.escape)
      (by simp [textAssembly, Assembly.registered]),
    get?_stringFunctions (f := .mapping "escapeJSON" Json.inside)
      (by simp [textAssembly, Assembly.registered])⟩

/-- The result of `escapeJSON` is the JSON text of its argument without the two quotes, it can stand
    between quotes, and there it is read as the argument. -/
theorem execute_escapeJSON (choice : Choice) (text : String) :
    ∃ inside,
      (∀ earlier, (stringFunctions choice).execute earlier (Call.ofText "escapeJSON" text) =
          .ok (some (.text inside))) ∧
        '"' :: inside.toList ++ ['"'] = (Value.text text).jsonChars ∧
        Json.parse ('"' :: inside.toList ++ ['"']) = .ok (.text text) ∧
        Json.FitsQuotes inside.toList := by
  have hName : Call.IsName "escapeJSON".toList := by decide +kernel
  have hQuoted : '"' :: (String.ofList (Json.inside text.toList)).toList ++ ['"'] =
      (Value.text text).jsonChars := by
    rw [String.toList_ofList, Json.inside_eq_body, Value.jsonChars, Json.quoted]
  refine ⟨_, fun earlier => execute_of_mapping hName (get?_escaping choice).2 earlier text, hQuoted,
    ?_, ?_⟩
  · rw [hQuoted]
    exact Json.parse_jsonChars (.text text)
  · rw [String.toList_ofList, Json.inside_eq_body]
    exact (Json.isBody_body text.toList).fitsQuotes

/-- The result of `escapeHTML` has no markup, it is made part by part, and it is made of one text
    only, which reading its entities gives back. -/
theorem execute_escapeHTML (choice : Choice) (text other : String) :
    (∀ earlier, (stringFunctions choice).execute earlier (Call.ofText "escapeHTML" text) =
        .ok (some (.text (Text.Html.escapedText text)))) ∧
      Text.Html.IsEscaped (Text.Html.escapedText text).toList ∧
      Text.Html.escapedText (text ++ other) =
        Text.Html.escapedText text ++ Text.Html.escapedText other ∧
      (Text.Html.escapedText text = Text.Html.escapedText other ↔ text = other) ∧
      Text.Html.unescape (Text.Html.escapedText text).toList = text.toList := by
  have hName : Call.IsName "escapeHTML".toList := by decide +kernel
  refine ⟨fun earlier => execute_of_mapping hName (get?_escaping choice).1 earlier text, ?_,
    Text.Html.escapedText_append text other, Text.Html.escapedText_injective.eq_iff, ?_⟩
  · rw [Text.Html.escapedText, String.toList_ofList]
    exact Text.Html.isEscaped_escape text.toList
  · rw [Text.Html.escapedText, String.toList_ofList, Text.Html.unescape_escape]

end FunctionTable

end StepArguments
