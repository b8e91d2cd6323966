import StepArguments.Functions.Standard
import StepArguments.Proofs.Functions.Encoding
import StepArguments.Proofs.Text.LetterCase

/-! # The functions on text

The functions on text are registered one after the other under names that differ by more than the case
of their letters.  So none takes the place of another one, and each is found under its name
(`get?_stringFunctions`).
-/

namespace StepArguments.FunctionTable

namespace Assembly

def mapping (before : Assembly) (name : String) (f : List Char → List Char) : Assembly :=
  before.unary name fun _ argument => .ok (.text (String.ofList (f argument.toList)))

@[simp] theorem registered_mapping (before : Assembly) (name : String)
    (f : List Char → List Char) :
    (before.mapping name f).registered = before.registered ++ [.mapping name f] := rfl

/-- A function is found under its name if no other one has this name in lower case. -/
theorem get?_table (a : Assembly)
    (hDistinct : (a.registered.map Function.name |>.map Text.lower).Nodup) {f : Function}
    (hf : f ∈ a.registered) : a.table.get? (Text.lower f.name) = some f := by
  obtain ⟨before, after, hFunctions⟩ := List.append_of_mem hf
  rw [hFunctions, List.map_append, List.map_cons, List.map_append, List.map_cons] at hDistinct
  have hNotLater := (List.nodup_cons.1 (List.nodup_append.1 hDistinct).2.1).1
  rw [a.holds.get?]
  refine last?_of_isLast ⟨before, after, hFunctions, rfl, fun later hLater hName => hNotLater ?_⟩
  exact hName ▸ List.mem_map_of_mem (List.mem_map_of_mem hLater)

end Assembly

/-- The way in which the table of the functions on text comes about. -/
def textAssembly (choice : Choice) : Assembly :=
  Assembly.empty
    |>.mapping "trim" Text.trimChars
    |>.mapping "toLowerCase" Text.lowerChars
    |>.mapping "toUpperCase" Text.upperChars
    |>.mapping "capitalizeFirstWord" Text.capitalize
    |>.mapping "capitalizeWords" (Text.mapWords Text.capitalize)
    |>.mapping "capitalizeWordsFully" (fun s => Text.mapWords Text.capitalize (Text.lowerChars s))
    |>.mapping "uncapitalizeFirstWord" Text.uncapitalize
    |>.mapping "uncapitalizeWords" (Text.mapWords Text.uncapitalize)
    |>.mapping "escapeHTML" Text.Html.escape
    |>.mapping "escapeJSON" Json.inside
    |>.mapping "quoteRegExp" Text.Pattern.quote
    |>.variadic "anyOf" (fun earlier arguments => .ok (.text (choice.among earlier arguments)))
    |>.exactly "substringBefore" 2
      (fun _ arguments =>
        .ok (.text (substringBefore (arguments.getD 0 "") (arguments.getD 1 ""))))
    |>.exactly "substringAfter" 2
      (fun _ arguments =>
        .ok (.text (substringAfter (arguments.getD 0 "") (arguments.getD 1 ""))))

theorem table_textAssembly (choice : Choice) :
    (textAssembly choice).table = stringFunctions choice := rfl

theorem get?_stringFunctions {choice : Choice} {f : Function}
    (hf : f ∈ (textAssembly choice).registered) :
    (stringFunctions choice).get? (Text.lower f.name) = some f := by
  have hNames : (textAssembly choice).registered.map Function.name =
      ["trim", "toLowerCase", "toUpperCase", "capitalizeFirstWord", "capitalizeWords",
        "capitalizeWordsFully", "uncapitalizeFirstWord", "uncapitalizeWords", "escapeHTML",
        "escapeJSON", "quoteRegExp", "anyOf", "substringBefore", "substringAfter"] := rfl
  have hDistinct : ((textAssembly choice).registered.map Function.name |>.map Text.lower).Nodup := by
    rw [hNames]
    exact Text.nodup_lower (by decide +kernel) (by decide +kernel)
  rw [← table_textAssembly]
  exact (textAssembly choice).get?_table hDistinct hf

end StepArguments.FunctionTable
