import StepArguments.Functions.Standard
import StepArguments.Proofs.Functions.Merging
import StepArguments.Proofs.Text.Base64

/-! # Base64 there and back

The text of a call goes to either function as a whole, parentheses, commas and quotes in it included.
So what the one function makes of a text the other one turns back into it, and blanks around the code
do not matter (`execute_base64`).  The bytes that come back are those of a text, which is why the lossy
reading loses nothing.
-/

namespace StepArguments

/-! ## Codes -/

namespace Text

theorem Base64.IsCode.trimChars {code before after : List Char} (isCode : IsCode code)
    (hBefore : ∀ c ∈ before, isBlank c = true) (hAfter : ∀ c ∈ after, isBlank c = true) :
    Text.trimChars (before ++ code ++ after) = code := by
  have hVisible (c : Char) (hMem : c ∈ code) : isBlank c = false :=
    isBlank_of_visible (isCode.visible c hMem).1 (isCode.visible c hMem).2
  rw [trimChars_append_blank hAfter, trimChars_blank_append hBefore]
  exact trimChars_eq_self (fun c hHead => hVisible c (List.mem_of_head? hHead))
    fun c hLast => hVisible c (List.mem_of_getLast? hLast)

/-- The code of a text. -/
def Base64.codeOf (text : String) : String :=
  String.ofList (encode (Utf8.encode text.toList))

end Text

open Text.Base64 (codeOf)

theorem decodeBase64_codeOf (text : String) {before after : String}
    (hBefore : Text.isBlankText before = true) (hAfter : Text.isBlankText after = true) :
    decodeBase64 (before ++ codeOf text ++ after) = .ok text := by
  have hTrim := (Text.Base64.isCode_encode (Text.Utf8.encode text.toList)).trimChars
    (List.all_eq_true.1 hBefore) (List.all_eq_true.1 hAfter)
  rw [decodeBase64, String.toList_append, String.toList_append, codeOf, String.toList_ofList, hTrim,
    Text.Base64.decode_encode]
  simp only [Text.Utf8.decodeLossy_encode, String.ofList_toList]

/-! ## Calls -/

/-- A function that changes the characters of its text. -/
def Function.mapping (name : String) (f : List Char → List Char) : Function :=
  ⟨name, .unary, fun _ arguments => .ok (.text (String.ofList (f (arguments.headD "").toList)))⟩

theorem Function.call_of_unary {f : Function} (hArity : f.arity = .unary)
    (earlier : List String) (text : String) : f.call earlier text = f.body earlier [text] := by
  rw [Function.call, Function.arguments, hArity]
  rfl

namespace FunctionTable

theorem execute_of_unary {table : FunctionTable} {name : String} {f : Function}
    (hName : Call.IsName name.toList) (hGet : table.get? (Text.lower name) = some f)
    (hArity : f.arity = .unary) (earlier : List String) (text : String) :
    table.execute earlier (Call.ofText name text) = (f.body earlier [text]).map some := by
  rw [execute_ofText hName hGet, Function.call_of_unary hArity]

theorem execute_of_mapping {table : FunctionTable} {name : String} {f : List Char → List Char}
    (hName : Call.IsName name.toList)
    (hGet : table.get? (Text.lower name) = some (.mapping name f)) (earlier : List String)
    (text : String) :
    table.execute earlier (Call.ofText name text) =
      .ok (some (.text (String.ofList (f text.toList)))) := by
  rw [execute_of_unary hName hGet rfl]
  rfl

theorem execute_encodeToBase64 (earlier : List String) (text : String) :
    encodingFunctions.execute earlier (Call.ofText "encodeToBase64" text) =
      .ok (some (.text (codeOf text))) := by
  have hOther : Text.lower "encodeToBase64" ≠ Text.lower "decodeFromBase64" := by decide +kernel
  have hGet : encodingFunctions.get? (Text.lower "encodeToBase64") =
      some (.mapping "encodeToBase64" fun s => Text.Base64.encode (Text.Utf8.encode s)) := by
    simp only [encodingFunctions, mapping, unary, register, Named.get?_put, if_neg hOther, if_pos]
    rfl
  exact execute_of_mapping (by decide +kernel) hGet earlier text

theorem execute_decodeFromBase64 (earlier : List String) (argument : String) :
    encodingFunctions.execute earlier (Call.ofText "decodeFromBase64" argument) =
      ((decodeBase64 argument).map .text).map some := by
  have hGet : encodingFunctions.get? (Text.lower "decodeFromBase64") =
      some ⟨"decodeFromBase64", .unary, fun _ arguments =>
        (decodeBase64 (arguments.headD "")).map .text⟩ := by
    simp only [encodingFunctions, unary, register, Named.get?_put, if_pos]
  rw [execute_of_unary (by decide +kernel) hGet rfl]
  rfl

/-- Every text has a code of symbols in groups of four, and the code stands for this text, also with
    blanks around it. -/
theorem execute_base64 (text : String) :
    ∃ code,
      (∀ earlier, encodingFunctions.execute earlier (Call.ofText "encodeToBase64" text) =
          .ok (some (.text code))) ∧
        Text.Base64.IsCode code.toList ∧
        ∀ before after, Text.isBlankText before = true → Text.isBlankText after = true →
          ∀ earlier, encodingFunctions.execute earlier
              (Call.ofText "decodeFromBase64" (before ++ code ++ after)) =
            .ok (some (.text text)) := by
  refine ⟨codeOf text, fun earlier => execute_encodeToBase64 earlier text, ?_,
    fun before after hBefore hAfter earlier => ?_⟩
  · rw [codeOf, String.toList_ofList]
    exact Text.Base64.isCode_encode _
  · rw [execute_decodeFromBase64, decodeBase64_codeOf text hBefore hAfter]
    rfl

/-- A text with a comma and parentheses, whose code ends in padding. -/
theorem execute_base64_padded :
    Text.isBlankText "\t" = true ∧ Text.isBlankText "\u2003\n" = true ∧
      encodingFunctions.execute [] (Call.ofText "encodeToBase64" "größe(a, b)") =
        .ok (some (.text "Z3LDtsOfZShhLCBiKQ==")) ∧
      encodingFunctions.execute []
          (Call.ofText "decodeFromBase64" ("\t" ++ "Z3LDtsOfZShhLCBiKQ==" ++ "\u2003\n")) =
        .ok (some (.text "größe(a, b)")) := by
  obtain ⟨code, hEncode, -, hDecode⟩ := execute_base64 "größe(a, b)"
  have hBefore : Text.isBlankText "\t" = true := by decide +kernel
  have hAfter : Text.isBlankText "\u2003\n" = true := by decide +kernel
  have hCode : code = "Z3LDtsOfZShhLCBiKQ==" := by
    have hSame := (hEncode []).symm.trans (execute_encodeToBase64 [] "größe(a, b)")
    obtain rfl : code = codeOf "größe(a, b)" := by
      injection hSame with hSame
      injection hSame with hSame
      injection hSame
    decide +kernel
  subst hCode
  exact ⟨hBefore, hAfter, hEncode [], hDecode _ _ hBefore hAfter []⟩

end FunctionTable

end StepArguments
