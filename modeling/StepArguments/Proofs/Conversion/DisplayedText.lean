import StepArguments.Conversion
import StepArguments.Proofs.Json.RoundTrip

/-! # Displayed values, converted back

The text that a value leaves in the place of a placeholder can be converted to the type of the value
again.  For lists and maps it is their JSON text, for integers and truth values a single word; none
of these has a blank at either end that would be taken for no part of it.
-/

namespace StepArguments

variable {v : Value}

/-! ## Single words -/

theorem not_isBlank_of_isDigit {c : Char} (hc : c.isDigit = true) : Text.isBlank c = false := by
  have hRange : 48 ≤ c.toNat ∧ c.toNat ≤ 57 := by
    simpa [Char.isDigit, UInt32.le_iff_toNat_le] using hc
  simp only [Text.isBlank]
  simp
  omega

theorem not_isBlank_of_mem_integerChars {i : Int} {c : Char} (hc : c ∈ Decimal.integerChars i) :
    Text.isBlank c = false := by
  rw [Decimal.integerChars] at hc
  split at hc
  · cases List.mem_cons.1 hc with
    | inl hSign => rw [hSign]; rfl
    | inr hDigit => exact not_isBlank_of_isDigit (Decimal.isDigit_of_mem_digitChars hDigit)
  · exact not_isBlank_of_isDigit (Decimal.isDigit_of_mem_digitChars hc)

theorem convertText_display_integer (i : Int64) :
    convertText (Value.integer i).display .integer = .ok (.integer i) := by
  have hTrimmed : Text.trimChars (Decimal.integerChars i.toInt) = Decimal.integerChars i.toInt :=
    Text.trimChars_eq_self
      (fun _ hHead => not_isBlank_of_mem_integerChars (List.mem_of_head? hHead))
      fun _ hLast => not_isBlank_of_mem_integerChars (List.mem_of_getLast? hLast)
  rw [convertText, Value.display, Value.chars, Value.jsonChars, String.toList_ofList, hTrimmed,
    Decimal.readInteger_integerChars]

theorem convertText_display_bool (b : Bool) :
    convertText (Value.bool b).display .boolean = .ok (.bool b) := by
  cases b <;> rfl

/-! ## Lists and maps -/

theorem convertText_display_list {items : List Value} (element : TargetType)
    (hParse : Json.parse (Value.list items).jsonChars = .ok (.list items)) :
    convertText (Value.list items).display (.list element) = .ok (.list items) := by
  have hText : (Value.list items).display.toList = (Value.list items).jsonChars := by
    rw [Value.display, Value.chars, String.toList_ofList]
  have hTrimmed : Text.trimChars (Value.list items).jsonChars = (Value.list items).jsonChars := by
    rw [Value.jsonChars]
    apply Text.trimChars_eq_self
    · intro c hHead
      cases hHead
      rfl
    · intro c hLast
      rw [List.getLast?_concat] at hLast
      cases hLast
      rfl
  rw [convertText, hText, hTrimmed, hParse, Value.jsonChars]
  rfl

theorem convertText_display_map {entries : Bindings}
    (hParse : Json.parse (Value.map entries).jsonChars = .ok (.map entries)) :
    convertText (Value.map entries).display .map = .ok (.map entries) := by
  rw [convertText, Value.display, Value.chars, String.toList_ofList, hParse]

/-! ## All values with a type of their own -/

/-- The type that the text of a value is converted to when the value is to come back. -/
inductive Value.HasType : Value → TargetType → Prop where
  | integer (i : Int64) : HasType (.integer i) .integer
  | bool (b : Bool) : HasType (.bool b) .boolean
  | list (items : List Value) (element : TargetType) : HasType (.list items) (.list element)
  | map (entries : Bindings) : HasType (.map entries) .map

/-- A value that is nested at most 127 deep is read back from its JSON text, and a value with a type
of its own is converted back from the text that it leaves in the place of a placeholder. -/
theorem parse_json_and_convertText_display (h : v.Exchangeable 127) :
    Json.parse v.json.toList = .ok v ∧
      ∀ target, v.HasType target → convertText v.display target = .ok v := by
  have hParse : Json.parse v.jsonChars = .ok v := Json.parse_jsonChars h
  constructor
  · rw [Value.json, String.toList_ofList, hParse]
  · intro target hType
    cases hType with
    | integer i => exact convertText_display_integer i
    | bool b => exact convertText_display_bool b
    | list items element => exact convertText_display_list element hParse
    | map entries => exact convertText_display_map hParse

/-- Stock in two warehouses: a text with a line feed, a quote, a backslash and a control character,
the least integer, a map inside of a list inside of a map, and keys that need quoting themselves. -/
def stock : Value :=
  .map [("name\n\"", .text "a\\\n\"\u0007é"), ("", .list [.null, .bool true,
    .map [("low", .integer Int64.minValue), ("none", .list [])], .text "]"]), ("\x7b", .map [])]

theorem exchangeable_stock : stock.Exchangeable 127 := by
  refine .map (by decide) ?_
  simp only [List.forall_mem_cons]
  refine ⟨.text _, .list ?_, .map (by decide) (by simp), by simp⟩
  simp only [List.forall_mem_cons]
  refine ⟨.null, .bool true, .map (by decide) ?_, .text _, by simp⟩
  simp only [List.forall_mem_cons]
  exact ⟨.integer _, .list (by simp), by simp⟩

theorem parse_json_and_convertText_display_stock : stock.Exchangeable 127 ∧
    Json.parse stock.json.toList = .ok stock ∧ convertText stock.display .map = .ok stock := by
  have hBack := parse_json_and_convertText_display exchangeable_stock
  exact ⟨exchangeable_stock, hBack.1, hBack.2 .map (.map _)⟩

end StepArguments
