import StepArguments.Proofs.Functions.Calls

/-! # Reading calls

A text spells at most one call.  There is no parenthesis in a name, so that the name ends at the first
parenthesis of the text, and the arguments are all that stands between it and the last character, be
there parentheses, quotes or line breaks among them.  `Spells` says this without a look at how calls
are read.  Reading gives the call that a text spells and refuses every other text
(`parse?_eq_some_iff`), and so it undoes the writing of calls and is undone by it (`parse?_exact`).
-/

namespace StepArguments.Call

/-! ## Names -/

/-- An ASCII letter or digit, or an underscore. -/
def NameChar (c : Char) : Prop :=
  'A' ≤ c ∧ c ≤ 'Z' ∨ 'a' ≤ c ∧ c ≤ 'z' ∨ '0' ≤ c ∧ c ≤ '9' ∨ c = '_'

theorem isNameChar_iff {c : Char} : isNameChar c = true ↔ NameChar c := by
  have hRange (low high : Char) :
      (decide (low.val ≤ c.val) && decide (c.val ≤ high.val)) = true ↔ low ≤ c ∧ c ≤ high := by
    rw [Bool.and_eq_true, decide_eq_true_iff, decide_eq_true_iff]
    rfl
  have hUpper : c.isUpper = true ↔ 'A' ≤ c ∧ c ≤ 'Z' := decide_eq_true_iff
  have hLower : c.isLower = true ↔ 'a' ≤ c ∧ c ≤ 'z' := hRange 'a' 'z'
  have hDigit : c.isDigit = true ↔ '0' ≤ c ∧ c ≤ '9' := hRange '0' '9'
  have hChar : isNameChar c = (((c.isUpper || c.isLower) || c.isDigit) || c == '_') := rfl
  rw [hChar, Bool.or_eq_true, Bool.or_eq_true, Bool.or_eq_true, hUpper, hLower, hDigit, beq_iff_eq,
    or_assoc, or_assoc, NameChar]

/-- A call of a function with a name that is a word. -/
structure Named (call : Call) : Prop where
  name_ne : call.name ≠ ""
  nameChar : ∀ c ∈ call.name.toList, NameChar c

variable {call other : Call} {text : String} {name rest : List Char}

theorem isName_iff : IsName name ↔ name ≠ [] ∧ ∀ c ∈ name, NameChar c := by
  simp only [IsName, List.all_eq_true, isNameChar_iff]

theorem named_iff : call.Named ↔ IsName call.name.toList := by
  rw [isName_iff, ne_eq, String.toList_eq_nil_iff]
  exact ⟨fun named => ⟨named.name_ne, named.nameChar⟩, fun hName => ⟨hName.1, hName.2⟩⟩

/-! ## Texts of calls -/

/-- A text that spells a call: its name, and its arguments between two parentheses. -/
structure Spells (text : String) (call : Call) : Prop where
  named : call.Named
  text_eq : text = ofText call.name call.arguments

theorem Named.parse?_ofText (named : call.Named) :
    parse? (ofText call.name call.arguments) = some call := by
  rw [ofText_eq, parse?_written (named_iff.1 named), String.ofList_toList, String.ofList_toList]

theorem written_of_parse? (hCall : parse? text = some call) :
    IsName call.name.toList ∧ text.toList = written call.name.toList call.arguments.toList := by
  rw [parse?, Option.bind_eq_bind, Option.bind_eq_some_iff] at hCall
  obtain ⟨⟨name, rest⟩, hCut, hCall⟩ := hCall
  have hText : text.toList = name ++ '(' :: rest := by simpa using Text.eq_of_cut? hCut
  dsimp only at hCall
  split at hCall
  · cases hCall
  · rename_i hName
    obtain ⟨hLast, hCall⟩ := Option.ite_none_right_eq_some.1 hCall
    obtain rfl := Option.some.inj hCall
    -- the last parenthesis stands behind the first one, so that it is another one
    obtain ⟨arguments, rfl⟩ := List.getLast?_eq_some_iff.1 hLast
    simp only [String.toList_ofList, List.dropLast_concat]
    refine ⟨?_, by simpa [written] using hText⟩
    simpa [IsName] using hName

theorem parse?_eq_some_iff : parse? text = some call ↔ Spells text call := by
  constructor
  · intro hCall
    obtain ⟨hName, hText⟩ := written_of_parse? hCall
    refine ⟨named_iff.2 hName, ?_⟩
    rw [ofText_eq, ← hText, String.ofList_toList]
  · intro spells
    rw [spells.text_eq, spells.named.parse?_ofText]

/-- The call can be read off the text. -/
theorem Spells.unique (spells : Spells text call) (spellsOther : Spells text other) :
    call = other := by
  have hSame := (parse?_eq_some_iff.2 spells).symm.trans (parse?_eq_some_iff.2 spellsOther)
  exact Option.some.inj hSame

/-- Of a text the one call that it spells is read, if there is one, and reading and writing are
    inverse to each other. -/
theorem parse?_exact (text : String) :
    (∀ call, parse? text = some call ↔ Spells text call) ∧
      (∀ call other, Spells text call → Spells text other → call = other) ∧
      (∀ call, parse? text = some call → ofText call.name call.arguments = text) ∧
      ∀ call : Call, call.Named → parse? (ofText call.name call.arguments) = some call :=
  ⟨fun _ => parse?_eq_some_iff, fun _ _ => Spells.unique,
    fun _ hCall => (parse?_eq_some_iff.1 hCall).text_eq.symm, fun _ => Named.parse?_ofText⟩

/-- Parentheses that do not match, a quote, a brace and a line break among the arguments. -/
theorem parse?_exact_unmatched :
    let call : Call := ⟨"quote_2", ")(\n\"\x7d("⟩
    call.Named ∧ ofText call.name call.arguments = "quote_2()(\n\"\x7d()" ∧
      parse? "quote_2()(\n\"\x7d()" = some call ∧
      ∀ other, Spells "quote_2()(\n\"\x7d()" other → other = call := by
  intro call
  have named : call.Named := named_iff.2 (by decide +kernel)
  have hText : ofText call.name call.arguments = "quote_2()(\n\"\x7d()" := by decide +kernel
  obtain ⟨hReads, hUnique, -, hWritten⟩ := parse?_exact "quote_2()(\n\"\x7d()"
  have hCall : parse? "quote_2()(\n\"\x7d()" = some call := hText ▸ hWritten call named
  exact ⟨named, hText, hCall, fun other spells => hUnique other call spells ((hReads call).1 hCall)⟩

example : parse? "f(" = none ∧ parse? "(x)" = none ∧ parse? "f (x)" = none ∧
    parse? "f()" = some ⟨"f", ""⟩ := by decide +kernel

end StepArguments.Call
