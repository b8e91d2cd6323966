import Mathlib.Data.List.DropRight
import Mathlib.Tactic.SplitIfs
import StepArguments.Json.Text

/-! # The inside of quoted text

What is written between the quotes of a text can stand in JSON text as it is.  It is a row of
characters that stand for themselves and of pairs of a backslash and the character it escapes
(`IsBody`), and this shape is all that is needed: no character in it is a control character, and a
quote in it is the second half of a pair (`IsBody.fitsQuotes`).  Such a quote may well stand behind more
than one backslash, since a backslash is a second half too; what tells it from the quote that ends the
text is that the number of backslashes before it is odd.
-/

namespace StepArguments.Json

/-- The inside of a quoted text.  A backslash takes the next character with it, whatever it is. -/
inductive IsBody : List Char → Prop where
  | nil : IsBody []
  | plain {c : Char} {s : List Char} (hQuote : c ≠ '"') (hBackslash : c ≠ '\\')
      (hVisible : 0x20 ≤ c.toNat) (rest : IsBody s) : IsBody (c :: s)
  | escaped {c : Char} {s : List Char} (hVisible : 0x20 ≤ c.toNat) (rest : IsBody s) :
      IsBody ('\\' :: c :: s)

variable {c : Char} {s earlier before after : List Char}

theorem IsBody.visible (isBody : IsBody s) : ∀ c ∈ s, 0x20 ≤ c.toNat := by
  induction isBody with
  | nil => simp
  | plain hQuote hBackslash hVisible rest ih => simpa using ⟨hVisible, ih⟩
  | escaped hVisible rest ih => simpa using ⟨hVisible, ih⟩

/-! ## What is written is a body -/

theorem IsBody.hexDigit_cons (n : Nat) (isBody : IsBody s) : IsBody (hexDigit n :: s) := by
  have hDigits : ∀ m < 16,
      Nat.digitChar m ≠ '"' ∧ Nat.digitChar m ≠ '\\' ∧ 0x20 ≤ (Nat.digitChar m).toNat := by decide
  obtain ⟨hQuote, hBackslash, hVisible⟩ := hDigits (n % 16) (Nat.mod_lt n (by omega))
  exact .plain hQuote hBackslash hVisible isBody

theorem IsBody.escape_append (c : Char) (isBody : IsBody s) : IsBody (escape c ++ s) := by
  rw [escape]
  split_ifs with hQuote hBackslash hFeed hReturn hTab hBack hForm hControl
  -- the escapes of two characters, then the one with the number of a character
  iterate 7 exact .escaped (by decide) isBody
  · have hZero {t : List Char} (rest : IsBody t) : IsBody ('0' :: t) := rest.hexDigit_cons 0
    exact .escaped (by decide) (hZero (hZero ((isBody.hexDigit_cons _).hexDigit_cons _)))
  · exact .plain hQuote hBackslash (by omega) isBody

theorem isBody_body (s : List Char) : IsBody (body s) := by
  induction s with
  | nil => exact .nil
  | cons c s ih =>
    rw [body, List.flatMap_cons]
    exact ih.escape_append c

/-! ## Quotes in a body -/

/-- The number of backslashes in a row at the end of a text. -/
def backslashesAtEnd (s : List Char) : Nat :=
  (s.rtakeWhile (· == '\\')).length

theorem backslashesAtEnd_backslash (s : List Char) :
    backslashesAtEnd (s ++ ['\\']) = backslashesAtEnd s + 1 := by
  simp [backslashesAtEnd]

theorem backslashesAtEnd_of_ne (hOther : c ≠ '\\') (s : List Char) :
    backslashesAtEnd (s ++ [c]) = 0 := by
  simp [backslashesAtEnd, hOther]

/-- A text that can stand between two quotes: it has no control characters, and directly before each
    quote in it stands an odd number of backslashes in a row. -/
structure FitsQuotes (s : List Char) : Prop where
  visible : ∀ c ∈ s, 0x20 ≤ c.toNat
  escaped : ∀ before after, s = before ++ '"' :: after → backslashesAtEnd before % 2 = 1

/-- The backslashes before a quote are counted on from an even number of them, since between two
    characters of a body they come in pairs. -/
theorem IsBody.backslashesAtEnd_odd (isBody : IsBody s) (hEven : backslashesAtEnd earlier % 2 = 0)
    (hText : s = before ++ '"' :: after) : backslashesAtEnd (earlier ++ before) % 2 = 1 := by
  induction isBody generalizing earlier before with
  | nil => simp at hText
  | @plain c s hQuote hBackslash _ _ ih =>
    cases before with
    | nil => exact absurd (List.cons.inj hText).1 hQuote
    | cons d before =>
      obtain ⟨rfl, hRest⟩ := List.cons.inj hText
      have hNone : backslashesAtEnd (earlier ++ [c]) % 2 = 0 := by
        rw [backslashesAtEnd_of_ne hBackslash]
      simpa using ih hNone hRest
  | @escaped c s _ _ ih =>
    match before with
    | [] => simp at hText
    | [d] =>
      -- the quote is the escaped character
      obtain ⟨rfl, -⟩ := List.cons.inj hText
      have hOne := backslashesAtEnd_backslash earlier
      omega
    | d :: e :: before =>
      simp only [List.cons_append, List.cons.injEq] at hText
      obtain ⟨rfl, rfl, hRest⟩ := hText
      have hPair : backslashesAtEnd (earlier ++ ['\\'] ++ [c]) % 2 = 0 := by
        by_cases hBackslash : c = '\\'
        · rw [hBackslash, backslashesAtEnd_backslash, backslashesAtEnd_backslash]
          omega
        · rw [backslashesAtEnd_of_ne hBackslash]
      simpa using ih hPair hRest

theorem IsBody.fitsQuotes (isBody : IsBody s) : FitsQuotes s where
  visible := isBody.visible
  escaped before after hText := by
    have hStart : backslashesAtEnd [] % 2 = 0 := rfl
    exact isBody.backslashesAtEnd_odd hStart hText

/-- A backslash and a quote: the quote stands behind three backslashes. -/
example : body ['\\', '"'] = ['\\', '\\', '\\'] ++ ['"'] ∧
    backslashesAtEnd ['\\', '\\', '\\'] = 3 := by
  decide

end StepArguments.Json
