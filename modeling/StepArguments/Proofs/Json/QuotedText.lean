import Mathlib.Tactic.SplitIfs
import StepArguments.Json.Reader

/-! # Quoted text, written and read

Each character of a text is written as itself or as an escape, and what is written for it is read as
the character (`escape_cases`).  Nothing but the closing quote ends the reading, so that a quoted
text is read back whatever it holds and whatever stands behind it (`readText_body`).
-/

namespace StepArguments.Json

variable {c : Char} {s rest : List Char} {bound : Nat}

/-! ## One character -/

theorem hexValue?_hexDigit (n : Nat) : hexValue? (hexDigit n) = some (n % 16) := by
  have hDigits : ∀ m < 16, hexValue? (Nat.digitChar m) = some m := by decide
  exact hDigits (n % 16) (Nat.mod_lt n (by omega))

/-- The four digits of a code point below U+0020. -/
theorem readCodePoint_digits (hControl : c.toNat < 0x20) (rest : List Char) :
    readCodePoint ('0' :: '0' :: hexDigit (c.toNat / 16) :: hexDigit c.toNat :: rest) =
      .ok (c, rest) := by
  have hZero : hexValue? '0' = some 0 := rfl
  have hValue : ((0 * 16 + 0) * 16 + c.toNat / 16 % 16) * 16 + c.toNat % 16 = c.toNat := by omega
  have hQuad : hexQuad? ('0' :: '0' :: hexDigit (c.toNat / 16) :: hexDigit c.toNat :: rest) =
      some (c.toNat, rest) := by
    simp only [hexQuad?, hZero, hexValue?_hexDigit, Option.bind_eq_bind, Option.bind_some, hValue]
  have hRead : readHexQuad ('0' :: '0' :: hexDigit (c.toNat / 16) :: hexDigit c.toNat :: rest) =
      .ok (c.toNat, rest) := by
    rw [readHexQuad, hQuad]
  have hLow : ¬ (0xDC00 ≤ c.toNat ∧ c.toNat ≤ 0xDFFF) := by omega
  have hPlain : c.toNat < 0xD800 ∨ 0xDBFF < c.toNat := by omega
  rw [readCodePoint, hRead]
  show (if 0xDC00 ≤ c.toNat ∧ c.toNat ≤ 0xDFFF then _ else _) = _
  rw [if_neg hLow, if_pos hPlain, Char.ofNat_toNat]

/-- A character stands for itself, or it is written as an escape that is read as the character. -/
theorem escape_cases (c : Char) :
    (escape c = [c] ∧ c ≠ '"' ∧ c ≠ '\\' ∧ 0x20 ≤ c.toNat) ∨
      ∃ code, escape c = '\\' :: code ∧ ∀ rest, readEscape (code ++ rest) = .ok (c, rest) := by
  rw [escape]
  split_ifs with hQuote hBackslash hFeed hReturn hTab hBack hForm hControl
  · exact .inr ⟨['"'], rfl, fun rest => by rw [hQuote]; rfl⟩
  · exact .inr ⟨['\\'], rfl, fun rest => by rw [hBackslash]; rfl⟩
  · exact .inr ⟨['n'], rfl, fun rest => by rw [hFeed]; rfl⟩
  · exact .inr ⟨['r'], rfl, fun rest => by rw [hReturn]; rfl⟩
  · exact .inr ⟨['t'], rfl, fun rest => by rw [hTab]; rfl⟩
  · exact .inr ⟨['b'], rfl, fun rest => by rw [← Char.ofNat_toNat c, hBack]; rfl⟩
  · exact .inr ⟨['f'], rfl, fun rest => by rw [← Char.ofNat_toNat c, hForm]; rfl⟩
  · exact .inr ⟨_, rfl, readCodePoint_digits hControl⟩
  · exact .inl ⟨rfl, hQuote, hBackslash, by omega⟩

/-! ## A whole text -/

theorem readTextWithin_body (hBound : s.length < bound) :
    readTextWithin bound (body s ++ '"' :: rest) = .ok (s, rest) := by
  induction s generalizing bound with
  | nil =>
    cases bound with
    | zero => simp at hBound
    | succ bound => rfl
  | cons c s ih =>
    cases bound with
    | zero => simp at hBound
    | succ bound =>
      have hLater := ih (Nat.lt_of_succ_lt_succ hBound)
      show readTextWithin (bound + 1) ((escape c ++ body s) ++ '"' :: rest) = _
      cases escape_cases c with
      | inl hItself =>
        obtain ⟨hEscape, hQuote, hBackslash, hVisible⟩ := hItself
        rw [hEscape, List.append_assoc, List.singleton_append, readTextWithin, if_neg hQuote,
          if_neg hBackslash, if_neg (Nat.not_lt.2 hVisible), hLater]
        rfl
      | inr hEscaped =>
        obtain ⟨code, hEscape, hCode⟩ := hEscaped
        rw [hEscape, List.append_assoc, List.cons_append, readTextWithin, if_neg (by decide),
          if_pos rfl, hCode]
        show (readTextWithin bound (body s ++ '"' :: rest)).bind _ = _
        rw [hLater]
        rfl

theorem length_le_length_body (s : List Char) : s.length ≤ (body s).length := by
  induction s with
  | nil => simp
  | cons c s ih =>
    have hEscape : 0 < (escape c).length := by
      cases escape_cases c with
      | inl hItself => simp [hItself.1]
      | inr hEscaped =>
        obtain ⟨code, hEscape, -⟩ := hEscaped
        simp [hEscape]
    rw [body, List.flatMap_cons, List.length_append, List.length_cons]
    rw [body] at ih
    omega

/-- What is written for a text and the quote behind it are read as the text. -/
theorem readText_body (s rest : List Char) : readText (body s ++ '"' :: rest) = .ok (s, rest) := by
  apply readTextWithin_body
  have hLength := length_le_length_body s
  rw [List.length_append, List.length_cons]
  omega

end StepArguments.Json
