import StepArguments.Json.Reader
import StepArguments.Proofs.Decimal.Digits

/-! # Whole numbers in JSON text

A whole number is read back from its digits if nothing behind them would make more of a number of
them: no further digit, no point and no exponent.  What separates values from each other never does
(`readNumber_digitChars`).
-/

namespace StepArguments.Json

variable {s rest : List Char} {n taken : Nat}

/-- What can stand behind a value: nothing, a comma, or a bracket that closes a list or a map. -/
inductive Ends : List Char → Prop where
  | nil : Ends []
  | comma (s : List Char) : Ends (',' :: s)
  | list (s : List Char) : Ends (']' :: s)
  | map (s : List Char) : Ends ('}' :: s)

theorem Ends.startsWithDigit (ends : Ends rest) : startsWithDigit rest = false := by
  cases ends <;> rfl

/-! ## Behind the digits -/

theorem Ends.finishNumber_natural (ends : Ends rest) (n : Nat) :
    finishNumber false n 0 rest = .ok (.natural n, rest) := by
  cases ends <;> rfl

theorem Ends.finishNumber_negative (ends : Ends rest) (hPositive : 0 < n) (hLimit : n ≤ 1 <<< 63) :
    finishNumber true n 0 rest = .ok (.negative (Int64.ofInt (-(n : Int))), rest) := by
  have hFits : (0 < n && n ≤ 1 <<< 63) = true := by
    rw [decide_eq_true hPositive, decide_eq_true hLimit, Bool.and_self]
  have hFinish : finishNumber true n 0 rest =
      if 0 < n && n ≤ 1 <<< 63 then .ok (.negative (Int64.ofInt (-(n : Int))), rest)
      else .ok (.double (-(UInt64.ofNat n).toFloat), rest) := by
    cases ends <;> rfl
  rw [hFinish, if_pos hFits]

/-! ## Digits -/

theorem takeDigits_append (hDigits : ∀ c ∈ s, c.isDigit = true)
    (hLimit : Nat.ofDigitChars 10 s n ≤ significandLimit) (ends : Ends rest) :
    takeDigits n taken (s ++ rest) = (Nat.ofDigitChars 10 s n, taken + s.length, rest) := by
  induction s generalizing n taken with
  | nil => cases ends <;> rfl
  | cons c s ih =>
    obtain ⟨hc, hs⟩ := List.forall_mem_cons.1 hDigits
    rw [Decimal.ofDigitChars_cons] at hLimit ⊢
    have hHere : 10 * n + Decimal.digitValue c ≤ significandLimit :=
      (Decimal.le_ofDigitChars s _).trans hLimit
    rw [List.cons_append, takeDigits, hc, decide_eq_true hHere, Bool.and_self, if_pos rfl,
      ih hs hLimit, List.length_cons]
    congr 2
    omega

/-- The digits of a number are read as far as they go. -/
theorem readNumber_digitChars (hn : n ≤ significandLimit) (ends : Ends rest) (negative : Bool) :
    readNumber negative (Decimal.digitChars n ++ rest) = finishNumber negative n 0 rest := by
  cases hDigits : Decimal.digitChars n with
  | nil => exact absurd hDigits (Decimal.digitChars_ne_nil n)
  | cons c s =>
    have hAll : ∀ d ∈ c :: s, d.isDigit = true := fun d hd =>
      Decimal.isDigit_of_mem_digitChars (hDigits.symm ▸ hd)
    obtain ⟨hc, hs⟩ := List.forall_mem_cons.1 hAll
    have hValue : Nat.ofDigitChars 10 s (Decimal.digitValue c) = n := by
      have hSame := Decimal.ofDigitChars_digitChars n
      rwa [hDigits, Decimal.ofDigitChars_cons, Nat.mul_zero, Nat.zero_add] at hSame
    rw [List.cons_append, readNumber]
    by_cases hZero : c = '0'
    · -- zero is the one number that starts with its digit, and it has no other digits
      have hNone : n = 0 := by
        by_contra hSome
        apply Decimal.head?_digitChars_ne (Nat.pos_of_ne_zero hSome)
        rw [hDigits, hZero]
        rfl
      subst hNone
      obtain ⟨-, rfl⟩ := List.cons.inj hDigits
      rw [if_pos hZero, List.nil_append, ends.startsWithDigit]
      rfl
    · have hNoMore : rest.takeWhile Char.isDigit = [] := by
        cases ends <;> rfl
      rw [if_neg hZero, hc, takeDigits_append hs (hValue.symm ▸ hn) ends, hValue]
      simp [hNoMore]

end StepArguments.Json
