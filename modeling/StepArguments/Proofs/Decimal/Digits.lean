import Mathlib.Data.Nat.Digits.Defs
import StepArguments.Decimal.Format
import StepArguments.Decimal.Read

/-! # Whole numbers, written and read

The digits of a number are read back as the number by every reader that adds them up from the left:
what it has added up so far is never more than the number itself (`le_ofDigitChars`), so that no
limit is passed on the way that the number keeps.  `readInteger_integerChars` says this of the
signed numbers of 64 bits, the least of which is further from zero than the greatest, and
`readIndex?_digitChars` of indexes, where a number beyond 64 bits is refused.
-/

namespace StepArguments.Decimal

variable {s : List Char} {c : Char} {n limit : Nat} {overflow : IntegerFault}

theorem ofDigitChars_cons (c : Char) (s : List Char) (n : Nat) :
    Nat.ofDigitChars 10 (c :: s) n = Nat.ofDigitChars 10 s (10 * n + digitValue c) :=
  Nat.ofDigitChars_cons

/-- Further digits make no number smaller. -/
theorem le_ofDigitChars (s : List Char) (n : Nat) : n ≤ Nat.ofDigitChars 10 s n := by
  induction s generalizing n with
  | nil => simp
  | cons c s ih =>
    have hLater := ih (10 * n + digitValue c)
    rw [ofDigitChars_cons]
    omega

/-! ## The digits of a number -/

theorem digitChars_ne_nil (n : Nat) : digitChars n ≠ [] :=
  Nat.toDigits_ne_nil

theorem isDigit_of_mem_digitChars (hc : c ∈ digitChars n) : c.isDigit = true :=
  Nat.isDigit_of_mem_toDigits (by omega) (by omega) hc

theorem not_mem_digitChars (hc : c.isDigit = false) (n : Nat) : c ∉ digitChars n := by
  intro hMem
  rw [isDigit_of_mem_digitChars hMem] at hc
  cases hc

theorem ofDigitChars_digitChars (n : Nat) : Nat.ofDigitChars 10 (digitChars n) 0 = n :=
  Nat.ofDigitChars_ten_toDigits

/-- Only zero starts with the digit zero. -/
theorem head?_digitChars_ne (hn : 0 < n) : (digitChars n).head? ≠ some '0' := by
  induction n using Nat.strongRecOn with
  | ind n ih =>
    rw [digitChars]
    by_cases hSmall : n < 10
    · rw [Nat.toDigits_of_lt_base hSmall]
      simp only [List.head?_cons, ne_eq, Option.some.injEq, Nat.digitChar_eq_zero]
      omega
    · have hTenth := ih (n / 10) (by omega) (by omega)
      rw [Nat.toDigits_of_base_le (by omega) (by omega), List.head?_append]
      cases hDigits : digitChars (n / 10) with
      | nil => exact absurd hDigits (digitChars_ne_nil _)
      | cons c s =>
        rw [hDigits] at hTenth
        rw [digitChars] at hDigits
        simpa [hDigits] using hTenth

/-! ## Reading them -/

theorem readDigits_eq (hDigits : ∀ c ∈ s, c.isDigit = true)
    (hLimit : Nat.ofDigitChars 10 s n ≤ limit) :
    readDigits limit overflow n s = .ok (Nat.ofDigitChars 10 s n) := by
  induction s generalizing n with
  | nil => simp [readDigits]
  | cons c s ih =>
    obtain ⟨hc, hs⟩ := List.forall_mem_cons.1 hDigits
    rw [ofDigitChars_cons] at hLimit ⊢
    have hHere : 10 * n + digitValue c ≤ limit := (le_ofDigitChars s _).trans hLimit
    rw [readDigits, if_pos hc, if_pos hHere, ih hs hLimit]

/-- A number that is too large is noticed at its last digit at the latest. -/
theorem readDigits_eq_error (hDigits : ∀ c ∈ s, c.isDigit = true) (hStart : n ≤ limit)
    (hLimit : limit < Nat.ofDigitChars 10 s n) :
    readDigits limit overflow n s = .error overflow := by
  induction s generalizing n with
  | nil => exact absurd hLimit (Nat.not_lt.2 hStart)
  | cons c s ih =>
    obtain ⟨hc, hs⟩ := List.forall_mem_cons.1 hDigits
    rw [ofDigitChars_cons] at hLimit
    rw [readDigits, if_pos hc]
    by_cases hHere : 10 * n + digitValue c ≤ limit
    · simp only [if_pos hHere, ih hs hHere hLimit]
    · simp only [if_neg hHere]

theorem readNatural_eq_readDigits (hs : s ≠ []) :
    readNatural limit overflow s = readDigits limit overflow 0 s := by
  cases s with
  | nil => exact absurd rfl hs
  | cons c s => rfl

theorem readNatural_digitChars (hn : n ≤ limit) :
    readNatural limit overflow (digitChars n) = .ok n := by
  rw [readNatural_eq_readDigits (digitChars_ne_nil n),
    readDigits_eq fun c hc => isDigit_of_mem_digitChars hc]
  · rw [ofDigitChars_digitChars]
  · rwa [ofDigitChars_digitChars]

/-! ## Signed numbers of 64 bits -/

theorem natAbs_of_negative {i : Int64} (hNegative : i.toInt < 0) :
    0 < i.toInt.natAbs ∧ i.toInt.natAbs ≤ 1 <<< 63 ∧ Int64.ofInt (-(i.toInt.natAbs : Int)) = i := by
  have hLow := i.le_toInt
  have hAbs : -(i.toInt.natAbs : Int) = i.toInt := by omega
  exact ⟨by omega, by omega, by rw [hAbs, Int64.ofInt_toInt]⟩

theorem natAbs_of_natural {i : Int64} (hNatural : ¬ i.toInt < 0) :
    i.toInt.natAbs < 1 <<< 63 ∧ Int64.ofInt i.toInt.natAbs = i := by
  have hHigh := i.toInt_lt
  have hAbs : (i.toInt.natAbs : Int) = i.toInt := by omega
  exact ⟨by omega, by rw [hAbs, Int64.ofInt_toInt]⟩

theorem readInteger_integerChars (i : Int64) : readInteger (integerChars i.toInt) = .ok i := by
  by_cases hSign : i.toInt < 0
  · obtain ⟨-, hLimit, hSame⟩ := natAbs_of_negative hSign
    rw [integerChars, if_pos hSign, readInteger, readNatural_digitChars hLimit]
    exact congrArg Except.ok hSame
  · obtain ⟨hLimit, hSame⟩ := natAbs_of_natural hSign
    have hRead : readNatural ((1 <<< 63) - 1) .tooLarge (digitChars i.toInt.natAbs) =
        .ok i.toInt.natAbs := readNatural_digitChars (by omega)
    rw [integerChars, if_neg hSign]
    cases hDigits : digitChars i.toInt.natAbs with
    | nil => exact absurd hDigits (digitChars_ne_nil _)
    | cons c s =>
      have hDigit : c.isDigit = true := isDigit_of_mem_digitChars (hDigits ▸ List.mem_cons_self)
      rw [hDigits] at hRead
      rw [readInteger, hRead]
      · exact congrArg Except.ok hSame
      · simp
      -- a digit is neither of the two signs
      all_goals
        intro rest hSigned
        obtain ⟨rfl, -⟩ := List.cons.inj hSigned
        cases hDigit

/-! ## Indexes -/

theorem readIndex?_of_isDigit (hDigits : ∀ c ∈ s, c.isDigit = true) :
    readIndex? s = (readNatural (UInt64.size - 1) .tooLarge s).toOption := by
  unfold readIndex?
  split
  · -- a digit is no sign
    have hSign := hDigits '+' List.mem_cons_self
    simp at hSign
  · rfl

theorem readIndex?_digitChars (n : Nat) :
    readIndex? (digitChars n) = if n < 2 ^ 64 then some n else none := by
  have hDigits : ∀ c ∈ digitChars n, c.isDigit = true := fun c hc => isDigit_of_mem_digitChars hc
  have hSize : UInt64.size = 2 ^ 64 := rfl
  rw [readIndex?_of_isDigit hDigits]
  by_cases hSmall : n < 2 ^ 64
  · have hLimit : n ≤ UInt64.size - 1 := by omega
    rw [if_pos hSmall, readNatural_digitChars hLimit]
    rfl
  · have hLimit : UInt64.size - 1 < Nat.ofDigitChars 10 (digitChars n) 0 := by
      rw [ofDigitChars_digitChars]
      omega
    rw [if_neg hSmall, readNatural_eq_readDigits (digitChars_ne_nil n),
      readDigits_eq_error hDigits (Nat.zero_le _) hLimit]
    rfl

end StepArguments.Decimal
