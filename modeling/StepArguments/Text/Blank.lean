/-! # Blank characters

`isBlank` is the White_Space property, and `trim` takes the blank characters off both ends of a
text. A trimmed text neither starts nor ends with a blank character (`isBlank_head_trimChars`,
`isBlank_getLast_trimChars`), and a text that does neither stays as it is
(`trimChars_eq_self`). -/

namespace StepArguments.Text

def isBlank (c : Char) : Bool :=
  let n := c.toNat
  (0x09 ≤ n && n ≤ 0x0D) || n == 0x20 || n == 0x85 || n == 0xA0 || n == 0x1680 ||
    (0x2000 ≤ n && n ≤ 0x200A) || n == 0x2028 || n == 0x2029 || n == 0x202F || n == 0x205F ||
    n == 0x3000

def trimStart (s : List Char) : List Char :=
  s.dropWhile isBlank

def trimEnd (s : List Char) : List Char :=
  (s.reverse.dropWhile isBlank).reverse

def trimChars (s : List Char) : List Char :=
  trimEnd (trimStart s)

def trim (s : String) : String :=
  String.ofList (trimChars s.toList)

def isBlankText (s : String) : Bool :=
  s.toList.all isBlank

/-! ## What is left -/

@[simp] theorem isBlank_space : isBlank ' ' = true := by decide

theorem isBlank_of_visible {c : Char} (hSpace : 0x20 < c.toNat) (hAscii : c.toNat < 0x80) :
    isBlank c = false := by
  simp only [isBlank, Bool.or_eq_false_iff, Bool.and_eq_false_iff, decide_eq_false_iff_not,
    beq_eq_false_iff_ne]
  omega

theorem trimStart_cons {c : Char} {s : List Char} (h : isBlank c = false) :
    trimStart (c :: s) = c :: s := by
  simp [trimStart, h]

theorem trimStart_blank_cons {c : Char} {s : List Char} (h : isBlank c = true) :
    trimStart (c :: s) = trimStart s := by
  simp [trimStart, h]

@[simp] theorem trimChars_nil : trimChars [] = [] := rfl

theorem trimEnd_append_of_not_blank {s : List Char} {c : Char} (h : isBlank c = false) :
    trimEnd (s ++ [c]) = s ++ [c] := by
  simp [trimEnd, h]

theorem isBlank_head_trimStart {s : List Char} {c : Char} (h : (trimStart s).head? = some c) :
    isBlank c = false := by
  have := List.head?_dropWhile_not isBlank s
  rw [trimStart] at h
  rw [h] at this
  simpa using this

theorem isBlank_getLast_trimEnd {s : List Char} {c : Char} (h : (trimEnd s).getLast? = some c) :
    isBlank c = false := by
  rw [trimEnd, List.getLast?_reverse] at h
  exact isBlank_head_trimStart h

theorem trimEnd_prefix (s : List Char) : trimEnd s <+: s := by
  have := List.reverse_prefix.2 (List.dropWhile_suffix (l := s.reverse) isBlank)
  simpa [trimEnd] using this

theorem trimChars_infix (s : List Char) : trimChars s <:+: s := by
  have hStart : trimStart s <:+ s := List.dropWhile_suffix isBlank
  have hEnd : trimChars s <+: trimStart s := trimEnd_prefix _
  exact hEnd.isInfix.trans hStart.isInfix

theorem isBlank_getLast_trimChars {s : List Char} {c : Char}
    (h : (trimChars s).getLast? = some c) : isBlank c = false :=
  isBlank_getLast_trimEnd h

theorem isBlank_head_trimChars {s : List Char} {c : Char} (h : (trimChars s).head? = some c) :
    isBlank c = false := by
  obtain ⟨t, ht⟩ := trimEnd_prefix (trimStart s)
  apply isBlank_head_trimStart (s := s)
  rw [trimChars] at h
  rw [← ht, List.head?_append, h]
  rfl

theorem trimChars_eq_self {s : List Char} (hhead : ∀ c, s.head? = some c → isBlank c = false)
    (hlast : ∀ c, s.getLast? = some c → isBlank c = false) : trimChars s = s := by
  have hstart : trimStart s = s := by
    cases s with
    | nil => rfl
    | cons c s => exact trimStart_cons (hhead c rfl)
  rw [trimChars, hstart]
  cases hs : s.getLast? with
  | none => simp [List.getLast?_eq_none_iff.1 hs, trimEnd]
  | some c =>
    obtain ⟨t, rfl⟩ := List.getLast?_eq_some_iff.1 hs
    exact trimEnd_append_of_not_blank (hlast c hs)

/-- A text that ends in a character that is not blank keeps its end. -/
theorem getLast?_trimChars_append (s : List Char) {c : Char} (h : isBlank c = false) :
    (trimChars (s ++ [c])).getLast? = some c := by
  have hStart : ∃ t, trimStart (s ++ [c]) = t ++ [c] := by
    induction s with
    | nil => exact ⟨[], trimStart_cons h⟩
    | cons d s ih =>
      cases hd : isBlank d with
      | true =>
        obtain ⟨t, ht⟩ := ih
        exact ⟨t, (trimStart_blank_cons hd).trans ht⟩
      | false => exact ⟨d :: s, trimStart_cons hd⟩
  obtain ⟨t, ht⟩ := hStart
  rw [trimChars, ht, trimEnd_append_of_not_blank h, List.getLast?_concat]

/-- Blanks in front of a text are no part of it. -/
theorem trimChars_blank_append {blanks : List Char} (h : ∀ c ∈ blanks, isBlank c = true)
    (s : List Char) : trimChars (blanks ++ s) = trimChars s := by
  rw [trimChars, trimStart, List.dropWhile_append_of_pos h]
  rfl

/-- Blanks behind a text are no part of it. -/
theorem trimChars_append_blank {blanks : List Char} (h : ∀ c ∈ blanks, isBlank c = true)
    (s : List Char) : trimChars (s ++ blanks) = trimChars s := by
  have hReverse : ∀ c ∈ blanks.reverse, isBlank c = true := fun c hc => h c (List.mem_reverse.1 hc)
  have hEnd (t : List Char) : trimEnd (t ++ blanks) = trimEnd t := by
    rw [trimEnd, List.reverse_append, List.dropWhile_append_of_pos hReverse, trimEnd]
  rw [trimChars, trimChars, trimStart, trimStart, List.dropWhile_append]
  split
  · -- nothing but blanks on either side
    rename_i hNothing
    have hBlanks : (blanks ++ []).dropWhile isBlank = [] := List.dropWhile_append_of_pos h
    rw [List.append_nil] at hBlanks
    rw [hBlanks, List.isEmpty_iff.1 hNothing]
  · exact hEnd _

@[simp] theorem trimChars_trimChars (s : List Char) : trimChars (trimChars s) = trimChars s :=
  trimChars_eq_self (fun _ => isBlank_head_trimChars) fun _ => isBlank_getLast_trimChars

end StepArguments.Text
