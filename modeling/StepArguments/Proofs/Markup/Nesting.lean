import Mathlib.Data.List.Induction
import StepArguments.Proofs.Markup.Marked

/-! # Nesting

The nesting of a text is the number of its openers less the number of its braces.  A scanner that
looks for the brace of an opener carries this count along, less the one opener it began with
(`close?_append`).  What it finds is the shortest text with which the count comes to zero
(`close?_eq_some_iff`), and it finds nothing if the count never does (`close?_eq_none_iff`).  One
character takes one away at most, so the count cannot get below zero without coming to zero first
(`StaysOpen.pos`), and an opener inside of a key is closed inside of it as well
(`Balanced.exists_zero`).
-/

namespace StepArguments.Placeholder

variable {depth : Nat} {count : Int} {c : Char}
  {s t key key' part before rest after after' : List Char}

/-- How many more openers a text has than closing braces. -/
def nesting : List Char → Int
  | [] => 0
  | '$' :: '{' :: s => nesting s + 1
  | '}' :: s => nesting s - 1
  | _ :: s => nesting s

/-! ## Character by character -/

@[simp] theorem nesting_nil : nesting [] = 0 := rfl

@[simp] theorem nesting_opener (s : List Char) : nesting ('$' :: '{' :: s) = nesting s + 1 := rfl

@[simp] theorem nesting_brace (s : List Char) : nesting ('}' :: s) = nesting s - 1 := rfl

theorem nesting_cons (hOpener : c = '$' → s.head? ≠ some '{') (hBrace : c ≠ '}') :
    nesting (c :: s) = nesting s := by
  rw [nesting]
  · rintro rest rfl rfl
    exact hOpener rfl rfl
  · exact hBrace

/-- No opener has its two characters in different parts. -/
def Apart (s t : List Char) : Prop :=
  s.getLast? = some '$' → t.head? ≠ some '{'

theorem apart_of_head? (hHead : t.head? ≠ some '{') : Apart s t :=
  fun _ => hHead

theorem Apart.tail (apart : Apart (c :: s) t) : Apart s t := by
  cases s with
  | nil => exact fun hLast => absurd hLast (by simp)
  | cons d s => exact fun hLast => apart (by rwa [List.getLast?_cons_cons])

theorem Apart.head?_append_ne (apart : Apart (c :: s) t) (hOpener : c = '$' → s.head? ≠ some '{') :
    c = '$' → (s ++ t).head? ≠ some '{' := by
  cases s with
  | nil =>
    rintro rfl
    exact apart rfl
  | cons d s => exact hOpener

theorem nesting_append (apart : Apart s t) : nesting (s ++ t) = nesting s + nesting t := by
  fun_induction nesting s with
  | case1 => simp
  | case2 s ih =>
    rw [List.cons_append, List.cons_append, nesting_opener, ih apart.tail.tail]
    omega
  | case3 s ih =>
    rw [List.cons_append, nesting_brace, ih apart.tail]
    omega
  | case4 c s hPair hBrace ih =>
    have hOpener : c = '$' → s.head? ≠ some '{' := fun hDollar hNext => by
      obtain ⟨more, rfl⟩ := List.head?_eq_some_iff.1 hNext
      exact hPair more hDollar rfl
    rw [List.cons_append, nesting_cons (apart.head?_append_ne hOpener) hBrace, ih apart.tail]

theorem nesting_concat_brace (s : List Char) : nesting (s ++ ['}']) = nesting s - 1 := by
  rw [nesting_append (apart_of_head? (by simp)), nesting_brace, nesting_nil]
  omega

theorem nesting_le_concat (s : List Char) (hBrace : c ≠ '}') :
    nesting s ≤ nesting (s ++ [c]) := by
  have hLast : nesting [c] = 0 := nesting_cons (by simp) hBrace
  by_cases hOpener : s.getLast? = some '$' ∧ c = '{'
  · obtain ⟨hDollar, rfl⟩ := hOpener
    obtain ⟨s, rfl⟩ := List.getLast?_eq_some_iff.1 hDollar
    have hOne : nesting (s ++ ['$']) = nesting s + 0 := nesting_append (apart_of_head? (by simp))
    have hTwo : nesting (s ++ ['$', '{']) = nesting s + 1 :=
      nesting_append (apart_of_head? (by simp))
    rw [List.append_assoc, List.singleton_append, hOne, hTwo]
    omega
  · have apart : Apart s [c] := by simpa [Apart] using hOpener
    rw [nesting_append apart, hLast]
    omega

/-! ## Counts that come to zero -/

/-- A count that goes on over a text from `count` does not come to zero. -/
def StaysOpen (count : Int) (s : List Char) : Prop :=
  ∀ part, part <+: s → nesting part + count ≠ 0

theorem StaysOpen.shorter (stays : StaysOpen count s) (hPrefix : t <+: s) : StaysOpen count t :=
  fun part hPart => stays part (hPart.trans hPrefix)

/-- A count that starts above zero and does not come to it stays above it. -/
theorem StaysOpen.pos (stays : StaysOpen count s) (hCount : 0 < count) : 0 < nesting s + count := by
  -- on the last character, as the count goes from the left
  induction s using List.reverseRecOn with
  | nil => simpa using hCount
  | append_singleton s c ih =>
    have hBefore := ih (stays.shorter (List.prefix_append s [c]))
    have hHere := stays (s ++ [c]) (List.prefix_refl _)
    by_cases hBrace : c = '}'
    · subst hBrace
      have := nesting_concat_brace s
      omega
    · have := nesting_le_concat s hBrace
      omega

/-- A count that starts above zero comes to it first at a brace, if it ever does. -/
theorem staysOpen_or_zero (hCount : 0 < count) (s : List Char) : StaysOpen count s ∨
    ∃ key after, s = key ++ '}' :: after ∧ nesting (key ++ ['}']) + count = 0 ∧
      StaysOpen count key := by
  induction s using List.reverseRecOn with
  | nil =>
    refine .inl fun part hPart => ?_
    rw [List.prefix_nil.1 hPart, nesting_nil]
    omega
  | append_singleton s c ih =>
    obtain stays | ⟨key, after, rfl, hZero, stays⟩ := ih
    · by_cases hHere : nesting (s ++ [c]) + count = 0
      · -- the count was above zero before this character, so it took one away
        have hPos := stays.pos hCount
        have hBrace : c = '}' := by
          by_contra hOther
          have := nesting_le_concat s hOther
          omega
        subst hBrace
        exact .inr ⟨s, [], rfl, hHere, stays⟩
      · refine .inl fun part hPart => ?_
        obtain rfl | hPart := List.prefix_concat_iff.1 hPart
        · exact hHere
        · exact stays part hPart
    · exact .inr ⟨key, after ++ [c], by simp, hZero, stays⟩

/-! ## The counter of the scanner -/

theorem StaysOpen.behind_opener (stays : StaysOpen count ('$' :: '{' :: s)) :
    StaysOpen (count + 1) s := by
  intro part hPart
  have := stays ('$' :: '{' :: part) (by simpa using hPart)
  rw [nesting_opener] at this
  omega

theorem StaysOpen.behind_brace (stays : StaysOpen (count + 1) ('}' :: s)) :
    StaysOpen count s := by
  intro part hPart
  have := stays ('}' :: part) (by simpa using hPart)
  rw [nesting_brace] at this
  omega

theorem StaysOpen.behind (stays : StaysOpen count (c :: s))
    (hOpener : c = '$' → s.head? ≠ some '{') (hBrace : c ≠ '}') : StaysOpen count s := by
  intro part hPart
  have hPair : c = '$' → part.head? ≠ some '{' := by
    rintro hDollar hNext
    obtain ⟨more, rfl⟩ := hPart
    exact hOpener hDollar (by rw [List.head?_append, hNext]; rfl)
  rw [← nesting_cons hPair hBrace]
  exact stays (c :: part) (by simpa using hPart)

/-- Behind a part that leaves openers open the scanner goes on with the count of what it has read. -/
theorem close?_append (apart : Apart part rest) (stays : StaysOpen (depth + 1) part) :
    ∃ later : Nat, (later : Int) + 1 = nesting part + (depth + 1) ∧
      close? depth (part ++ rest) =
        (close? later rest).map fun parts => (part ++ parts.1, parts.2) := by
  fun_induction close? depth part with
  | case1 depth => exact ⟨depth, by simp, by simp⟩
  | case2 depth s ih =>
    obtain ⟨later, hLater, hClose⟩ := ih apart.tail.tail stays.behind_opener
    refine ⟨later, ?_, ?_⟩
    · rw [nesting_opener]
      omega
    · rw [List.cons_append, List.cons_append, close?, hClose, Option.map_map]
      rfl
  | case3 s =>
    -- the scanner would stop at this brace, with which the count comes to zero
    exact absurd rfl (stays ['}'] (by simp))
  | case4 depth s ih =>
    obtain ⟨later, hLater, hClose⟩ := ih apart.tail stays.behind_brace
    refine ⟨later, ?_, ?_⟩
    · rw [nesting_brace]
      omega
    · rw [List.cons_append, close?, hClose, Option.map_map]
      rfl
  | case5 depth c s hPair hBrace hBraceSucc ih =>
    have hOther : c ≠ '}' := by
      rintro rfl
      cases depth with
      | zero => exact hBrace rfl rfl
      | succ depth => exact hBraceSucc depth rfl rfl
    have hOpener : c = '$' → s.head? ≠ some '{' := fun hDollar hNext => by
      obtain ⟨more, rfl⟩ := List.head?_eq_some_iff.1 hNext
      exact hPair more hDollar rfl
    obtain ⟨later, hLater, hClose⟩ := ih apart.tail (stays.behind hOpener hOther)
    refine ⟨later, ?_, ?_⟩
    · rw [nesting_cons hOpener hOther]
      omega
    · rw [List.cons_append, close?, hClose, Option.map_map]
      · rfl
      · intro more hDollar hMore
        exact apart.head?_append_ne hOpener hDollar (by rw [hMore]; rfl)
      · exact hBrace
      · exact hBraceSucc

theorem close?_of_zero (hZero : nesting (key ++ ['}']) + (depth + 1) = 0)
    (stays : StaysOpen (depth + 1) key) (after : List Char) :
    close? depth (key ++ '}' :: after) = some (key, after) := by
  have apart : Apart key ('}' :: after) := apart_of_head? (by simp)
  obtain ⟨later, hLater, hClose⟩ := close?_append apart stays
  rw [nesting_concat_brace] at hZero
  obtain rfl : later = 0 := by omega
  rw [hClose, close?, Option.map_some, List.append_nil]

theorem close?_eq_none_of_staysOpen (stays : StaysOpen (depth + 1) s) : close? depth s = none := by
  have apart : Apart s [] := apart_of_head? (by simp)
  obtain ⟨later, -, hClose⟩ := close?_append apart stays
  rw [← List.append_nil s, hClose, close?, Option.map_none]

theorem close?_eq_some_iff : close? depth s = some (key, after) ↔
    s = key ++ '}' :: after ∧ nesting (key ++ ['}']) + (depth + 1) = 0 ∧
      StaysOpen (depth + 1) key := by
  constructor
  · intro hClose
    obtain stays | ⟨key', after', rfl, hZero, stays⟩ :=
      staysOpen_or_zero (Int.natCast_succ_pos depth) s
    · rw [close?_eq_none_of_staysOpen stays] at hClose
      cases hClose
    · rw [close?_of_zero hZero stays] at hClose
      obtain ⟨rfl, rfl⟩ := Prod.mk.inj (Option.some.inj hClose)
      exact ⟨rfl, hZero, stays⟩
  · rintro ⟨rfl, hZero, stays⟩
    exact close?_of_zero hZero stays after

theorem close?_eq_none_iff : close? depth s = none ↔ StaysOpen (depth + 1) s := by
  constructor
  · intro hClose
    obtain stays | ⟨key, after, rfl, hZero, stays⟩ :=
      staysOpen_or_zero (Int.natCast_succ_pos depth) s
    · exact stays
    · rw [close?_of_zero hZero stays] at hClose
      cases hClose
  · exact close?_eq_none_of_staysOpen

/-! ## Balanced keys -/

/-- The text of a placeholder with a key. -/
def writtenAs (key : List Char) : List Char :=
  '$' :: '{' :: key ++ ['}']

/-- A key whose opener is closed right behind it: the count from the opener on comes to zero there
and nowhere before. -/
structure Balanced (key : List Char) : Prop where
  zero : nesting (writtenAs key) = 0
  first : ∀ part, part <+: key → nesting ('$' :: '{' :: part) ≠ 0

theorem balanced_iff : Balanced key ↔ nesting (key ++ ['}']) + 1 = 0 ∧ StaysOpen 1 key :=
  ⟨fun balanced => ⟨balanced.zero, balanced.first⟩, fun ⟨hZero, stays⟩ => ⟨hZero, stays⟩⟩

theorem close?_zero_eq_some_iff :
    close? 0 s = some (key, after) ↔ s = key ++ '}' :: after ∧ Balanced key := by
  rw [close?_eq_some_iff, balanced_iff]
  rfl

theorem close?_zero_eq_none_iff : close? 0 s = none ↔ StaysOpen 1 s :=
  close?_eq_none_iff

/-- Where the count from an opener on comes to zero a balanced key ends. -/
theorem exists_balanced (closes : ¬ StaysOpen 1 rest) :
    ∃ key after, rest = key ++ '}' :: after ∧ Balanced key := by
  obtain stays | ⟨key, after, hText, hZero, stays⟩ := staysOpen_or_zero Int.one_pos rest
  · exact absurd stays closes
  · exact ⟨key, after, hText, balanced_iff.2 ⟨hZero, stays⟩⟩

theorem Balanced.unique (balanced : Balanced key) (balanced' : Balanced key')
    (hText : key ++ '}' :: after = key' ++ '}' :: after') : key = key' := by
  have hClose : close? 0 (key ++ '}' :: after) = some (key, after) :=
    close?_zero_eq_some_iff.2 ⟨rfl, balanced⟩
  have hClose' := close?_zero_eq_some_iff.2 ⟨hText, balanced'⟩
  rw [hClose] at hClose'
  exact (Prod.mk.inj (Option.some.inj hClose')).1

/-- Before the brace of a placeholder at least its own opener is open. -/
theorem Balanced.pos (balanced : Balanced key) (hPart : part <+: key) :
    0 < nesting ('$' :: '{' :: part) :=
  ((balanced_iff.1 balanced).2.shorter hPart).pos Int.one_pos

/-- An opener in a key comes to zero within the key. -/
theorem Balanced.exists_zero (balanced : Balanced (before ++ '$' :: '{' :: rest)) :
    ∃ part, part <+: rest ∧ nesting ('$' :: '{' :: part) = 0 := by
  by_contra hOpen
  have stays : StaysOpen 1 rest := fun part hPart hZero => hOpen ⟨part, hPart, hZero⟩
  have hRest := stays.pos Int.one_pos
  -- what stands in front of the opener would have to close more than it opens
  have hBefore := balanced.pos (List.prefix_append before _)
  have hZero := balanced.zero
  rw [writtenAs, List.cons_append, List.cons_append, nesting_opener, nesting_concat_brace,
    nesting_append (apart_of_head? (by simp)), nesting_opener] at hZero
  rw [nesting_opener] at hBefore
  omega

end StepArguments.Placeholder
