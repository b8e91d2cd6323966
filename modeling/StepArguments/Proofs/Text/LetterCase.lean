import Mathlib.Data.List.Nodup
import StepArguments.Proofs.Text.Words

/-! # Letter case and words

A blank character has no counterpart in the other case, and it is no counterpart of another character.
So a change of case leaves the words of a text where they are (`unbroken_lowerChar`,
`unbroken_upperChar`).

Only the small sigma at the end of a word depends on the characters around it, and a look for these
stops at the first blank character.  That is why the lower case of a text is that of its words, each
taken by itself (`lowerChars_eq_mapWords`).  The lower case of an ASCII text is that of its characters
(`lower_of_ascii`).
-/

namespace StepArguments.Text

variable {c : Char} {s text before : List Char}

/-! ## Ranges without blank characters -/

def blankRanges : List Range :=
  [⟨0x09, 0x0D⟩, ⟨0x20, 0x20⟩, ⟨0x85, 0x85⟩, ⟨0xA0, 0xA0⟩, ⟨0x1680, 0x1680⟩, ⟨0x2000, 0x200A⟩,
    ⟨0x2028, 0x2029⟩, ⟨0x202F, 0x202F⟩, ⟨0x205F, 0x205F⟩, ⟨0x3000, 0x3000⟩]

theorem isBlank_iff_inRanges : isBlank c = true ↔ inRanges blankRanges c = true := by
  simp only [isBlank, inRanges, blankRanges, List.any_cons, List.any_nil, Bool.or_eq_true,
    Bool.and_eq_true, decide_eq_true_eq, beq_iff_eq, Bool.false_eq_true, or_false]
  omega

/-- Whether there is no blank character in a range. -/
def Range.isVisible (r : Range) : Bool :=
  blankRanges.all fun b => b.last.blt r.first || r.last.blt b.first

theorem Range.isBlank_of_isVisible {r : Range} (hr : r.isVisible = true)
    (hc : r.first ≤ c.toNat ∧ c.toNat ≤ r.last) : isBlank c = false := by
  rw [← Bool.not_eq_true, isBlank_iff_inRanges, inRanges, List.any_eq_true]
  rintro ⟨b, hb, hIn⟩
  have hApart := List.all_eq_true.1 hr b hb
  simp only [Bool.or_eq_true, Nat.blt_eq] at hApart
  simp only [Bool.and_eq_true, decide_eq_true_eq] at hIn
  omega

theorem Range.isBlank_ofNat {r : Range} (hr : r.isVisible = true) {n : Nat}
    (hn : r.first ≤ n ∧ n ≤ r.last) : isBlank (Char.ofNat n) = false := by
  by_cases hValid : n.isValidChar
  · have hCode : (Char.ofNat n).toNat = n := by
      rw [Char.ofNat, dif_pos hValid]
      rfl
    exact isBlank_of_isVisible hr (by rwa [hCode])
  · rw [Char.ofNat, dif_neg hValid]
    decide

theorem inRanges_of_isBlank {ranges : List Range} (hRanges : ranges.all Range.isVisible = true)
    (hc : isBlank c = true) : inRanges ranges c = false := by
  rw [inRanges, List.any_eq_false]
  intro r hr hIn
  simp only [Bool.and_eq_true, decide_eq_true_eq] at hIn
  exact absurd hc (by simp [Range.isBlank_of_isVisible (List.all_eq_true.1 hRanges r hr) hIn])

/-! ## Counterparts -/

namespace Case

/-- The characters with counterparts in a run, and those in between. -/
def Run.source (r : Run) : Range :=
  ⟨r.first, r.last⟩

def Run.image (r : Run) : Range :=
  ⟨r.target, r.target + (r.last - r.first)⟩

variable {runs : List Run} {sequences : List (Nat × List Nat)}

theorem counterparts_of_isBlank (hRuns : runs.all (·.source.isVisible) = true)
    (hSequences : sequences.all (fun p => Range.isVisible ⟨p.1, p.1⟩) = true)
    (hc : isBlank c = true) : counterparts runs sequences c = [c] := by
  have hBlank : isBlank c ≠ false := by simp [hc]
  have hRun : inRuns? runs c.toNat = none := by
    rw [inRuns?, List.findSome?_eq_none_iff]
    intro r hr
    rw [Option.map_eq_none_iff]
    refine if_neg fun hIn => hBlank ?_
    exact Range.isBlank_of_isVisible (List.all_eq_true.1 hRuns r hr) ⟨hIn.1, hIn.2.1⟩
  have hSequence : sequences.lookup c.toNat = none := by
    -- a code point that is listed is a range of its own
    rw [List.lookup_eq_none_iff]
    intro p hp
    rw [bne_iff_ne]
    refine fun hCode => hBlank (Range.isBlank_of_isVisible (List.all_eq_true.1 hSequences p hp) ?_)
    exact ⟨Nat.le_of_eq hCode.symm, Nat.le_of_eq hCode⟩
  rw [counterparts, hRun, hSequence]

/-- No blank character is a counterpart of a character that is not blank itself. -/
theorem unbroken_counterparts (hRuns : runs.all (·.image.isVisible) = true)
    (hSequences : ∀ p ∈ sequences, p.2 ≠ [] ∧ ∀ n ∈ p.2, isBlank (Char.ofNat n) = false)
    (hc : isBlank c = false) : Unbroken (counterparts runs sequences c) := by
  rw [counterparts]
  split
  · rename_i code hCode
    obtain ⟨r, hr, hMapped⟩ := List.exists_of_findSome?_eq_some hCode
    obtain ⟨offset, hOffset, rfl⟩ := Option.map_eq_some_iff.1 hMapped
    obtain ⟨hIn, hPlace⟩ := Option.ite_none_right_eq_some.1 hOffset
    obtain rfl := Option.some.inj hPlace
    refine .singleton (Range.isBlank_ofNat (List.all_eq_true.1 hRuns r hr) ?_)
    simp only [Run.image]
    omega
  · split
    · rename_i codes hCodes
      obtain ⟨_, _, rfl, -⟩ := List.lookup_eq_some_iff.1 hCodes
      obtain ⟨hNe, hBlank⟩ := hSequences (c.toNat, codes) (by simp)
      exact ⟨by simpa using hNe, List.forall_mem_map.2 hBlank⟩
    · exact .singleton hc

end Case

theorem lowerChar_of_isBlank (hc : isBlank c = true) : lowerChar c = [c] :=
  Case.counterparts_of_isBlank (by decide +kernel) (by decide +kernel) hc

theorem unbroken_lowerChar (hc : isBlank c = false) : Unbroken (lowerChar c) :=
  Case.unbroken_counterparts (by decide +kernel) (by decide +kernel) hc

theorem unbroken_upperChar (hc : isBlank c = false) : Unbroken (upperChar c) :=
  Case.unbroken_counterparts (by decide +kernel) (by decide +kernel) hc

theorem isCased_of_isBlank (hc : isBlank c = true) : isCased c = false :=
  inRanges_of_isBlank (by decide +kernel) hc

theorem isCaseIgnorable_of_isBlank (hc : isBlank c = true) : isCaseIgnorable c = false :=
  inRanges_of_isBlank (by decide +kernel) hc

/-! ## Lower case word by word -/

theorem meetsLetter_append (hText : BlankFirst text) :
    meetsLetter (s ++ text) = meetsLetter s := by
  rw [meetsLetter, meetsLetter, List.dropWhile_append]
  cases s.dropWhile isCaseIgnorable with
  | cons c s => rfl
  | nil =>
    -- nothing before the blank character counts, and it is no letter itself
    cases text with
    | nil => rfl
    | cons c text =>
      have hc := blankFirst_cons.1 hText
      simp [isCased_of_isBlank hc, isCaseIgnorable_of_isBlank hc]

/-- Of the characters before only those of the same word count. -/
theorem lowerAfter_append_before (hBefore : BlankFirst before) (nearer : List Char) :
    lowerAfter (nearer ++ before) s = lowerAfter nearer s := by
  induction s generalizing nearer with
  | nil => rfl
  | cons c s ih => rw [lowerAfter, lowerAfter, meetsLetter_append hBefore, ← List.cons_append, ih]

theorem lowerAfter_append (hText : BlankFirst text) :
    lowerAfter before (s ++ text) =
      lowerAfter before s ++ lowerAfter (s.reverse ++ before) text := by
  induction s generalizing before with
  | nil => rfl
  | cons c s ih =>
    rw [List.cons_append, lowerAfter, lowerAfter, meetsLetter_append hText, ih, List.reverse_cons,
      List.append_assoc, List.append_assoc, List.singleton_append]

theorem lowerAfter_blank (hc : isBlank c = true) :
    lowerAfter before (c :: text) = c :: lowerChars text := by
  have hSigma : c ≠ 'Σ' := by
    rintro rfl
    exact absurd hc (by decide)
  rw [lowerAfter, if_neg hSigma, lowerChar_of_isBlank hc, List.singleton_append]
  exact congrArg (c :: ·) (lowerAfter_append_before (blankFirst_cons.2 hc) [])

theorem lowerAfter_of_blankFirst (hText : BlankFirst text) :
    lowerAfter before text = lowerChars text := by
  cases text with
  | nil => rfl
  | cons c text =>
    have hc := blankFirst_cons.1 hText
    exact (lowerAfter_blank hc).trans (lowerAfter_blank hc).symm

/-- The lower case of a text is that of its words. -/
theorem lowerChars_eq_mapWords (text : List Char) : lowerChars text = mapWords lowerChars text := by
  obtain ⟨row, inPieces⟩ : ∃ row, InPieces text row := ⟨_, inPieces_pieces text⟩
  induction inPieces with
  | nil => rfl
  | blank hc _ ih => rw [lowerChars, lowerAfter_blank hc, mapWords_blank hc, ih]
  | word hs hText _ ih =>
    rw [lowerChars, lowerAfter_append hText, lowerAfter_of_blankFirst hText, mapWords_word hs hText,
      ih]
    rfl

example : lowerChars "ΟΔΟΣ ΣΑΣ".toList = "οδος σας".toList ∧
    mapWords lowerChars "ΟΔΟΣ ΣΑΣ".toList = "οδος σας".toList := by decide +kernel

theorem unbroken_lowerAfter (hs : Unbroken s) : Unbroken (lowerAfter before s) := by
  obtain ⟨hNe, hBlank⟩ := hs
  induction s generalizing before with
  | nil => exact absurd rfl hNe
  | cons c s ih =>
    obtain ⟨hc, hRest⟩ := List.forall_mem_cons.1 hBlank
    rw [lowerAfter]
    refine Unbroken.append ?_ ?_
    · split
      · exact .singleton (by split <;> decide)
      · exact unbroken_lowerChar hc
    · cases s with
      | nil => exact List.forall_mem_nil _
      | cons d s => exact (ih (List.cons_ne_nil d s) hRest).not_blank

/-- Lower case leaves the blank characters and the words of a text in their places. -/
theorem InPieces.lowerChars {row : List Piece} (inPieces : InPieces text row) :
    InPieces (lowerChars text) (row.map (Piece.mapWord lowerChars)) := by
  rw [lowerChars_eq_mapWords]
  exact inPieces.mapWords fun _ hs => unbroken_lowerAfter hs

/-! ## ASCII -/

/-- The only run with ASCII characters. -/
def Case.asciiRun : Run :=
  ⟨0x41, 0x5A, 0x1, 0x61⟩

theorem Case.inRuns?_of_ascii {n : Nat} (hn : n < 0x80) :
    inRuns? lowerRuns n = (asciiRun.offset? n).map (asciiRun.target + ·) := by
  have hLater : lowerRuns.tail.all (fun r => Nat.ble 0x80 r.first) = true := by decide +kernel
  have hRuns : lowerRuns = asciiRun :: lowerRuns.tail := rfl
  have hNone : inRuns? lowerRuns.tail n = none := by
    rw [inRuns?, List.findSome?_eq_none_iff]
    intro r hr
    have hFirst := Nat.le_of_ble_eq_true (List.all_eq_true.1 hLater r hr)
    rw [Option.map_eq_none_iff]
    exact if_neg fun hIn => by omega
  rw [hRuns, inRuns?, List.findSome?_cons, ← inRuns?, hNone]
  cases (asciiRun.offset? n).map (asciiRun.target + ·) <;> rfl

theorem lowerChar_of_ascii (hc : c.toNat < 0x80) : lowerChar c = [c.toLower] := by
  have hAll : ∀ n < 0x80, Case.lowerSequences.lookup n = none ∧
      ((Case.asciiRun.offset? n).map (Case.asciiRun.target + ·)).elim (Char.ofNat n) Char.ofNat =
        (Char.ofNat n).toLower := by
    decide +kernel
  obtain ⟨hSequence, hHere⟩ := hAll c.toNat hc
  rw [Char.ofNat_toNat] at hHere
  rw [lowerChar, Case.counterparts, Case.inRuns?_of_ascii hc, hSequence]
  cases hRun : (Case.asciiRun.offset? c.toNat).map (Case.asciiRun.target + ·) with
  | none => rw [← hHere, hRun, Option.elim_none]
  | some code => rw [← hHere, hRun, Option.elim_some]

theorem isUpper_of_ascii (hc : c.toNat < 0x80) : isUpper c = c.isUpper := by
  have hAll : ∀ n < 0x80, (decide (0x41 ≤ n) && decide (n ≤ 0x5A)) = (Char.ofNat n).isUpper := by
    decide +kernel
  have hLater : Case.uppercaseRanges.tail.all (fun r => Nat.ble 0x80 r.first) = true := by
    decide +kernel
  have hRanges : Case.uppercaseRanges = ⟨0x41, 0x5A⟩ :: Case.uppercaseRanges.tail := rfl
  have hNone : inRanges Case.uppercaseRanges.tail c = false := by
    rw [inRanges, List.any_eq_false]
    intro r hr
    have hFirst := Nat.le_of_ble_eq_true (List.all_eq_true.1 hLater r hr)
    simp only [Bool.and_eq_true, decide_eq_true_eq]
    omega
  rw [isUpper, hRanges, inRanges, List.any_cons, ← inRanges, hNone, Bool.or_false, hAll _ hc,
    Char.ofNat_toNat]

theorem lowerAfter_of_ascii (hs : ∀ c ∈ s, c.toNat < 0x80) :
    lowerAfter before s = s.map Char.toLower := by
  induction s generalizing before with
  | nil => rfl
  | cons c s ih =>
    obtain ⟨hc, hRest⟩ := List.forall_mem_cons.1 hs
    have hSigma : c ≠ 'Σ' := by
      rintro rfl
      exact absurd hc (by decide)
    rw [lowerAfter, if_neg hSigma, lowerChar_of_ascii hc, ih hRest]
    rfl

theorem lower_of_ascii {s : String} (hs : ∀ c ∈ s.toList, c.toNat < 0x80) :
    lower s = String.ofList (s.toList.map Char.toLower) :=
  congrArg String.ofList (lowerAfter_of_ascii hs)

/-- ASCII texts that differ by more than the case of their letters. -/
theorem nodup_lower {names : List String}
    (hAscii : (names.all fun name => name.toList.all fun c => c.toNat.blt 0x80) = true)
    (hDistinct : (names.map fun name => name.toList.map Char.toLower).Nodup) :
    (names.map lower).Nodup := by
  have hLower : names.map lower = (names.map fun name => name.toList.map Char.toLower).map
      String.ofList := by
    rw [List.map_map]
    refine List.map_congr_left fun name hName => lower_of_ascii fun c hc => ?_
    have hHere := List.all_eq_true.1 (List.all_eq_true.1 hAscii name hName) c hc
    rwa [Nat.blt_eq] at hHere
  rw [hLower]
  exact hDistinct.map fun _ _ => String.ofList_injective

end StepArguments.Text
