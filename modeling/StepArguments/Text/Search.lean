/-! # Searching a text

`cut?` splits a text around the leftmost occurrence of a pattern; `splitAt` cuts it at every
occurrence of one character. No occurrence ends before the one that is cut out (`leftmost_of_cut?`),
a pattern that begins nowhere before is cut out (`cut?_append_pattern`), and lines without the
character are what their text is cut into (`splitAt_lines`). -/

namespace StepArguments.Text

/-- The text after a leading pattern, if the text starts with it. -/
def after? : (pattern text : List Char) → Option (List Char)
  | [], text => some text
  | _ :: _, [] => none
  | p :: pattern, c :: text => if p = c then after? pattern text else none

/-- The parts of a text before and after the leftmost occurrence of a pattern. -/
def cut? (pattern : List Char) : List Char → Option (List Char × List Char)
  | [] => if pattern.isEmpty then some ([], []) else none
  | c :: text =>
    match after? pattern (c :: text) with
    | some rest => some ([], rest)
    | none => (cut? pattern text).map fun (before, rest) => (c :: before, rest)

def occurs (pattern text : List Char) : Bool :=
  (cut? pattern text).isSome

/-- The pieces of a text between the occurrences of a separator; one piece more than there are
separators. -/
def splitAt (separator : Char) : List Char → List (List Char)
  | [] => [[]]
  | c :: text =>
    if c = separator then [] :: splitAt separator text
    else
      match splitAt separator text with
      | [] => [[c]]
      | piece :: pieces => (c :: piece) :: pieces

theorem after?_eq_some_iff {pattern text rest : List Char} :
    after? pattern text = some rest ↔ text = pattern ++ rest := by
  induction pattern generalizing text with
  | nil => simp [after?]
  | cons p pattern ih =>
    cases text with
    | nil => simp [after?]
    | cons c text =>
      by_cases h : p = c
      · simp [after?, h, ih]
      · simp [after?, h, Ne.symm h]

theorem after?_cons (c : Char) (text : List Char) : after? [c] (c :: text) = some text :=
  after?_eq_some_iff.2 rfl

theorem after?_eq_none_iff {pattern text : List Char} :
    after? pattern text = none ↔ ¬ pattern <+: text := by
  rw [Option.eq_none_iff_forall_ne_some, List.IsPrefix, not_exists]
  exact forall_congr' fun rest => not_congr (after?_eq_some_iff.trans eq_comm)

theorem eq_of_cut? {pattern text before rest : List Char}
    (h : cut? pattern text = some (before, rest)) : text = before ++ pattern ++ rest := by
  induction text generalizing before rest with
  | nil =>
    cases pattern with
    | nil => simp_all [cut?]
    | cons p pattern => simp [cut?] at h
  | cons c text ih =>
    rw [cut?] at h
    split at h
    · rename_i rest' hrest
      obtain ⟨rfl, rfl⟩ := Prod.mk.inj (Option.some.inj h)
      simpa using after?_eq_some_iff.1 hrest
    · obtain ⟨⟨before', rest'⟩, hcut, heq⟩ := Option.map_eq_some_iff.1 h
      obtain ⟨rfl, rfl⟩ := Prod.mk.inj heq
      simpa using ih hcut

theorem cut?_eq_none_iff {pattern text : List Char} :
    cut? pattern text = none ↔ ¬ pattern <:+: text := by
  induction text with
  | nil => cases pattern <;> simp [cut?]
  | cons c text ih =>
    rw [List.infix_cons_iff, not_or, ← ih, ← after?_eq_none_iff, cut?]
    cases after? pattern (c :: text) <;> simp

/-- The occurrence that is cut out is the leftmost one: up to its end there is no other. -/
theorem leftmost_of_cut? {pattern text before rest earlier later : List Char}
    (hCut : cut? pattern text = some (before, rest))
    (hOccurs : before ++ pattern = earlier ++ pattern ++ later) : later = [] := by
  induction text generalizing before earlier with
  | nil =>
    obtain ⟨rfl, rfl, -⟩ : before = [] ∧ pattern = [] ∧ rest = [] := by
      simpa using (eq_of_cut? hCut).symm
    have hNothing : earlier = [] ∧ later = [] := by simpa using hOccurs.symm
    exact hNothing.2
  | cons c text ih =>
    have hText := eq_of_cut? hCut
    rw [cut?] at hCut
    split at hCut
    · obtain ⟨rfl, rfl⟩ := Prod.mk.inj (Option.some.inj hCut)
      have hLength := congrArg List.length hOccurs
      simp only [List.length_append, List.length_nil] at hLength
      exact List.eq_nil_of_length_eq_zero (by omega)
    · rename_i hHere
      obtain ⟨⟨before, rest⟩, hLater, hPair⟩ := Option.map_eq_some_iff.1 hCut
      obtain ⟨rfl, rfl⟩ := Prod.mk.inj hPair
      cases earlier with
      | nil =>
        -- the text would begin with the pattern
        rw [List.nil_append] at hOccurs
        rw [after?_eq_none_iff, hText, hOccurs, List.append_assoc] at hHere
        exact absurd (List.prefix_append _ _) hHere
      | cons d earlier => exact ih hLater (List.cons.inj hOccurs).2

theorem cut?_prefix (pattern rest : List Char) : cut? pattern (pattern ++ rest) = some ([], rest) := by
  cases hText : pattern ++ rest with
  | nil =>
    obtain ⟨rfl, rfl⟩ := List.append_eq_nil_iff.1 hText
    rfl
  | cons c text => rw [cut?, after?_eq_some_iff.2 hText.symm]

/-- A text is cut around a pattern that begins nowhere before. -/
theorem cut?_append_pattern {pattern text rest : List Char}
    (hFirst : ∀ before after, text = before ++ after → after ≠ [] →
      ¬ pattern <+: after ++ pattern ++ rest) :
    cut? pattern (text ++ pattern ++ rest) = some (text, rest) := by
  induction text with
  | nil => exact cut?_prefix pattern rest
  | cons c text ih =>
    have hHere := hFirst [] (c :: text) rfl (List.cons_ne_nil c text)
    have hLater := ih fun before after hText => hFirst (c :: before) after (congrArg (c :: ·) hText)
    rw [List.cons_append, List.cons_append] at hHere ⊢
    rw [cut?, after?_eq_none_iff.2 hHere, hLater]
    rfl

theorem cut?_append {c : Char} {s t : List Char} (hs : c ∉ s) :
    cut? [c] (s ++ c :: t) = some (s, t) := by
  induction s with
  | nil => simp [cut?, after?]
  | cons d s ih =>
    rw [List.mem_cons, not_or] at hs
    simp [cut?, after?, hs.1, ih hs.2]

theorem cut?_eq_none_of_not_mem {c : Char} {s : List Char} (hs : c ∉ s) : cut? [c] s = none := by
  induction s with
  | nil => rfl
  | cons d s ih =>
    rw [List.mem_cons, not_or] at hs
    simp [cut?, after?, hs.1, ih hs.2]

/-- The first piece stands at the start of the text, and every piece somewhere in it. -/
theorem splitAt_eq_cons (separator : Char) (text : List Char) :
    ∃ piece pieces, splitAt separator text = piece :: pieces ∧ piece <+: text ∧
      ∀ other ∈ pieces, other <:+: text := by
  induction text with
  | nil => exact ⟨[], [], rfl, List.prefix_refl [], by simp⟩
  | cons c text ih =>
    obtain ⟨piece, pieces, hSplit, hPiece, hPieces⟩ := ih
    have hLater (other : List Char) (hOther : other ∈ pieces) : other <:+: c :: text :=
      (hPieces other hOther).trans (List.suffix_cons c text).isInfix
    rw [splitAt, hSplit]
    by_cases hSeparator : c = separator
    · refine ⟨[], piece :: pieces, if_pos hSeparator, List.nil_prefix, ?_⟩
      exact List.forall_mem_cons.2 ⟨hPiece.isInfix.trans (List.suffix_cons c text).isInfix, hLater⟩
    · exact ⟨c :: piece, pieces, if_neg hSeparator, List.cons_prefix_cons.2 ⟨rfl, hPiece⟩, hLater⟩

theorem infix_of_mem_splitAt {separator : Char} {text piece : List Char}
    (hPiece : piece ∈ splitAt separator text) : piece <:+: text := by
  obtain ⟨first, others, hSplit, hFirst, hOthers⟩ := splitAt_eq_cons separator text
  rw [hSplit, List.mem_cons] at hPiece
  rcases hPiece with rfl | hOther
  · exact hFirst.isInfix
  · exact hOthers piece hOther

theorem splitAt_append {separator : Char} {piece : List Char} (hPiece : separator ∉ piece)
    (text : List Char) :
    splitAt separator (piece ++ separator :: text) = piece :: splitAt separator text := by
  induction piece with
  | nil => exact if_pos rfl
  | cons c piece ih =>
    rw [List.mem_cons, not_or] at hPiece
    obtain ⟨hNe, hRest⟩ := hPiece
    show splitAt separator (c :: (piece ++ separator :: text)) = _
    rw [splitAt, if_neg (Ne.symm hNe), ih hRest]

theorem splitAt_of_not_mem {separator : Char} {text : List Char} (hText : separator ∉ text) :
    splitAt separator text = [text] := by
  induction text with
  | nil => rfl
  | cons c text ih =>
    rw [List.mem_cons, not_or] at hText
    obtain ⟨hNe, hRest⟩ := hText
    rw [splitAt, if_neg (Ne.symm hNe), ih hRest]

/-- Lines that are written one after the other, each but the first after a separator. -/
theorem splitAt_lines {separator : Char} {first : List Char} {lines : List (List Char)}
    (hFirst : separator ∉ first) (hLines : ∀ line ∈ lines, separator ∉ line) :
    splitAt separator (first ++ lines.flatMap (separator :: ·)) = first :: lines := by
  induction lines generalizing first with
  | nil => rw [List.flatMap_nil, List.append_nil, splitAt_of_not_mem hFirst]
  | cons line lines ih =>
    obtain ⟨hLine, hLater⟩ := List.forall_mem_cons.1 hLines
    rw [List.flatMap_cons, List.cons_append, splitAt_append hFirst, ih hLine hLater]

theorem not_mem_of_mem_splitAt {separator : Char} {text piece : List Char}
    (hPiece : piece ∈ splitAt separator text) : separator ∉ piece := by
  induction text generalizing piece with
  | nil =>
    obtain rfl := List.mem_singleton.1 hPiece
    exact List.not_mem_nil
  | cons c text ih =>
    rw [splitAt] at hPiece
    split at hPiece
    · rcases List.mem_cons.1 hPiece with rfl | hLater
      · exact List.not_mem_nil
      · exact ih hLater
    · rename_i hOther
      split at hPiece
      · obtain rfl := List.mem_singleton.1 hPiece
        simpa using Ne.symm hOther
      · rename_i first others hSplit
        rw [hSplit] at ih
        rcases List.mem_cons.1 hPiece with rfl | hLater
        · rw [List.mem_cons, not_or]
          exact ⟨Ne.symm hOther, ih List.mem_cons_self⟩
        · exact ih (List.mem_cons_of_mem first hLater)

end StepArguments.Text
