import StepArguments.Proofs.Markup.Nesting
import StepArguments.Proofs.Markup.Openers

/-! # The leftmost placeholder

A search for a placeholder tries one opener after the other and takes the first one that closes.  So
it finds the placeholder that `IsFirst` describes without a scanner: it stands where the count from
its opener on comes to zero for the first time, and from no opener before it does the count come to
zero at all.  `find?_leftmost` says so for every offset between two characters, with what is relied
on afterwards: the key can be taken out of the text, and the openers in it are closed in it.
-/

namespace StepArguments.Placeholder

open Text.Utf8 (size)

variable {s before rest : List Char} {c : Cut} {p q : Placeholder}
  {text : String} {offset first : Nat}

/-- An opener with a text behind it is closed behind a balanced key. -/
def Closed (rest key : List Char) : Prop :=
  key ++ ['}'] <+: rest ∧ Balanced key

theorem not_closed_of_close?_eq_none (hClose : close? 0 s = none) (key : List Char) :
    ¬ Closed s key := by
  rintro ⟨hKey, balanced⟩
  exact close?_zero_eq_none_iff.1 hClose _ hKey balanced.zero

/-- The scanner finds the placeholder at the first opener that is closed. -/
theorem finds_cut? (s : List Char) : Finds '$' Closed s (cut? s) := by
  fun_induction cut? s with
  | case1 => exact finds_nil
  | case2 s key after hClose =>
    obtain ⟨hText, balanced⟩ := close?_zero_eq_some_iff.1 hClose
    exact .here hText ⟨⟨after, by simp [hText]⟩, balanced⟩
  | case3 s hClose ih =>
    exact ih.behind_opener (by decide) (not_closed_of_close?_eq_none hClose)
  | case4 c s hOpener ih => exact ih.behind hOpener

/-! ## Places in a text -/

/-- At a byte offset of a text stands an opener from which on the count comes to zero. -/
def ClosesAt (s : List Char) (first : Nat) : Prop :=
  ∃ rest part, OpenerAt '$' s first rest ∧ part <+: rest ∧ nesting ('$' :: '{' :: part) = 0

/-- A placeholder of a text: an opener and what follows up to the brace with which the count from
the opener on comes to zero for the first time. -/
structure Stands (s : List Char) (p : Placeholder) : Prop where
  holds : p.span.Holds s (writtenAs p.key.toList)
  balanced : Balanced p.key.toList

theorem size_opener (s : List Char) : size ('$' :: '{' :: s) = size s + 2 := by
  have hDollar : '$'.utf8Size = 1 := rfl
  have hOpen : '{'.utf8Size = 1 := rfl
  rw [Text.Utf8.size_cons, Text.Utf8.size_cons, hDollar, hOpen]
  omega

theorem size_concat_brace (s : List Char) : size (s ++ ['}']) = size s + 1 :=
  Text.Utf8.size_append s ['}']

theorem size_writtenAs (key : List Char) : size (writtenAs key) = size key + 3 := by
  rw [writtenAs, List.cons_append, List.cons_append, size_opener, size_concat_brace]

theorem closesAt_iff :
    ClosesAt s first ↔ ∃ rest key, OpenerAt '$' s first rest ∧ Closed rest key := by
  constructor
  · rintro ⟨rest, part, opener, hPart, hZero⟩
    obtain ⟨key, after, rfl, balanced⟩ := exists_balanced fun stays => stays part hPart hZero
    exact ⟨_, key, opener, ⟨after, by simp⟩, balanced⟩
  · rintro ⟨rest, key, opener, hKey, balanced⟩
    exact ⟨rest, key ++ ['}'], opener, hKey, balanced.zero⟩

theorem Stands.last_eq (stands : Stands s p) :
    p.span.last = p.span.first + size p.key.toList + 3 := by
  rw [stands.holds.last_eq, size_writtenAs, Nat.add_assoc]

theorem Stands.openerAt (stands : Stands s p) :
    ∃ after, OpenerAt '$' s p.span.first (p.key.toList ++ '}' :: after) := by
  obtain ⟨⟨before, after, hText, hFirst, -⟩, -⟩ := stands
  exact ⟨after, before, by simpa [writtenAs] using hText, hFirst.symm⟩

theorem Stands.closesAt (stands : Stands s p) : ClosesAt s p.span.first := by
  obtain ⟨after, opener⟩ := stands.openerAt
  exact ⟨_, p.key.toList ++ ['}'], opener, ⟨after, by simp⟩, stands.balanced.zero⟩

theorem Stands.key_holds (stands : Stands s p) :
    Span.Holds ⟨p.span.first + 2, p.span.last - 1⟩ s p.key.toList := by
  have hLast := stands.last_eq
  obtain ⟨⟨before, after, hText, hFirst, -⟩, -⟩ := stands
  have hOpener : size ['$', '{'] = 2 := rfl
  refine ⟨before ++ ['$', '{'], '}' :: after, by simpa [writtenAs] using hText, ?_, ?_⟩
  · rw [Text.Utf8.size_append, hOpener, hFirst]
  · simp only [Text.Utf8.size_append, hOpener, hLast, hFirst]
    omega

/-- At most one placeholder starts at a byte offset. -/
theorem Stands.unique (stands : Stands s p) (stands' : Stands s q)
    (hFirst : p.span.first = q.span.first) : p = q := by
  have hLast := stands.last_eq
  have hLast' := stands'.last_eq
  obtain ⟨after, opener⟩ := stands.openerAt
  obtain ⟨after', opener'⟩ := stands'.openerAt
  rw [← hFirst] at opener'
  have hKey := stands.balanced.unique stands'.balanced (opener.unique opener')
  obtain ⟨⟨pFirst, pLast⟩, pKey⟩ := p
  obtain ⟨⟨qFirst, qLast⟩, qKey⟩ := q
  obtain rfl : pKey = qKey := String.toList_inj.1 hKey
  obtain rfl : pFirst = qFirst := hFirst
  obtain rfl : pLast = qLast := hLast.trans hLast'.symm
  rfl

/-! ## Searching from an offset on -/

theorem find?_size (hText : text.toList = before ++ rest) :
    find? text (size before) = (cut? rest).map (ofCut (size before)) := by
  rw [find?, hText, Text.Utf8.drop?_size_append]
  rfl

/-- A cut behind the start of a text divides the text at a placeholder. -/
theorem stands_ofCut
    (opener : OpenerAt '$' s (size before + size c.before) (c.inside ++ '}' :: c.after))
    (balanced : Balanced c.inside) : Stands s (ofCut (size before) c) where
  holds := by
    obtain ⟨front, hText, hFront⟩ := opener
    refine ⟨front, c.after, ?_, hFront.symm, ?_⟩
    · rw [hText]
      simp [ofCut, writtenAs]
    · rw [size_writtenAs]
      simp only [ofCut, String.toList_ofList]
      omega
  balanced := by rwa [ofCut, String.toList_ofList]

/-- The placeholder is the first one of a text at a byte offset or behind it. -/
structure IsFirst (s : List Char) (offset : Nat) (p : Placeholder) : Prop where
  stands : Stands s p
  behind : offset ≤ p.span.first
  least : ∀ first, offset ≤ first → ClosesAt s first → p.span.first ≤ first

theorem IsFirst.unique (isFirst : IsFirst s offset p) (isFirst' : IsFirst s offset q) : p = q := by
  have hLe := isFirst.least _ isFirst'.behind isFirst'.stands.closesAt
  have hGe := isFirst'.least _ isFirst.behind isFirst.stands.closesAt
  exact isFirst.stands.unique isFirst'.stands (by omega)

theorem isFirst_of_find? (boundary : Text.Utf8.IsBoundary offset text.toList)
    (hFind : find? text offset = some p) : IsFirst text.toList offset p := by
  obtain ⟨before, rest, hText, rfl⟩ := boundary
  have finds := finds_cut? rest
  rw [find?_size hText] at hFind
  obtain ⟨c, hCut, rfl⟩ := Option.map_eq_some_iff.1 hFind
  rw [hCut] at finds
  rw [hText]
  obtain ⟨opener, -, balanced⟩ := finds.opener before
  refine ⟨stands_ofCut opener balanced, Nat.le_add_right _ _, fun first hFirst closes => ?_⟩
  obtain ⟨_, _, opener', closed⟩ := closesAt_iff.1 closes
  exact finds.first_le opener' hFirst closed

theorem find?_eq_none_iff (boundary : Text.Utf8.IsBoundary offset text.toList) :
    find? text offset = none ↔ ∀ first, offset ≤ first → ¬ ClosesAt text.toList first := by
  constructor
  · obtain ⟨before, rest, hText, rfl⟩ := boundary
    intro hFind first hFirst closes
    have finds := finds_cut? rest
    rw [find?_size hText, Option.map_eq_none_iff] at hFind
    rw [hFind] at finds
    obtain ⟨_, _, opener, closed⟩ := closesAt_iff.1 (hText ▸ closes)
    exact finds.not_closed opener hFirst closed
  · intro hNone
    rw [Option.eq_none_iff_forall_ne_some]
    intro p hFind
    have found := isFirst_of_find? boundary hFind
    exact hNone _ found.behind found.stands.closesAt

theorem find?_eq_some_iff (boundary : Text.Utf8.IsBoundary offset text.toList) (p : Placeholder) :
    find? text offset = some p ↔ IsFirst text.toList offset p :=
  eq_some_iff_of_unique (fun _ => isFirst_of_find? boundary)
    (fun hNone _ wanted =>
      (find?_eq_none_iff boundary).1 hNone _ wanted.behind wanted.stands.closesAt)
    (fun _ _ => IsFirst.unique) p

/-- What a placeholder that was found can be used for: it and its key can be taken out of the text,
and the key can be resolved by itself, as no opener in it is closed by a brace behind it. -/
structure Usable (s : List Char) (p : Placeholder) : Prop where
  inBounds : p.span.InBounds s
  key_inBounds : Span.InBounds ⟨p.span.first + 2, p.span.last - 1⟩ s
  key_holds : Span.Holds ⟨p.span.first + 2, p.span.last - 1⟩ s p.key.toList
  closed : ∀ before rest, p.key.toList = before ++ '$' :: '{' :: rest →
    ∃ part, part <+: rest ∧ nesting ('$' :: '{' :: part) = 0

theorem Stands.usable (stands : Stands s p) : Usable s p where
  inBounds := stands.holds.inBounds
  key_inBounds := stands.key_holds.inBounds
  key_holds := stands.key_holds
  closed before rest hKey := by
    have balanced := stands.balanced
    rw [hKey] at balanced
    exact balanced.exists_zero

/-- From a place between two characters on the leftmost placeholder is found, or none if there is
none.  While an opener is scanned the counter is one less than the count of what was read, and it is
never to be taken below zero. -/
theorem find?_leftmost (boundary : Text.Utf8.IsBoundary offset text.toList) :
    (∀ p, find? text offset = some p ↔ IsFirst text.toList offset p) ∧
    (find? text offset = none ↔ ∀ first, offset ≤ first → ¬ ClosesAt text.toList first) ∧
    (∀ p, find? text offset = some p → Usable text.toList p) ∧
    ∀ part rest, Apart part rest → StaysOpen 1 part → ∃ depth : Nat,
      nesting ('$' :: '{' :: part) = depth + 1 ∧
        close? 0 (part ++ rest) =
          (close? depth rest).map fun parts => (part ++ parts.1, parts.2) := by
  refine ⟨find?_eq_some_iff boundary, find?_eq_none_iff boundary, fun p hFind => ?_,
    fun part rest apart stays => ?_⟩
  · exact (isFirst_of_find? boundary hFind).stands.usable
  · have hStays : StaysOpen ((0 : Nat) + 1) part := stays
    obtain ⟨depth, hDepth, hClose⟩ := close?_append apart hStays
    exact ⟨depth, hDepth.symm, hClose⟩

/-- Behind two letters of two bytes each: an opener that nothing closes, and one that is closed. -/
theorem find?_leftmost_price :
    Text.Utf8.IsBoundary 4 "цé$\x7ba $\x7bцена\x7d €".toList ∧
      IsFirst "цé$\x7ba $\x7bцена\x7d €".toList 4 ⟨⟨8, 19⟩, "цена"⟩ := by
  have hText : "цé$\x7ba $\x7bцена\x7d €".toList =
      ['ц', 'é'] ++ "$\x7ba $\x7bцена\x7d €".toList := by decide
  have boundary : Text.Utf8.IsBoundary 4 "цé$\x7ba $\x7bцена\x7d €".toList :=
    ⟨_, _, hText, by decide⟩
  have hFind : find? "цé$\x7ba $\x7bцена\x7d €" 4 = some ⟨⟨8, 19⟩, "цена"⟩ :=
    (find?_size hText).trans (by decide)
  exact ⟨boundary, ((find?_leftmost boundary).1 _).1 hFind⟩

end StepArguments.Placeholder
