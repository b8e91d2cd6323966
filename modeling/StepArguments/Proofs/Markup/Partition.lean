import Mathlib.Data.List.Sort
import StepArguments.Proofs.Markup.Leftmost

/-! # The placeholders of a text

All placeholders of a text are found by repeated search, each time from where the last one ends
(`Scans`).  What a search passes over closes nowhere, and what stands inside of a placeholder ends
inside of it, so the run finds the placeholders that lie in no other one, and the openers outside of
them are text (`Scans.covers`).  `all_partition` puts together what a run does to the whole text.
-/

namespace StepArguments.Placeholder

open Text.Utf8 (size)

/-- A run of repeated searches from a byte offset on, with what it finds. -/
inductive Scans (text : String) : Nat → List Placeholder → Prop where
  | done {cursor : Nat} (hFind : find? text cursor = none) : Scans text cursor []
  | found {cursor : Nat} {p : Placeholder} {ps : List Placeholder}
      (hFind : find? text cursor = some p) (later : Scans text p.span.last ps) :
      Scans text cursor (p :: ps)

/-- A placeholder of a text that lies in no other one. -/
structure Outermost (s : List Char) (p : Placeholder) : Prop where
  stands : Stands s p
  maximal : ∀ q, Stands s q → q.span.first ≤ p.span.first → p.span.last ≤ q.span.last → q = p

variable {s before rest : List Char} {p q : Placeholder} {ps qs : List Placeholder} {text : String}
  {cursor first : Nat}

/-! ## One placeholder in another -/

/-- A balanced text behind an opener in a key ends within the key. -/
theorem Balanced.prefix_of_opener {key key' front after after' : List Char}
    (balanced : Balanced key) (balanced' : Balanced key')
    (hText : key ++ '}' :: after = front ++ '$' :: '{' :: (key' ++ '}' :: after'))
    (hFront : front <+: key) : front ++ '$' :: '{' :: (key' ++ ['}']) <+: key := by
  obtain ⟨rest, rfl⟩ := hFront
  rw [List.append_assoc] at hText
  have hRest := List.append_cancel_left hText
  -- the opener has both of its characters in front of the brace behind the key
  cases rest with
  | nil => simp at hRest
  | cons c rest =>
    cases rest with
    | nil => simp at hRest
    | cons d rest =>
      simp only [List.cons_append, List.cons.injEq] at hRest
      obtain ⟨rfl, rfl, hRest⟩ := hRest
      obtain ⟨part, hPart, hZero⟩ := balanced.exists_zero
      obtain ⟨inner, behind, rfl, balancedInner⟩ :=
        exists_balanced fun stays => stays part hPart hZero
      rw [List.append_assoc, List.cons_append] at hRest
      obtain rfl := balancedInner.unique balanced' hRest
      exact (List.prefix_append_right_inj front).2 ⟨behind, by simp⟩

/-- A placeholder that starts inside of another one ends inside of it. -/
theorem Stands.last_le (outer : Stands s p) (inner : Stands s q)
    (hFirst : p.span.first ≤ q.span.first) (hLast : q.span.first < p.span.last) :
    q.span.last ≤ p.span.last := by
  cases Nat.eq_or_lt_of_le hFirst with
  | inl hSame => rw [outer.unique inner hSame]
  | inr hBehind =>
    have hOuter := outer.last_eq
    have hInner := inner.last_eq
    obtain ⟨after, before, hText, hBefore⟩ := outer.openerAt
    obtain ⟨after', opener⟩ := inner.openerAt
    rw [hText] at opener
    -- the inner opener lies in the text behind the outer one, and there in front of its brace
    obtain ⟨gap, hGap, hSize⟩ := opener.behind (by omega)
    obtain ⟨rfl, -⟩ | ⟨front, rfl, hFront⟩ := OpenerAt.cases_opener (by decide) hGap
    · rw [Text.Utf8.size_nil] at hSize
      omega
    · rw [size_opener] at hSize
      have hPrefix : front <+: p.key.toList :=
        Text.Utf8.prefix_of_size_le (hFront ▸ List.prefix_append front _)
          (List.prefix_append _ _) (by omega)
      obtain ⟨last, hKey⟩ :=
        outer.balanced.prefix_of_opener inner.balanced hFront hPrefix
      have hKeySize := congrArg size hKey
      rw [Text.Utf8.size_append, Text.Utf8.size_append, size_opener, size_concat_brace] at hKeySize
      omega

/-! ## The run -/

theorem Scans.unique (scans : Scans text cursor ps) (scans' : Scans text cursor qs) : ps = qs := by
  induction scans generalizing qs with
  | done hFind =>
    cases scans' with
    | done => rfl
    | found hFind' => cases hFind.symm.trans hFind'
  | found hFind _ ih =>
    cases scans' with
    | done hFind' => cases hFind.symm.trans hFind'
    | found hFind' later' =>
      obtain rfl := Option.some.inj (hFind.symm.trans hFind')
      rw [ih later']

theorem scans_ofCuts (hText : text.toList = before ++ rest) :
    Scans text (size before) (ofCuts (size before) (cuts rest)) := by
  induction rest using cuts.induct generalizing before with
  | case1 rest hCut =>
    rw [cuts_of_cut?_eq_none hCut]
    exact .done (by rw [find?_size hText, hCut]; rfl)
  | case2 rest c hCut ih =>
    rw [cuts_of_cut?_eq_some hCut]
    -- the next cut is one of the text after this one, which starts where its placeholder ends
    have hRest : text.toList = (before ++ c.before ++ writtenAs c.inside) ++ c.after := by
      rw [hText, eq_of_cut? hCut]
      simp [writtenAs]
    have hLast : size (before ++ c.before ++ writtenAs c.inside) =
        (ofCut (size before) c).span.last := by
      simp only [Text.Utf8.size_append, size_writtenAs, ofCut]
      omega
    have later := ih hRest
    rw [hLast] at later
    exact .found (by rw [find?_size hText, hCut]; rfl) later

theorem scans_all (text : String) : Scans text 0 (all text) := by
  have hText : text.toList = [] ++ text.toList := rfl
  exact scans_ofCuts hText

theorem scans_iff (text : String) (ps : List Placeholder) : Scans text 0 ps ↔ ps = all text := by
  constructor
  · intro scans
    exact scans.unique (scans_all text)
  · rintro rfl
    exact scans_all text

/-- What is found and the gaps around it make up the text from where the run starts. -/
theorem Scans.tiles (scans : Scans text cursor ps) (hText : text.toList = before ++ rest)
    (hCursor : size before = cursor) : ∃ parts,
      List.Forall₂ (fun span part => span.Holds text.toList part)
        (Span.tiling (size text.toList) cursor (ps.map (·.span))) parts ∧ parts.flatten = rest := by
  induction scans generalizing before rest with
  | @done cursor hFind =>
    have hHolds : Span.Holds ⟨cursor, size text.toList⟩ text.toList rest :=
      ⟨before, [], by simpa using hText, hCursor.symm, by rw [hText, Text.Utf8.size_append]⟩
    exact ⟨[rest], .cons hHolds .nil, List.flatten_singleton⟩
  | @found cursor p ps hFind _ ih =>
    have isFirst := isFirst_of_find? ⟨before, rest, hText, hCursor⟩ hFind
    have hBehind := isFirst.behind
    have holds := isFirst.stands.holds
    obtain ⟨front, after, hFront, hFirst, hLast⟩ := isFirst.stands.holds
    obtain ⟨gap, rfl⟩ : before <+: front :=
      Text.Utf8.prefix_of_size_le (hText ▸ List.prefix_append before rest)
        (by rw [hFront, List.append_assoc]; exact List.prefix_append _ _) (by omega)
    have hGap : Span.Holds ⟨cursor, p.span.first⟩ text.toList gap :=
      ⟨before, writtenAs p.key.toList ++ after, by simpa using hFront, hCursor.symm,
        by rw [hFirst, Text.Utf8.size_append]⟩
    obtain ⟨parts, hParts, rfl⟩ := ih hFront (by rw [Text.Utf8.size_append, hLast])
    refine ⟨gap :: writtenAs p.key.toList :: parts, .cons hGap (.cons holds hParts), ?_⟩
    rw [hText, List.append_assoc, List.append_assoc] at hFront
    exact (List.append_cancel_left hFront).symm

variable (boundary : Text.Utf8.IsBoundary cursor text.toList)

include boundary

theorem Scans.stands (scans : Scans text cursor ps) :
    ∀ p ∈ ps, Stands text.toList p ∧ cursor ≤ p.span.first := by
  induction scans with
  | done => simp
  | @found cursor p ps hFind _ ih =>
    have isFirst := isFirst_of_find? boundary hFind
    refine List.forall_mem_cons.2 ⟨⟨isFirst.stands, isFirst.behind⟩, fun q hq => ?_⟩
    obtain ⟨stands, hBehind⟩ := ih isFirst.stands.holds.inBounds.last_boundary q hq
    have hOrdered := isFirst.stands.holds.inBounds.ordered
    exact ⟨stands, by have := isFirst.behind; omega⟩

theorem Scans.pairwise (scans : Scans text cursor ps) :
    ps.Pairwise fun p q => p.span.first < q.span.first ∧ p.span.last ≤ q.span.first := by
  induction scans with
  | done => exact .nil
  | @found cursor p ps hFind later ih =>
    have stands := (isFirst_of_find? boundary hFind).stands
    have hLast := stands.last_eq
    have behind := stands.holds.inBounds.last_boundary
    refine .cons (fun q hq => ?_) (ih behind)
    have hBehind := (later.stands behind q hq).2
    omega

/-- An opener from which on the count comes to zero stands in a placeholder that is found. -/
theorem Scans.covers (scans : Scans text cursor ps) (hFirst : cursor ≤ first)
    (closes : ClosesAt text.toList first) :
    ∃ p ∈ ps, p.span.first ≤ first ∧ first < p.span.last := by
  induction scans with
  | done hFind => exact absurd closes ((find?_eq_none_iff boundary).1 hFind first hFirst)
  | @found cursor p ps hFind later ih =>
    have isFirst := isFirst_of_find? boundary hFind
    -- the search found no opener in front of the placeholder, and the later ones look behind it
    by_cases hLast : first < p.span.last
    · exact ⟨p, List.mem_cons_self, isFirst.least first hFirst closes, hLast⟩
    · obtain ⟨q, hq, hCovers⟩ :=
        ih isFirst.stands.holds.inBounds.last_boundary (Nat.le_of_not_lt hLast)
      exact ⟨q, List.mem_cons_of_mem p hq, hCovers⟩

omit boundary

/-! ## The whole text -/

theorem boundary_zero (s : List Char) : Text.Utf8.IsBoundary 0 s :=
  ⟨[], s, rfl, rfl⟩

theorem Scans.eq_of_overlap (scans : Scans text 0 ps) (hp : p ∈ ps) (hq : q ∈ ps) :
    p.span.first < q.span.last → q.span.first < p.span.last → p = q := by
  have separate := scans.pairwise (boundary_zero _)
  refine List.Pairwise.forall_of_forall_of_flip
    (R := fun p q => p.span.first < q.span.last → q.span.first < p.span.last → p = q)
    (fun _ _ _ _ => rfl) (separate.imp ?_) (separate.imp ?_) hp hq
  · intro p q hApart hFirst hLast
    omega
  · intro p q hApart hFirst hLast
    omega

/-- A run over the whole text finds the placeholders that lie in no other one. -/
theorem Scans.mem_iff (scans : Scans text 0 ps) : p ∈ ps ↔ Outermost text.toList p := by
  have boundary := boundary_zero text.toList
  constructor
  · intro hp
    have stands := (scans.stands boundary p hp).1
    refine ⟨stands, fun q standsOuter hFirst hLast => ?_⟩
    -- the one around it starts in some placeholder of the run, which can only be this one
    obtain ⟨p', hp', hFirst', hLast'⟩ := scans.covers boundary (Nat.zero_le _) standsOuter.closesAt
    have hWithin := (scans.stands boundary p' hp').1.last_le standsOuter hFirst' hLast'
    have hSize := stands.last_eq
    obtain rfl := scans.eq_of_overlap hp hp' (by omega) (by omega)
    exact standsOuter.unique stands (by omega)
  · intro outermost
    obtain ⟨q, hq, hFirst, hLast⟩ :=
      scans.covers boundary (Nat.zero_le _) outermost.stands.closesAt
    have standsOuter := (scans.stands boundary q hq).1
    have hWithin := standsOuter.last_le outermost.stands hFirst hLast
    rwa [← outermost.maximal q standsOuter hFirst hWithin]

theorem occurs_iff (text : String) :
    occurs text = true ↔ ∃ first, ClosesAt text.toList first := by
  have hNone := find?_eq_none_iff (boundary_zero text.toList)
  rw [occurs, Option.isSome_iff_ne_none, ne_eq, hNone]
  simp

/-- Placeholders are told apart by where they start, and a list in order by what is in it. -/
theorem eq_all_of_mem_iff (ordered : ps.Pairwise fun p q => p.span.first < q.span.first)
    (hMem : ∀ p, p ∈ ps ↔ Outermost text.toList p) : ps = all text := by
  have scans := scans_all text
  have ordered' := (scans.pairwise (boundary_zero _)).imp fun h => h.1
  have : Std.Irrefl fun p q : Placeholder => p.span.first < q.span.first :=
    ⟨fun p => Nat.lt_irrefl _⟩
  have : Std.Antisymm fun p q : Placeholder => p.span.first < q.span.first :=
    ⟨fun p q hp hq => absurd hp (Nat.lt_asymm hq)⟩
  exact ordered.eq_of_mem_iff ordered' fun p => (hMem p).trans scans.mem_iff.symm

/-- The search for all placeholders comes to an end and finds those that lie in no other one, in
order and apart from each other.  They and the gaps between them are the text, and the count from an
opener in a gap on stays above zero up to the end of the text. -/
theorem all_partition (text : String) :
    (∀ ps, Scans text 0 ps ↔ ps = all text) ∧
    (all text).Pairwise (fun p q => p.span.first < q.span.first ∧ p.span.last ≤ q.span.first) ∧
    (∀ p, p ∈ all text ↔ Outermost text.toList p) ∧
    (∃ parts, List.Forall₂ (fun span part => span.Holds text.toList part)
      (Span.tiling (size text.toList) 0 ((all text).map (·.span))) parts ∧
        parts.flatten = text.toList) ∧
    (∀ first rest, OpenerAt '$' text.toList first rest →
      (∀ p ∈ all text, ¬ (p.span.first ≤ first ∧ first < p.span.last)) →
        ∀ part, part <+: rest → 0 < nesting ('$' :: '{' :: part)) ∧
    (occurs text = true ↔ ∃ first, ClosesAt text.toList first) ∧
    ∀ ps : List Placeholder, ps.Pairwise (fun p q => p.span.first < q.span.first) →
      (∀ p, p ∈ ps ↔ Outermost text.toList p) → keys text = ps.map (·.key) := by
  have scans := scans_all text
  have boundary := boundary_zero text.toList
  have hText : text.toList = [] ++ text.toList := rfl
  refine ⟨scans_iff text, scans.pairwise boundary, fun p => scans.mem_iff, scans.tiles hText rfl, ?_,
    occurs_iff text, ?_⟩
  · intro first rest opener hOutside part hPart
    have stays : StaysOpen 1 rest := fun part hPart hZero => by
      obtain ⟨p, hp, hCovers⟩ :=
        scans.covers boundary (Nat.zero_le _) ⟨rest, part, opener, hPart, hZero⟩
      exact hOutside p hp hCovers
    exact (stays.shorter hPart).pos Int.one_pos
  · intro ps ordered hMem
    rw [eq_all_of_mem_iff ordered hMem, keys]

end StepArguments.Placeholder
