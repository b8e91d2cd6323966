import StepArguments.Proofs.Markup.Spans

/-! # Searching behind openers

Placeholders and expressions start with an opener, a sign and a brace, and they are found in the
same way: the openers of a text are tried from left to right, and the first one that is closed is
taken. `Finds` is what such a search gives, whatever closes an opener.  Its lemmas follow a scanner
from one character to the next (`finds_nil`, `Finds.here`, `Finds.behind_opener`, `Finds.behind`)
and take the outcome to the byte offsets of the whole text (`Finds.opener`, `Finds.first_le`,
`Finds.not_closed`).
-/

namespace StepArguments

open Text.Utf8 (size)

/-! ## Openers -/

/-- At a byte offset of a text an opener stands: the sign and a brace, and the rest behind them. -/
def OpenerAt (sign : Char) (s : List Char) (first : Nat) (rest : List Char) : Prop :=
  ∃ before, s = before ++ sign :: '{' :: rest ∧ size before = first

namespace OpenerAt

variable {sign c : Char} {s before rest rest' : List Char} {first : Nat}

/-- One opener stands at a place. -/
theorem unique (opener : OpenerAt sign s first rest) (opener' : OpenerAt sign s first rest') :
    rest = rest' := by
  obtain ⟨before, hText, hFirst⟩ := opener
  obtain ⟨before', hText', hFirst'⟩ := opener'
  rw [hText] at hText'
  obtain ⟨more, rfl⟩ : before <+: before' :=
    Text.Utf8.prefix_of_size_le (List.prefix_append before _)
      (hText' ▸ List.prefix_append before' _) (by omega)
  rw [Text.Utf8.size_append] at hFirst'
  obtain rfl : more = [] := Text.Utf8.size_eq_zero_iff.1 (by omega)
  simpa using hText'

/-- An opener behind the start of a text is an opener of the rest. -/
theorem behind (opener : OpenerAt sign (before ++ s) first rest) (hFirst : size before ≤ first) :
    ∃ more, s = more ++ sign :: '{' :: rest ∧ size before + size more = first := by
  obtain ⟨front, hText, rfl⟩ := opener
  obtain ⟨more, rfl⟩ : before <+: front :=
    Text.Utf8.prefix_of_size_le (List.prefix_append before s) (hText ▸ List.prefix_append front _)
      hFirst
  rw [List.append_assoc] at hText
  exact ⟨more, List.append_cancel_left hText, (Text.Utf8.size_append before more).symm⟩

/-- An opener of a text that starts with an opener is that one or stands behind it. -/
theorem cases_opener (hSign : sign ≠ '{') (h : sign :: '{' :: s = before ++ sign :: '{' :: rest) :
    before = [] ∧ rest = s ∨
      ∃ more, before = sign :: '{' :: more ∧ s = more ++ sign :: '{' :: rest := by
  cases before with
  | nil => exact .inl ⟨rfl, by simpa using h.symm⟩
  | cons d before =>
    cases before with
    | nil => simp [Ne.symm hSign] at h
    | cons e before =>
      simp only [List.cons_append, List.cons.injEq] at h
      obtain ⟨rfl, rfl, h⟩ := h
      exact .inr ⟨before, rfl, h⟩

theorem cases_cons (hOpener : ∀ more, c = sign → s ≠ '{' :: more)
    (h : c :: s = before ++ sign :: '{' :: rest) :
    ∃ more, before = c :: more ∧ s = more ++ sign :: '{' :: rest := by
  cases before with
  | nil =>
    obtain ⟨rfl, rfl⟩ := List.cons.inj h
    exact absurd rfl (hOpener rest rfl)
  | cons d before =>
    obtain ⟨rfl, rfl⟩ := List.cons.inj h
    exact ⟨before, rfl, rfl⟩

end OpenerAt

/-! ## Outcomes of a search -/

/-- The outcome of a search in a text where `Closed rest inside` says that an opener with `rest`
behind it is closed behind `inside`: the cut at the first opener that is closed, if there is one. -/
inductive Finds (sign : Char) (Closed : List Char → List Char → Prop) (s : List Char) :
    Option Cut → Prop where
  | found {c : Cut} (text : s = c.before ++ sign :: '{' :: (c.inside ++ '}' :: c.after))
      (closed : Closed (c.inside ++ '}' :: c.after) c.inside)
      (first : ∀ before rest inside, s = before ++ sign :: '{' :: rest → Closed rest inside →
        c.before <+: before) : Finds sign Closed s (some c)
  | nothing (unclosed : ∀ before rest inside, s = before ++ sign :: '{' :: rest →
      ¬ Closed rest inside) : Finds sign Closed s none

section

variable {sign d : Char} {Closed : List Char → List Char → Prop} {s before rest rest' inside after :
  List Char} {c : Cut} {found : Option Cut} {first : Nat}

theorem finds_nil : Finds sign Closed [] none :=
  .nothing fun before rest inside hText => by simp at hText

theorem Finds.here (hText : s = inside ++ '}' :: after) (closed : Closed s inside) :
    Finds sign Closed (sign :: '{' :: s) (some ⟨[], inside, after⟩) :=
  .found (by rw [hText]; rfl) (hText ▸ closed) fun _ _ _ _ _ => List.nil_prefix

theorem Finds.behind_opener (hSign : sign ≠ '{') (unclosed : ∀ inside, ¬ Closed s inside)
    (finds : Finds sign Closed s found) :
    Finds sign Closed (sign :: '{' :: s) (found.map (Cut.behind [sign, '{'])) := by
  cases finds with
  | found hText closed hFirst =>
    refine .found (by rw [hText]; rfl) closed fun before rest inside hOpener hClosed => ?_
    obtain ⟨rfl, rfl⟩ | ⟨more, rfl, hMore⟩ := OpenerAt.cases_opener hSign hOpener
    · exact absurd hClosed (unclosed inside)
    · exact (List.prefix_append_right_inj [sign, '{']).2 (hFirst more rest inside hMore hClosed)
  | nothing hUnclosed =>
    refine .nothing fun before rest inside hOpener => ?_
    obtain ⟨rfl, rfl⟩ | ⟨more, rfl, hMore⟩ := OpenerAt.cases_opener hSign hOpener
    · exact unclosed inside
    · exact hUnclosed more rest inside hMore

theorem Finds.behind (hOpener : ∀ more, d = sign → s ≠ '{' :: more)
    (finds : Finds sign Closed s found) :
    Finds sign Closed (d :: s) (found.map (Cut.behind [d])) := by
  cases finds with
  | found hText closed hFirst =>
    refine .found (by rw [hText]; rfl) closed fun before rest inside hBefore hClosed => ?_
    obtain ⟨more, rfl, hMore⟩ := OpenerAt.cases_cons hOpener hBefore
    exact (List.prefix_append_right_inj [d]).2 (hFirst more rest inside hMore hClosed)
  | nothing hUnclosed =>
    refine .nothing fun before rest inside hBefore => ?_
    obtain ⟨more, rfl, hMore⟩ := OpenerAt.cases_cons hOpener hBefore
    exact hUnclosed more rest inside hMore

/-! ## Outcomes in the whole text -/

theorem Finds.opener (finds : Finds sign Closed s (some c)) (before : List Char) :
    OpenerAt sign (before ++ s) (size before + size c.before) (c.inside ++ '}' :: c.after) ∧
      Closed (c.inside ++ '}' :: c.after) c.inside := by
  cases finds with
  | found hText closed =>
    refine ⟨⟨before ++ c.before, ?_, Text.Utf8.size_append before c.before⟩, closed⟩
    rw [List.append_assoc, ← hText]

theorem Finds.first_le (finds : Finds sign Closed s (some c))
    (opener : OpenerAt sign (before ++ s) first rest) (hFirst : size before ≤ first)
    (closed : Closed rest inside) : size before + size c.before ≤ first := by
  cases finds with
  | found hText _ hLeast =>
    obtain ⟨more, hMore, rfl⟩ := opener.behind hFirst
    obtain ⟨gap, rfl⟩ := hLeast more rest inside hMore closed
    rw [Text.Utf8.size_append]
    omega

theorem Finds.not_closed (finds : Finds sign Closed s none)
    (opener : OpenerAt sign (before ++ s) first rest) (hFirst : size before ≤ first) :
    ¬ Closed rest inside := by
  cases finds with
  | nothing unclosed =>
    obtain ⟨more, hMore, -⟩ := opener.behind hFirst
    exact unclosed more rest inside hMore

end

/-- A search finds what a property singles out, if it finds nothing else and nothing only if there
is no such thing. -/
theorem eq_some_iff_of_unique {α : Type} {found : Option α} {P : α → Prop}
    (sound : ∀ a, found = some a → P a) (complete : found = none → ∀ a, ¬ P a)
    (unique : ∀ a b, P a → P b → a = b) (a : α) : found = some a ↔ P a := by
  refine ⟨sound a, fun wanted => ?_⟩
  cases found with
  | none => exact absurd wanted (complete rfl a)
  | some b => rw [unique b a (sound b rfl) wanted]

end StepArguments
