import StepArguments.Proofs.Resolver.Filling

/-! # Values that keep their type

A text that is one placeholder and nothing else gives the value of that placeholder as it is; any
other text is meant to give a text.  Whether a placeholder is all there is gets decided on the text
as it was rewritten so far, though, and in front of the last placeholder nothing may be left of
others.  `nativeOnlyIfWhole_iff` says when the intended rule holds, and `not_nativeOnlyIfWhole` gives
a text for which it does not.
-/

namespace StepArguments

/-! ## Placeholders that cover a text -/

namespace Placeholder

theorem find?_zero (text : String) : find? text 0 = (cut? text.toList).map (ofCut 0) := by
  simp [find?, Text.Utf8.drop?]

theorem covers_ofCut_iff {text : String} {c : Cut} (h : cut? text.toList = some c) :
    (ofCut 0 c).span.covers text = true ↔ c.before = [] ∧ c.after = [] := by
  have hSize := congrArg Text.Utf8.size (eq_of_cut? h)
  have hDollar : '$'.utf8Size = 1 := rfl
  have hOpen : '{'.utf8Size = 1 := rfl
  have hClose : '}'.utf8Size = 1 := rfl
  simp only [Text.Utf8.size_append, Text.Utf8.size_cons, hDollar, hOpen, hClose] at hSize
  simp only [Span.covers, ofCut, Bool.and_eq_true, beq_iff_eq, ← Text.Utf8.size_eq_zero_iff]
  omega

end Placeholder

namespace Template

/-- The text of a template that stands in no placeholder. -/
def outside : Template → List Char
  | .text s => s
  | .placeholder before _ rest => before ++ rest.outside

end Template

namespace Resolver

/-- What is found for the outermost placeholders of a template, in their order. -/
def answers (r : Resolver) : Template → Memory → List (Option Value)
  | .text _, _ => []
  | .placeholder _ key rest, m =>
    let (key, m) := r.fill key m
    let (answer, m) := r.lookup (String.ofList key) m
    answer :: answers r rest m

theorem answers_placeholder (r : Resolver) (before : List Char) (key rest : Template) (m : Memory) :
    r.answers (.placeholder before key rest) m =
      (r.lookup (String.ofList (r.fill key m).1) (r.fill key m).2).1 ::
        r.answers rest (r.lookup (String.ofList (r.fill key m).1) (r.fill key m).2).2 := rfl

/-- A placeholder of which nothing is left. -/
def Vanishes (answer : Option Value) : Prop :=
  ∃ value, answer = some value ∧ value.chars = []

theorem replacement_eq_nil_iff {key : List Char} {answer : Option Value} :
    replacement key answer = [] ↔ Vanishes answer := by
  cases answer <;> simp [replacement, Vanishes]

theorem cons_eq_append_vanishing_iff {first last : Option Value} {rest : List (Option Value)} :
    (∃ earlier, first :: rest = earlier ++ [last] ∧ ∀ answer ∈ earlier, Vanishes answer) ↔
      (rest = [] ∧ first = last) ∨ (Vanishes first ∧
        ∃ earlier, rest = earlier ++ [last] ∧ ∀ answer ∈ earlier, Vanishes answer) := by
  constructor
  · rintro ⟨earlier, hRow, hEarlier⟩
    cases earlier with
    | nil =>
      obtain ⟨rfl, rfl⟩ := List.cons.inj hRow
      exact .inl ⟨rfl, rfl⟩
    | cons answer earlier =>
      obtain ⟨rfl, rfl⟩ := List.cons.inj hRow
      obtain ⟨hFirst, hEarlier⟩ := List.forall_mem_cons.1 hEarlier
      exact .inr ⟨hFirst, earlier, rfl, hEarlier⟩
  · rintro (⟨rfl, rfl⟩ | ⟨hFirst, earlier, rfl, hEarlier⟩)
    · exact ⟨[], rfl, by simp⟩
    · exact ⟨first :: earlier, rfl, List.forall_mem_cons.2 ⟨hFirst, hEarlier⟩⟩

/-- A value stands for a whole template if there are only placeholders, the value is that of the
    last one, and all others vanish. -/
theorem native?_eq_some_iff {r : Resolver} {t : Template} {m : Memory} {value : Value} :
    r.native? t m = some value ↔
      t.outside = [] ∧ ∃ earlier, r.answers t m = earlier ++ [some value] ∧
        ∀ answer ∈ earlier, Vanishes answer := by
  induction t generalizing m with
  | text s => simp [answers]
  | placeholder before keyTemplate rest _ ih =>
    rcases hKey : r.fill keyTemplate m with ⟨key, keyMemory⟩
    rcases hLookup : r.lookup (String.ofList key) keyMemory with ⟨answer, memory⟩
    rw [native?_placeholder hKey hLookup, answers_placeholder, hKey, hLookup,
      cons_eq_append_vanishing_iff, Template.outside, List.append_eq_nil_iff]
    by_cases hBefore : before = []
    · cases rest with
      | text s =>
        -- text behind the last placeholder keeps every value from standing for the whole
        by_cases hAfter : s = [] <;> simp [hBefore, hAfter, Template.outside, answers]
      | placeholder between nextKey next =>
        have hMore : r.answers (.placeholder between nextKey next) memory ≠ [] := by
          simp [answers]
        by_cases hVanishes : Vanishes answer
        · have hNothing : replacement key answer = [] := replacement_eq_nil_iff.2 hVanishes
          simp [hBefore, hMore, hVanishes, hNothing, ih]
        · have hSomething : replacement key answer ≠ [] := hVanishes ∘ replacement_eq_nil_iff.1
          simp [hBefore, hMore, hVanishes, hSomething]
    · simp [hBefore]

/-! ## Results that are no text -/

theorem resolve_fst (r : Resolver) (text : String) (h : History) :
    (r.resolve text h).1 =
      (r.native? (.ofChars text.toList) { history := h }).getD
        (.text (String.ofList (r.fill (.ofChars text.toList) { history := h }).1)) := by
  simp [resolve, resolveFrom_eq]

theorem native?_of_not_isText {r : Resolver} {text : String} {h : History}
    (hResult : (r.resolve text h).1.isText = false) :
    r.native? (.ofChars text.toList) { history := h } = some (r.resolve text h).1 := by
  rw [resolve_fst] at hResult ⊢
  cases hNative : r.native? (.ofChars text.toList) { history := h } with
  | none =>
    rw [hNative] at hResult
    cases hResult
  | some value => rfl

/-- The intended rule: a result that is no text is the value looked up for the resolved key of a
    placeholder that is the whole text. -/
def NativeOnlyIfWhole (r : Resolver) (text : String) (h : History) : Prop :=
  (r.resolve text h).1.isText = false →
    ∃ p, Placeholder.find? text 0 = some p ∧ p.span.covers text = true ∧
      let (key, m) := r.fill (.ofChars p.key.toList) { history := h }
      (r.lookup (String.ofList key) m).1 = some (r.resolve text h).1

theorem whole_of_answers_singleton {r : Resolver} {s : List Char} {m : Memory}
    {answer : Option Value} (hOutside : (Template.ofChars s).outside = [])
    (hAnswers : r.answers (.ofChars s) m = [answer]) :
    ∃ key, Placeholder.cut? s = some ⟨[], key, []⟩ := by
  cases hCut : Placeholder.cut? s with
  | none =>
    rw [Template.ofChars_of_cut?_eq_none hCut] at hAnswers
    cases hAnswers
  | some c =>
    rw [Template.ofChars_of_cut?_eq_some hCut] at hOutside hAnswers
    rw [answers_placeholder] at hAnswers
    obtain ⟨hBefore, hRest⟩ := List.append_eq_nil_iff.1 hOutside
    have hNoMore := (List.cons.inj hAnswers).2
    cases hAfter : Template.ofChars c.after with
    | text s =>
      obtain rfl : s = [] := by simpa [hAfter, Template.outside] using hRest
      rw [Template.ofChars_eq_text_nil_iff] at hAfter
      obtain ⟨before, inside, after⟩ := c
      obtain rfl : before = [] := hBefore
      obtain rfl : after = [] := hAfter
      exact ⟨inside, rfl⟩
    | placeholder between key next =>
      rw [hAfter] at hNoMore
      cases hNoMore

/-- The rule fails just for a row of several placeholders with nothing around them, of which the
    last has a value that is no text and all others vanish. -/
theorem nativeOnlyIfWhole_iff (r : Resolver) (text : String) (h : History) :
    r.NativeOnlyIfWhole text h ↔
      ¬ ∃ earlier value, earlier ≠ [] ∧ value.isText = false ∧
        (Template.ofChars text.toList).outside = [] ∧
        r.answers (.ofChars text.toList) { history := h } = earlier ++ [some value] ∧
        ∀ answer ∈ earlier, Vanishes answer := by
  constructor
  · rintro hRule ⟨earlier, value, hEarlier, hValue, hOutside, hAnswers, hVanish⟩
    have hNative := native?_eq_some_iff.2 ⟨hOutside, earlier, hAnswers, hVanish⟩
    have hResult : (r.resolve text h).1 = value := by rw [resolve_fst, hNative, Option.getD_some]
    obtain ⟨p, hFind, hCovers, _⟩ := hRule (by rw [hResult, hValue])
    rw [Placeholder.find?_zero] at hFind
    obtain ⟨c, hCut, rfl⟩ := Option.map_eq_some_iff.1 hFind
    obtain ⟨_, hAfter⟩ := (Placeholder.covers_ofCut_iff hCut).1 hCovers
    -- a placeholder that covers the text has one answer, and the row has more
    rw [Template.ofChars_of_cut?_eq_some hCut, answers_placeholder, hAfter,
      Template.ofChars_nil] at hAnswers
    have hLength := congrArg List.length hAnswers
    simp only [answers, List.length_cons, List.length_nil, List.length_append] at hLength
    exact hEarlier (List.length_eq_zero_iff.1 (by omega))
  · intro hRow hResult
    obtain ⟨hOutside, earlier, hAnswers, hVanish⟩ :=
      native?_eq_some_iff.1 (native?_of_not_isText hResult)
    cases earlier with
    | nil =>
      obtain ⟨key, hCut⟩ := whole_of_answers_singleton hOutside hAnswers
      refine ⟨Placeholder.ofCut 0 ⟨[], key, []⟩, ?_, ?_, ?_⟩
      · rw [Placeholder.find?_zero, hCut, Option.map_some]
      · exact (Placeholder.covers_ofCut_iff hCut).2 ⟨rfl, rfl⟩
      · rw [Template.ofChars_of_cut?_eq_some hCut, answers_placeholder] at hAnswers
        simpa [Placeholder.ofCut] using (List.cons.inj hAnswers).1
    | cons first others =>
      exact absurd ⟨_, _, List.cons_ne_nil first others, hResult, hOutside, hAnswers, hVanish⟩ hRow

def emptyAndNumber : Resolver where
  find? key := if key = "e" then some (.text "") else
    if key = "n" then some (.integer 42) else none

/-- Behind a placeholder that vanishes, another one is taken for the whole text. -/
theorem not_nativeOnlyIfWhole : ¬ emptyAndNumber.NativeOnlyIfWhole "${e}${n}" [] := by
  intro hRule
  obtain ⟨p, hFind, hCovers, _⟩ := hRule (by decide +kernel)
  have hFirst : Placeholder.find? "${e}${n}" 0 = some ⟨⟨0, 4⟩, "e"⟩ := by decide +kernel
  rw [hFirst] at hFind
  obtain rfl := Option.some.inj hFind
  exact absurd hCovers (by decide +kernel)

end Resolver

end StepArguments
