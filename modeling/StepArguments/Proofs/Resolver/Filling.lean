import StepArguments.Proofs.Markup.Template
import StepArguments.Resolver

/-! # Filling a template

The scanner edits a text while it walks over it: what is done lies behind a cursor, a key is
spliced in before it is looked up, and a value may end the walk at once.  Here the same work is
described on the template of the text as it was handed in:

* `Resolver.fill` replaces every placeholder where it stands, keys first, and keeps the memory of
  the dynamic variables on the way;
* `Resolver.native?` says when a walk ends with a value instead of a text: when all that is left
  of the text is the last placeholder;
* `resolveFrom_eq` is the invariant of the walk.  The text that is done only ever stands in front
  of the result, and what is still to come is always the template of the untouched rest.
-/

namespace StepArguments

namespace Resolver

/-! ## Filling -/

/-- What takes the place of a placeholder: the text of its value, or else the placeholder with its
    key resolved. -/
def replacement (key : List Char) : Option Value → List Char
  | some value => value.chars
  | none => '$' :: '{' :: key ++ ['}']

/-- The text of a template with its placeholders replaced, from left to right and keys first. -/
def fill (r : Resolver) : Template → Memory → List Char × Memory
  | .text s, m => (s, m)
  | .placeholder before key rest, m =>
    let (key, m) := fill r key m
    let (answer, m) := r.lookup (String.ofList key) m
    let (after, m) := fill r rest m
    (before ++ replacement key answer ++ after, m)

/-- The value that stands for a whole template: that of its last placeholder, if the template ends
    with it and nothing is in front of it but placeholders that were replaced by empty text. -/
def native? (r : Resolver) : Template → Memory → Option Value
  | .text _, _ => none
  | .placeholder before key rest, m =>
    let (key, m) := r.fill key m
    let (answer, m) := r.lookup (String.ofList key) m
    if before ≠ [] then none
    else if rest = .text [] then answer
    else if replacement key answer = [] then native? r rest m
    else none

@[simp] theorem fill_text (r : Resolver) (s : List Char) (m : Memory) :
    r.fill (.text s) m = (s, m) := rfl

@[simp] theorem native?_text (r : Resolver) (s : List Char) (m : Memory) :
    r.native? (.text s) m = none := rfl

variable {r : Resolver} {before key : List Char} {keyTemplate rest : Template}
  {m keyMemory memory : Memory} {answer : Option Value}

theorem fill_placeholder (hKey : r.fill keyTemplate m = (key, keyMemory))
    (hLookup : r.lookup (String.ofList key) keyMemory = (answer, memory)) :
    r.fill (.placeholder before keyTemplate rest) m =
      (before ++ replacement key answer ++ (r.fill rest memory).1, (r.fill rest memory).2) := by
  simp only [fill, hKey, hLookup]

theorem native?_placeholder (hKey : r.fill keyTemplate m = (key, keyMemory))
    (hLookup : r.lookup (String.ofList key) keyMemory = (answer, memory)) :
    r.native? (.placeholder before keyTemplate rest) m =
      if before ≠ [] then none
      else if rest = .text [] then answer
      else if replacement key answer = [] then r.native? rest memory
      else none := by
  simp only [native?, hKey, hLookup]

theorem chars_of_native? {t : Template} {value : Value} (h : r.native? t m = some value) :
    value.chars = (r.fill t m).1 := by
  induction t generalizing m with
  | text s => cases h
  | placeholder before keyTemplate rest _ ih =>
    rcases hKey : r.fill keyTemplate m with ⟨key, keyMemory⟩
    rcases hLookup : r.lookup (String.ofList key) keyMemory with ⟨answer, memory⟩
    rw [native?_placeholder hKey hLookup] at h
    rw [fill_placeholder hKey hLookup]
    split at h
    · cases h
    · rename_i hBefore
      obtain rfl : before = [] := by simpa using hBefore
      split at h
      · rename_i hRest
        subst hRest h
        simp [replacement]
      · split at h
        · rename_i hEmpty
          simpa [hEmpty] using ih h
        · cases h

/-- The result of a walk, be it the value that stands for the whole or a text, has the text that
    filling the template gives. -/
theorem chars_getD_native? (r : Resolver) (t : Template) (m : Memory) :
    ((r.native? t m).getD (.text (String.ofList (r.fill t m).1))).chars = (r.fill t m).1 := by
  cases h : r.native? t m with
  | none => simp [Value.chars]
  | some value => exact chars_of_native? h

/-! ## The walk over a text -/

theorem resolveFrom_of_cut?_eq_none {done s : List Char} (hCut : Placeholder.cut? s = none) :
    r.resolveFrom done s m = (.text (String.ofList (done.reverse ++ s)), m) := by
  rw [resolveFrom]
  split
  · rfl
  · rename_i p hp
    rw [hCut] at hp
    cases hp

theorem resolveFrom_of_cut?_eq_some {done s : List Char} {p : Cut}
    (hCut : Placeholder.cut? s = some p)
    (hKey : (if Placeholder.opens p.inside then
        let (value, m) := r.resolveFrom [] p.inside m
        (value.chars, m)
      else (p.inside, m)) = (key, keyMemory))
    (hLookup : r.lookup (String.ofList key) keyMemory = (answer, memory)) :
    r.resolveFrom done s m =
      (if done = [] ∧ p.before = [] ∧ p.after = [] then answer.map (·, memory) else none).getD
        (r.resolveFrom ((p.before ++ replacement key answer).reverse ++ done) p.after memory) := by
  rw [resolveFrom]
  split
  · rename_i hNone
    rw [hCut] at hNone
    cases hNone
  · rename_i q hq
    obtain rfl : p = q := Option.some.inj (hCut.symm.trans hq)
    rw [hKey]
    simp only [hLookup]
    cases answer with
    | none => simp [replacement]
    | some value =>
      by_cases hWhole : done = [] ∧ p.before = [] ∧ p.after = [] <;>
        simp [hWhole, replacement, and_assoc]

theorem spliced_key_eq {s : List Char}
    (ih : r.resolveFrom [] s m =
      ((r.native? (.ofChars s) m).getD (.text (String.ofList (r.fill (.ofChars s) m).1)),
        (r.fill (.ofChars s) m).2)) :
    (if Placeholder.opens s then
        let (value, m) := r.resolveFrom [] s m
        (value.chars, m)
      else (s, m)) = r.fill (.ofChars s) m := by
  split
  · simp only [ih, chars_getD_native?]
  · rename_i hOpens
    rw [Template.ofChars_of_not_opens (by simpa using hOpens), fill_text]

/-- The invariant of the walk: what is done stands in front of the filled template of the rest, and
    a value ends the walk only while nothing is done. -/
theorem resolveFrom_eq (r : Resolver) (done s : List Char) (m : Memory) :
    r.resolveFrom done s m =
      ((if done = [] then r.native? (.ofChars s) m else none).getD
          (.text (String.ofList (done.reverse ++ (r.fill (.ofChars s) m).1))),
        (r.fill (.ofChars s) m).2) := by
  induction s using Template.ofChars.induct generalizing done m with
  | case1 s hCut =>
    rw [resolveFrom_of_cut?_eq_none hCut]
    simp [Template.ofChars_of_cut?_eq_none hCut]
  | case2 s p hCut ihKey ihRest =>
    have hSplice := spliced_key_eq (by simpa using ihKey [] m)
    rcases hKey : r.fill (.ofChars p.inside) m with ⟨key, keyMemory⟩
    rcases hLookup : r.lookup (String.ofList key) keyMemory with ⟨answer, memory⟩
    rw [resolveFrom_of_cut?_eq_some hCut (hSplice.trans hKey) hLookup,
      Template.ofChars_of_cut?_eq_some hCut, fill_placeholder hKey hLookup,
      native?_placeholder hKey hLookup, ihRest]
    -- a value still stands for the rest if nothing was done before and nothing is done now
    by_cases hDone : done = []
    · by_cases hBefore : p.before = []
      · by_cases hAfter : p.after = []
        · cases answer <;> simp [hDone, hBefore, hAfter, replacement]
        · simp [hDone, hBefore, hAfter, Template.ofChars_eq_text_nil_iff]
      · simp [hDone, hBefore]
    · simp [hDone]

end Resolver

end StepArguments
