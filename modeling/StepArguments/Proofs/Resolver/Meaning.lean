import StepArguments.Proofs.Resolver.Filling
import StepArguments.Proofs.Resolver.Recall

/-! # The meaning of a text with placeholders

`Template.meaning` says what a text stands for, given the value of every key: its own text between
the placeholders, and in place of a placeholder the text of its value, or the placeholder itself
with the meaning of its key.  `Template.asked` lists the keys on the way.  Neither knows of a scan,
a cursor or a memory.

Two steps lead from resolving to the meaning.  `resolveFrom_eq` turns the walk over the text into
the filling of its template, and `fill_eq_meaning` turns the filling into the meaning, as long as
the providers are steady.
-/

namespace StepArguments

namespace Template

/-- The text that a template stands for, given the values of the keys. -/
def meaning (answer : String → Option Value) : Template → List Char
  | .text s => s
  | .placeholder before key rest =>
    let key := meaning answer key
    before ++ Resolver.replacement key (answer (String.ofList key)) ++ meaning answer rest

/-- The keys of all placeholders of a template as they are looked up: from left to right, and those
    inside a key before the key itself. -/
def asked (answer : String → Option Value) : Template → List String
  | .text _ => []
  | .placeholder _ key rest =>
    asked answer key ++ String.ofList (meaning answer key) :: asked answer rest

/-- The meaning of a text is read off its first placeholder, whose key has a meaning of its own only
    if there is an opener in it. -/
theorem meaning_ofChars {s : List Char} {p : Cut} (answer : String → Option Value)
    (h : Placeholder.cut? s = some p) :
    (ofChars s).meaning answer =
      let key := if Placeholder.opens p.inside then (ofChars p.inside).meaning answer else p.inside
      p.before ++ Resolver.replacement key (answer (String.ofList key)) ++
        (ofChars p.after).meaning answer := by
  rw [ofChars_of_cut?_eq_some h, meaning]
  split
  · rfl
  · rename_i hOpens
    rw [ofChars_of_not_opens (by simpa using hOpens), meaning]

/-- Only the values of the keys that are asked for matter. -/
theorem meaning_congr {answer answer' : String → Option Value} {t : Template}
    (agree : ∀ key ∈ t.asked answer, answer key = answer' key) :
    t.meaning answer = t.meaning answer' ∧ t.asked answer = t.asked answer' := by
  induction t with
  | text s => exact ⟨rfl, rfl⟩
  | placeholder before key rest ihKey ihRest =>
    rw [asked, List.forall_mem_append, List.forall_mem_cons] at agree
    obtain ⟨agreeKey, hAnswer, agreeRest⟩ := agree
    obtain ⟨hKey, hAskedKey⟩ := ihKey agreeKey
    obtain ⟨hRest, hAskedRest⟩ := ihRest agreeRest
    simp only [meaning, asked, hAnswer, hRest, hAskedRest, ← hKey, ← hAskedKey, and_self]

end Template

namespace Resolver

theorem fill_eq_meaning {r : Resolver} {h : History} (steady : r.dynamic.Steady h) (t : Template)
    {m : Memory} (faithful : m.Faithful r.dynamic h) :
    (r.fill t m).1 = t.meaning (r.answerAt h) ∧ (r.fill t m).2.Faithful r.dynamic h ∧
      r.Asks (t.asked (r.answerAt h)) m.history (r.fill t m).2.history := by
  induction t generalizing m with
  | text s => exact ⟨rfl, faithful, .refl r m.history⟩
  | placeholder before keyTemplate rest ihKey ihRest =>
    obtain ⟨hKey, faithfulKey, asksKey⟩ := ihKey faithful
    rcases hFill : r.fill keyTemplate m with ⟨key, keyMemory⟩
    rw [hFill] at hKey faithfulKey asksKey
    obtain ⟨hAnswer, faithfulLookup⟩ := lookup_of_faithful steady faithfulKey (String.ofList key)
    have asksLookup := r.lookup_asks (String.ofList key) keyMemory
    rcases hLookup : r.lookup (String.ofList key) keyMemory with ⟨answer, memory⟩
    rw [hLookup] at hAnswer faithfulLookup asksLookup
    obtain ⟨hRest, faithfulRest, asksRest⟩ := ihRest faithfulLookup
    rw [fill_placeholder hFill hLookup]
    subst hKey hAnswer
    refine ⟨?_, faithfulRest, ?_⟩
    · rw [Template.meaning, hRest]
    · rw [Template.asked, ← List.singleton_append]
      exact asksKey.trans (asksLookup.trans asksRest)

/-- Resolving gives the meaning of the text as it was handed in.  Each placeholder of that text,
    nested or not, is looked up once, from left to right and the inner ones first; only a key that
    the store does not have reaches the dynamic variables. -/
theorem resolve_eq_meaning (r : Resolver) (text : String) (h : History)
    (steady : r.dynamic.Steady h) :
    (r.resolve text h).1.display =
        String.ofList ((Template.ofChars text.toList).meaning (r.answerAt h)) ∧
      r.Asks ((Template.ofChars text.toList).asked (r.answerAt h)) h (r.resolve text h).2 := by
  obtain ⟨hMeaning, _, hAsks⟩ :=
    fill_eq_meaning steady (.ofChars text.toList) (Memory.faithful_initial r.dynamic h)
  simp only [resolve, resolveFrom_eq, if_pos, List.reverse_nil, List.nil_append]
  refine ⟨?_, hAsks⟩
  rw [Value.display, chars_getD_native?, hMeaning]

/-- A store that has the start of a name and a text with an opener in it, and one dynamic variable
    that is reached by a name put together from the store. -/
def greeting : Resolver where
  find? key := if key = "start" then some (.text "user") else
    if key = "open" then some (.text "${start}") else none
  dynamic := { registry := [("user-name", .constant (.text "Ann"))] }

theorem resolve_eq_meaning_greeting :
    greeting.dynamic.Steady [] ∧
      (greeting.resolve "${open}, ${${start}Name} ${no${open}}" []).1.display =
        "${start}, Ann ${no${start}}" ∧
      greeting.Asks ["open", "start", "userName", "open", "no${start}"] []
        (greeting.resolve "${open}, ${${start}Name} ${no${open}}" []).2 := by
  have steady : greeting.dynamic.Steady [] := by
    intro name provider hGet earlier _
    rw [greeting, Named.get?_cons] at hGet
    split at hGet
    · obtain rfl := Option.some.inj hGet
      rfl
    · cases hGet
  obtain ⟨hMeaning, hAsks⟩ :=
    resolve_eq_meaning greeting "${open}, ${${start}Name} ${no${open}}" [] steady
  refine ⟨steady, hMeaning.trans (by decide +kernel), ?_⟩
  have hKeys : (Template.ofChars "${open}, ${${start}Name} ${no${open}}".toList).asked
      (greeting.answerAt []) = ["open", "start", "userName", "open", "no${start}"] := by
    decide +kernel
  rwa [hKeys] at hAsks

end Resolver

end StepArguments
