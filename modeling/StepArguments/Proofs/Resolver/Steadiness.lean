import StepArguments.Proofs.Resolver.Meaning
import StepArguments.Proofs.Resolver.NativeValue

/-! # Resolving again

Resolving a text asks the providers and so makes the history longer, and the answer of a provider
may depend on how long it is.  Under steady providers it does not.  The result is then read off the
template of the text and what is found under each key, the type of a value that stands alone included
(`resolve_eq_result`), and a text resolves to the same value at every later point of the run
(`resolve_of_steady`).
-/

namespace StepArguments

theorem Dynamic.Steady.later {d : Dynamic} {h later : History} (steady : d.Steady h)
    (since : h <:+ later) : d.Steady later := by
  intro name provider hGet earlier hEarlier
  have hLater := History.timesAsked_le_of_suffix since name
  rw [steady name provider hGet earlier (Nat.le_trans hLater hEarlier),
    steady name provider hGet _ hLater]

/-- Providers that always give the same value are steady from the start. -/
theorem Dynamic.steady_of_constant {d : Dynamic}
    (constant : ∀ entry ∈ d.registry, ∃ value, entry.2 = .constant value) (h : History) :
    d.Steady h := by
  intro name provider hGet earlier _
  obtain ⟨value, rfl⟩ := constant _ (Named.mem_of_get? hGet)
  rfl

namespace Template

/-- The value that stands for a whole template, given the values of the keys: that of its last
    placeholder, if the template ends with it and all that is in front of it vanishes. -/
def native? (answer : String → Option Value) : Template → Option Value
  | .text _ => none
  | .placeholder before key rest =>
    let key := meaning answer key
    if before ≠ [] then none
    else if rest = .text [] then answer (String.ofList key)
    else if Resolver.replacement key (answer (String.ofList key)) = [] then native? answer rest
    else none

/-- The value that stands for a whole template, or else its text. -/
def result (answer : String → Option Value) (t : Template) : Value :=
  (t.native? answer).getD (.text (String.ofList (t.meaning answer)))

end Template

namespace Resolver

variable {r : Resolver} {h later : History}

theorem native?_of_faithful (steady : r.dynamic.Steady h) (t : Template) {m : Memory}
    (faithful : m.Faithful r.dynamic h) : r.native? t m = t.native? (r.answerAt h) := by
  induction t generalizing m with
  | text s => rfl
  | placeholder before keyTemplate rest _ ihRest =>
    obtain ⟨hKey, faithfulKey, -⟩ := fill_eq_meaning steady keyTemplate faithful
    rcases hFill : r.fill keyTemplate m with ⟨key, keyMemory⟩
    rw [hFill] at hKey faithfulKey
    obtain ⟨hAnswer, faithfulLookup⟩ := lookup_of_faithful steady faithfulKey (String.ofList key)
    rcases hLookup : r.lookup (String.ofList key) keyMemory with ⟨answer, memory⟩
    rw [hLookup] at hAnswer faithfulLookup
    subst hKey hAnswer
    rw [native?_placeholder hFill hLookup, ihRest faithfulLookup]
    rfl

theorem resolve_eq_result (steady : r.dynamic.Steady h) (since : h <:+ later) (text : String) :
    (r.resolve text later).1 = (Template.ofChars text.toList).result (r.answerAt h) := by
  have faithful : Memory.Faithful r.dynamic h { history := later } :=
    ⟨(Memory.faithful_initial r.dynamic h).known, since⟩
  obtain ⟨hText, -⟩ := fill_eq_meaning steady (.ofChars text.toList) faithful
  rw [resolve_fst, native?_of_faithful steady _ faithful, hText, Template.result]

theorem resolve_of_steady (steady : r.dynamic.Steady h) (since : h <:+ later) (text : String) :
    (r.resolve text later).1 = (r.resolve text h).1 := by
  rw [resolve_eq_result steady since, resolve_eq_result steady (List.suffix_refl h)]

theorem suffix_of_resolve (steady : r.dynamic.Steady h) (text : String) :
    h <:+ (r.resolve text h).2 := by
  obtain ⟨-, -, events, hEvents, -⟩ :=
    fill_eq_meaning steady (.ofChars text.toList) (Memory.faithful_initial r.dynamic h)
  simp only [resolve, resolveFrom_eq]
  exact ⟨events, hEvents.symm⟩

end Resolver

end StepArguments
