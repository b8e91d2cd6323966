import Mathlib.Logic.Function.Basic
import Mathlib.Tactic.SplitIfs
import StepArguments.Text.Html

/-! # Escaped HTML text

Escaping takes the meaning in HTML away from a text and keeps the text.  The four characters that have
a meaning are gone, but for the ampersand, and an ampersand only stands where an entity starts
(`isEscaped_escape`).  Entities that the text held before are escaped as well, so that reading the
entities from left to right gives back the text and no two texts are escaped alike
(`escape_injective`).
-/

namespace StepArguments.Text.Html

/-- The entities that `escape` writes. -/
def entities : List (List Char) :=
  ["&amp;".toList, "&lt;".toList, "&gt;".toList, "&quot;".toList]

/-- A text in which nothing has a meaning in HTML but the entities. -/
structure IsEscaped (s : List Char) : Prop where
  noLess : '<' ∉ s
  noGreater : '>' ∉ s
  noQuote : '"' ∉ s
  entity : ∀ after, '&' :: after <:+ s → ∃ entity ∈ entities, entity <+: '&' :: after

variable {c : Char} {s t after : List Char}

theorem escapeChar_cases (c : Char) :
    escapeChar c ∈ entities ∨ escapeChar c = [c] ∧ c ≠ '&' ∧ c ≠ '<' ∧ c ≠ '>' ∧ c ≠ '"' := by
  rw [escapeChar]
  split_ifs with hAmpersand hLess hGreater hQuote
  iterate 4 exact .inl (by simp [entities])
  exact .inr ⟨rfl, hAmpersand, hLess, hGreater, hQuote⟩

/-- An entity is an ampersand and a name without any of the four characters. -/
theorem exists_name_of_mem_entities (hEntity : s ∈ entities) :
    ∃ name, s = '&' :: name ∧ '&' ∉ name ∧ '<' ∉ name ∧ '>' ∉ name ∧ '"' ∉ name := by
  simp only [entities, List.mem_cons, List.not_mem_nil, or_false] at hEntity
  rcases hEntity with rfl | rfl | rfl | rfl
  all_goals exact ⟨_, rfl, by decide +kernel⟩

theorem suffix_append_of_not_mem (hName : c ∉ s) (hSuffix : c :: after <:+ s ++ t) :
    c :: after <:+ t := by
  induction s with
  | nil => exact hSuffix
  | cons d s ih =>
    rw [List.mem_cons, not_or] at hName
    rw [List.cons_append, List.suffix_cons_iff] at hSuffix
    cases hSuffix with
    | inl hHere => exact absurd (List.cons.inj hHere).1 hName.1
    | inr hLater => exact ih hName.2 hLater

theorem IsEscaped.entity_append (isEscaped : IsEscaped t) (hEntity : s ∈ entities) :
    IsEscaped (s ++ t) := by
  obtain ⟨name, rfl, hAmpersand, hLess, hGreater, hQuote⟩ := exists_name_of_mem_entities hEntity
  refine ⟨by simp [hLess, isEscaped.noLess], by simp [hGreater, isEscaped.noGreater],
    by simp [hQuote, isEscaped.noQuote], fun after hSuffix => ?_⟩
  rw [List.cons_append, List.suffix_cons_iff] at hSuffix
  cases hSuffix with
  | inl hHere => exact ⟨_, hEntity, hHere ▸ List.prefix_append _ t⟩
  | inr hLater => exact isEscaped.entity after (suffix_append_of_not_mem hAmpersand hLater)

theorem IsEscaped.escapeChar_append (isEscaped : IsEscaped s) (c : Char) :
    IsEscaped (escapeChar c ++ s) := by
  cases escapeChar_cases c with
  | inl hEntity => exact isEscaped.entity_append hEntity
  | inr hItself =>
    obtain ⟨hEscape, hAmpersand, hLess, hGreater, hQuote⟩ := hItself
    have hOther : '&' ∉ [c] := by simpa using hAmpersand.symm
    rw [hEscape]
    exact ⟨by simp [hLess.symm, isEscaped.noLess], by simp [hGreater.symm, isEscaped.noGreater],
      by simp [hQuote.symm, isEscaped.noQuote],
      fun after hSuffix => isEscaped.entity after (suffix_append_of_not_mem hOther hSuffix)⟩

theorem isEscaped_escape (s : List Char) : IsEscaped (escape s) := by
  induction s with
  | nil => exact ⟨by simp [escape], by simp [escape], by simp [escape], by simp [escape]⟩
  | cons c s ih =>
    rw [escape, List.flatMap_cons]
    exact ih.escapeChar_append c

theorem escape_injective : Function.Injective escape :=
  Function.LeftInverse.injective unescape_escape

/-! ## Whole texts -/

/-- The HTML text that shows a text. -/
def escapedText (text : String) : String :=
  String.ofList (escape text.toList)

theorem escapedText_append (text other : String) :
    escapedText (text ++ other) = escapedText text ++ escapedText other := by
  simp [escapedText, escape_append]

theorem escapedText_injective : Function.Injective escapedText := fun _ _ hSame =>
  String.toList_injective (escape_injective (String.ofList_injective hSame))

end StepArguments.Text.Html
