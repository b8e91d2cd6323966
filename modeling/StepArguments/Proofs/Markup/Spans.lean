import Mathlib.Data.List.Forall2
import StepArguments.Markup.Span

/-! # Parts of a text by their bytes

What a span of a text holds.  `Span.Holds` says it with the text before the part and behind it, so
that a span which holds something can be taken out of the text (`Span.Holds.inBounds`).
`Span.tiling` fills the gaps between the spans of a list.
-/

namespace StepArguments

open Text.Utf8 (size)

/-- A byte offset at which a text can be divided, since no character has bytes on both sides. -/
def Text.Utf8.IsBoundary (offset : Nat) (s : List Char) : Prop :=
  ∃ before after, s = before ++ after ∧ size before = offset

namespace Span

/-- The span holds a part of a text. -/
def Holds (span : Span) (s part : List Char) : Prop :=
  ∃ before after, s = before ++ part ++ after ∧ span.first = size before ∧
    span.last = size before + size part

/-- A span that can be taken out of a text. -/
structure InBounds (span : Span) (s : List Char) : Prop where
  ordered : span.first ≤ span.last
  last_le : span.last ≤ size s
  first_boundary : Text.Utf8.IsBoundary span.first s
  last_boundary : Text.Utf8.IsBoundary span.last s

variable {span : Span} {s part part' : List Char}

theorem Holds.last_eq (holds : span.Holds s part) : span.last = span.first + size part := by
  obtain ⟨before, after, -, hFirst, hLast⟩ := holds
  rw [hLast, hFirst]

theorem Holds.inBounds (holds : span.Holds s part) : span.InBounds s := by
  obtain ⟨before, after, hText, hFirst, hLast⟩ := holds
  refine ⟨by omega, ?_, ⟨before, part ++ after, ?_, hFirst.symm⟩,
    ⟨before ++ part, after, hText, ?_⟩⟩
  · rw [hText, Text.Utf8.size_append, Text.Utf8.size_append, hLast]
    omega
  · rw [hText, List.append_assoc]
  · rw [Text.Utf8.size_append, hLast]

/-! ## Gaps -/

/-- The spans of a list and the gaps around them, from one byte offset to another. -/
def tiling (last : Nat) : (first : Nat) → List Span → List Span
  | first, [] => [⟨first, last⟩]
  | first, span :: spans => ⟨first, span.first⟩ :: span :: tiling last span.last spans

end Span

end StepArguments
