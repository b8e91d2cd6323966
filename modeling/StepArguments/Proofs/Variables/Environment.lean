import StepArguments.Proofs.Text.Utf8
import StepArguments.Variables.Environment

/-! # What the process environment gives

A variable of the process answers under a name that it can have at all, and only if its bytes are
those of a text.  `Environment.Binds` says so in terms of the entries, without any reading of bytes:
the first entry of the name holds what the text is written as.  Looking a name up gives just these
texts (`get?_eq_some_iff`).
-/

namespace StepArguments.Environment

/-- In an environment a name stands for a text.  The name is not blank, has neither an equals sign
    nor a NUL in it, and its first entry holds the bytes of the text. -/
structure Binds (e : Environment) (name text : String) : Prop where
  visible : ∃ c ∈ name.toList, Text.isBlank c = false
  equals : '=' ∉ name.toList
  nul : '\x00' ∉ name.toList
  entry : ∃ before after, e.entries =
      before ++ (name, Text.Utf8.encode text.toList) :: after ∧
    ∀ other ∈ before, other.1 ≠ name

variable {e : Environment} {name text : String}

theorem allowsName_iff :
    allowsName name = true ↔
      (∃ c ∈ name.toList, Text.isBlank c = false) ∧ '=' ∉ name.toList ∧
        '\x00' ∉ name.toList := by
  simp only [allowsName, Text.isBlankText, Bool.and_eq_true, Bool.not_eq_true',
    List.all_eq_false, List.any_eq_false, Bool.or_eq_true, beq_iff_eq, Bool.not_eq_true]
  constructor
  · rintro ⟨hVisible, hOthers⟩
    exact ⟨hVisible, fun hMem => hOthers _ hMem (.inl rfl), fun hMem => hOthers _ hMem (.inr rfl)⟩
  · rintro ⟨hVisible, hEquals, hNul⟩
    refine ⟨hVisible, fun c hMem => ?_⟩
    rintro (rfl | rfl)
    · exact hEquals hMem
    · exact hNul hMem

theorem decodes_iff {bytes : List UInt8} :
    (Text.Utf8.decode? bytes).map String.ofList = some text ↔
      bytes = Text.Utf8.encode text.toList := by
  rw [Option.map_eq_some_iff]
  constructor
  · rintro ⟨s, hDecode, rfl⟩
    rw [Text.Utf8.decode?_eq_some_iff.1 hDecode, String.toList_ofList]
  · intro hBytes
    exact ⟨text.toList, Text.Utf8.decode?_eq_some_iff.2 hBytes, String.ofList_toList⟩

theorem lookup_entries_iff {entries : List (String × List UInt8)} {bytes : List UInt8} :
    entries.lookup name = some bytes ↔
      ∃ before after, entries = before ++ (name, bytes) :: after ∧
        ∀ other ∈ before, other.1 ≠ name := by
  simp only [List.lookup_eq_some_iff, bne_iff_ne, ne_comm]

/-- Looking a name up gives the text that it stands for. -/
theorem get?_eq_some_iff : e.get? name = some text ↔ e.Binds name text := by
  rw [get?, Option.ite_none_right_eq_some, allowsName_iff, Option.bind_eq_some_iff]
  simp only [decodes_iff, exists_eq_right, lookup_entries_iff]
  constructor
  · rintro ⟨⟨hVisible, hEquals, hNul⟩, hEntry⟩
    exact ⟨hVisible, hEquals, hNul, hEntry⟩
  · rintro ⟨hVisible, hEquals, hNul, hEntry⟩
    exact ⟨⟨hVisible, hEquals, hNul⟩, hEntry⟩

/-- Looking a name up gives nothing just if it stands for no text. -/
theorem get?_eq_none_iff : e.get? name = none ↔ ∀ text, ¬ e.Binds name text := by
  simp only [Option.eq_none_iff_forall_ne_some, ne_eq, get?_eq_some_iff]

end StepArguments.Environment
