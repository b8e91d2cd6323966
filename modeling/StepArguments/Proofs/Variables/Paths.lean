import Mathlib.Data.List.TakeWhile
import StepArguments.Proofs.Decimal.Digits
import StepArguments.Variables.Key

/-! # The first step of a path

What a path starts with is read off its text up to the first colon: the name of the root as far as a
bracket or a dot, then an index if a bracket follows, then what is left of the way.  `parse?_append`
says this of a text that is divided where the name ends, and `readIndex?_bracket` of what stands
there.  The text from the first colon on has no part in it (`parse?_append_default`).
-/

namespace StepArguments.Path

variable {path root behind digits rest default s : List Char}

/-! ## The index and the rest -/

theorem readIndex?_bracket (hDigits : ']' ∉ digits) :
    readIndex? ('[' :: digits ++ ']' :: rest) =
      (Decimal.readIndex? digits).map fun index => (some index, rest) := by
  simp only [List.cons_append, readIndex?, Text.cut?_append hDigits, Option.bind_eq_bind,
    Option.bind_some]
  cases Decimal.readIndex? digits <;> rfl

theorem readIndex?_of_no_bracket (hBracket : s.head? ≠ some '[') :
    readIndex? s = some (none, s) := by
  unfold readIndex?
  split
  · exact absurd rfl hBracket
  · rfl

theorem readRest_of_no_dot (hDot : s.head? ≠ some '.') : readRest s = none := by
  unfold readRest
  split
  · exact absurd rfl hDot
  · rfl

theorem readRest_dot (hs : s ≠ []) : readRest ('.' :: s) = some s := by
  cases s with
  | nil => exact absurd rfl hs
  | cons c s => rfl

/-! ## The whole step -/

theorem takeWhile_colon (hPath : ':' ∉ path) : path.takeWhile (· != ':') = path := by
  rw [List.takeWhile_eq_self_iff]
  intro c hc
  simpa using ne_of_mem_of_not_mem hc hPath

theorem parse?_takeWhile (path : List Char) : parse? (path.takeWhile (· != ':')) = parse? path := by
  simp only [parse?, List.takeWhile_idem]

/-- A default behind a path does not count. -/
theorem parse?_append_default (hPath : ':' ∉ path) :
    parse? (path ++ ':' :: default) = parse? path := by
  have hWhole := List.takeWhile_eq_self_iff.1 (takeWhile_colon hPath)
  rw [← parse?_takeWhile, List.takeWhile_append_of_pos hWhole]
  simp

theorem parse?_append (hColon : ':' ∉ root ++ behind) (hRoot : ∀ c ∈ root, c ≠ '[' ∧ c ≠ '.')
    (hBehind : ∀ c, behind.head? = some c → c = '[' ∨ c = '.') :
    parse? (root ++ behind) =
      if root = [] then none
      else (readIndex? behind).map fun (index, rest) => ⟨root, index, readRest rest⟩ := by
  have hInside : ∀ c ∈ root, (c != '[' && c != '.') = true := by
    intro c hc
    simpa using hRoot c hc
  -- the name of the root ends where the text is divided
  have hEnds : behind.takeWhile (fun c => c != '[' && c != '.') = [] ∧
      behind.dropWhile (fun c => c != '[' && c != '.') = behind := by
    cases behind with
    | nil => exact ⟨rfl, rfl⟩
    | cons c behind => rcases hBehind c rfl with rfl | rfl <;> exact ⟨rfl, rfl⟩
  simp only [parse?, takeWhile_colon hColon, List.takeWhile_append_of_pos hInside,
    List.dropWhile_append_of_pos hInside, hEnds.1, hEnds.2, List.append_nil, List.isEmpty_iff]

end StepArguments.Path
